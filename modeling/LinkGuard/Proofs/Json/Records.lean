import LinkGuard.Json.Record
import LinkGuard.Proofs.Json.Reading

/-!
# Reading written records back

A record is filled member by member, and which members are still missing matters at its end only.
Written members *fill* a record if each of them is known and new, its written value is read on top
of what is there, and none that is required is missing in the end. A written record is read back as
whatever its members fill the empty record to.
-/

namespace LinkGuard.Json

/-- A member as it stands in a record. -/
def writtenMember : String × String → String
  | (name, value) => text name ++ ":" ++ value

theorem encode_writtenMember (name value : String) :
    Utf8.encode (writtenMember (name, value)) =
      0x22 :: (Utf8.encodeChars (name.toList.flatMap quoteChar) ++ [0x22] ++
        (0x3A :: Utf8.encode value)) := by
  rw [writtenMember, Utf8.encode_append, Utf8.encode_append, encode_text, List.cons_append,
    List.cons_append, List.append_assoc]
  rfl

theorem encode_record (members : List (String × String)) :
    Utf8.encode (record members) =
      0x7B :: (Utf8.encode (",".intercalate (members.map writtenMember)) ++ [0x7D]) := by
  have members_eq : record members =
      "\x7b" ++ ",".intercalate (members.map writtenMember) ++ "\x7d" := rfl
  rw [members_eq, Utf8.encode_append, Utf8.encode_append]
  rfl

theorem Reads.map {α β : Type} {read : Reader α} {bytes : List UInt8} {value : α}
    (reads : Reads read bytes value) (store : α → β) :
    Reads (do pure (store (← read))) bytes (store value) where
  begins := reads.begins
  takes rest ends := Takes.settle (reads.takes rest ends) (Takes.pure (store value) rest)

namespace Shape

variable {α : Type} {shape : Shape α} {fuel : Nat} {first : Bool} {filled : List String}
  {record result : α} {members : List (String × String)}

/-- Read in order on top of a record of which some members are filled, the written members make the
result of it. -/
inductive Fills (shape : Shape α) : List String → α → List (String × String) → α → Prop where
  | nil {filled : List String} {record : α} (complete : shape.missing? filled = none) :
      Fills shape filled record [] record
  | cons {filled : List String} {name value : String} {member : Member α} {record next result : α}
      {rest : List (String × String)}
      (found : shape.members.find? (fun member => member.name == name) = some member)
      (new : filled.contains name = false)
      (reads : Reads (member.read record) (Utf8.encode value) next)
      (fills : Fills shape (name :: filled) next rest result) :
      Fills shape filled record ((name, value) :: rest) result

theorem takes_hasName_end (first : Bool) (rest : List UInt8) :
    Takes (hasName first) [] (0x7D :: rest) false := by
  rw [hasName]
  apply Takes.look (Takes.peekToken rfl _)
  exact Takes.pure false _

theorem takes_hasName_first (rest : List UInt8) :
    Takes (hasName true) [] (0x22 :: rest) true := by
  rw [hasName]
  apply Takes.look (Takes.peekToken rfl _)
  exact Takes.pure true _

theorem takes_hasName_next (rest : List UInt8) :
    Takes (hasName false) [0x2C] (0x22 :: rest) true := by
  rw [hasName]
  apply Takes.look (Takes.peekToken rfl _)
  apply Takes.advance_then
  apply Takes.look (Takes.peekToken rfl _)
  exact Takes.pure true _

theorem takes_colon (rest : List UInt8) : Takes colon [0x3A] rest () := by
  rw [colon]
  apply Takes.look (Takes.peekToken rfl _)
  exact Takes.advance 0x3A rest

theorem takes_endRecord (rest : List UInt8) : Takes endRecord [0x7D] rest () := by
  rw [endRecord]
  apply Takes.look (Takes.peekToken rfl _)
  exact Takes.advance 0x7D rest

theorem takes_fromMembers_end (complete : shape.missing? filled = none) (rest : List UInt8) :
    Takes (shape.fromMembers (fuel + 1) first filled record) [] (0x7D :: rest) record := by
  rw [fromMembers]
  apply Takes.look (takes_hasName_end first rest)
  simp only [Bool.false_eq_true, if_false, complete]
  exact Takes.pure record _

/-- A known and new member is read, and the others on top of it. -/
theorem takes_fromMembers_member {name value : String} {member : Member α} {next : α}
    {separator bytes rest : List UInt8}
    (goesOn : ∀ behind, Takes (hasName first) separator (0x22 :: behind) true)
    (found : shape.members.find? (fun member => member.name == name) = some member)
    (new : filled.contains name = false)
    (reads : Reads (member.read record) (Utf8.encode value) next) (ends : Ends (bytes ++ rest))
    (others : Takes (shape.fromMembers fuel false (name :: filled) next) bytes rest result) :
    Takes (shape.fromMembers (fuel + 1) first filled record)
      (separator ++ (Utf8.encode (writtenMember (name, value)) ++ bytes)) rest result := by
  rw [fromMembers, encode_writtenMember]
  simp only [List.cons_append, List.append_assoc]
  apply Takes.bind (goesOn _)
  rw [if_pos rfl]
  apply Takes.advance_then
  rw [← List.singleton_append, ← List.append_assoc]
  apply Takes.bind (takes_literal name _)
  simp only [found, new, Bool.false_eq_true, if_false]
  rw [← List.singleton_append]
  apply Takes.bind (takes_colon _)
  apply Takes.bind (reads.takes _ ends)
  exact others

theorem Fills.takes_following (fills : shape.Fills filled record members result)
    (enough : members.length < fuel) (rest : List UInt8) :
    Takes (shape.fromMembers fuel false filled record) (following writtenMember members)
      (0x7D :: rest) result := by
  induction fills generalizing fuel with
  | nil complete =>
      cases fuel with
      | zero => exact absurd enough (Nat.not_lt_zero _)
      | succ fuel => exact takes_fromMembers_end complete rest
  | @cons _ name value _ _ _ _ members found new reads fills ih =>
      cases fuel with
      | zero => exact absurd enough (Nat.not_lt_zero _)
      | succ fuel =>
          have others := ih (Nat.lt_of_succ_lt_succ enough)
          have ends := ends_following writtenMember members (ends_brace rest)
          rw [following_cons]
          exact takes_fromMembers_member takes_hasName_next found new reads ends others

theorem Fills.takes_members (fills : shape.Fills filled record members result)
    (enough : members.length < fuel) (rest : List UInt8) :
    Takes (shape.fromMembers fuel true filled record)
      (Utf8.encode (",".intercalate (members.map writtenMember))) (0x7D :: rest) result := by
  cases fuel with
  | zero => exact absurd enough (Nat.not_lt_zero _)
  | succ fuel =>
      cases fills with
      | nil complete => exact takes_fromMembers_end complete rest
      | @cons _ name value _ _ _ _ members found new reads fills =>
          have others := fills.takes_following (Nat.lt_of_succ_lt_succ enough) rest
          have ends := ends_following writtenMember members (ends_brace rest)
          rw [encode_intercalate, ← List.nil_append (Utf8.encode _ ++ _)]
          exact takes_fromMembers_member takes_hasName_first found new reads ends others

end Shape

/-- A written record is read back as what its members fill the empty record to. -/
theorem reads_record {α : Type} {shape : Shape α} {members : List (String × String)} {result : α}
    (fills : shape.Fills [] shape.empty members result) :
    Reads shape.read (Utf8.encode (record members)) result where
  begins := ⟨0x7B, _, encode_record members, rfl, by decide⟩
  takes rest _ := by
    have enough := length_lt_remaining writtenMember members 0x7D rest
    rw [encode_record, Shape.read]
    apply Takes.look (Takes.valueToken rfl _)
    rw [if_neg (by decide), if_pos rfl]
    apply Takes.advance_then
    apply Takes.look (Takes.remaining _)
    apply Takes.bind (fills.takes_members enough rest)
    exact Takes.settle (Shape.takes_endRecord rest) (Takes.pure result rest)

end LinkGuard.Json
