import LinkGuard.Proofs.Wire.Grammar

/-!
# Values of unknown fields

The value of a field that a message does not know is passed over. It may be a group, which holds
fields of its own and may hold other groups. The bytes that are passed are those behind the key up
to where as many groups are closed as have been opened.
-/

namespace LinkGuard.Wire

/-- The bytes of a value outside groups. -/
inductive IsPlain : Kind → List UInt8 → Prop where
  | varint {value : Nat} {bytes : List UInt8} (number : IsNumber value bytes) :
      IsPlain .varint bytes
  | bits64 {bytes : List UInt8} (length_eq : bytes.length = 8) : IsPlain .bits64 bytes
  | chunk {content bytes : List UInt8} (chunk : IsChunk content bytes) : IsPlain .chunk bytes
  | bits32 {bytes : List UInt8} (length_eq : bytes.length = 4) : IsPlain .bits32 bytes

/-- What the bytes behind one key do to the groups that are open there. -/
inductive Turns (groups : List Nat) (tag : Nat) : Kind → List UInt8 → List Nat → Prop where
  | plain {kind : Kind} {bytes : List UInt8} (plain : IsPlain kind bytes) :
      Turns groups tag kind bytes groups
  | opens : Turns groups tag .groupStart [] (tag :: groups)
  | closes {outer : List Nat} (innermost : groups = tag :: outer) :
      Turns groups tag .groupEnd [] outer

/-- The bytes behind a key, up to where no group is open. -/
inductive Passes : List Nat → Nat → Kind → List UInt8 → Prop where
  | last {groups : List Nat} {tag : Nat} {kind : Kind} {bytes : List UInt8}
      (turns : Turns groups tag kind bytes []) : Passes groups tag kind bytes
  | next {groups inside : List Nat} {tag inner : Nat} {kind other : Kind}
      {bytes key rest : List UInt8} (turns : Turns groups tag kind bytes inside)
      (someOpen : inside ≠ []) (isKey : IsKey inner other key)
      (shallow : ¬(other ≠ .groupEnd ∧ depthLimit ≤ inside.length))
      (passes : Passes inside inner other rest) :
      Passes groups tag kind (bytes ++ (key ++ rest))

/-- The first round of passing a value: the groups that are open behind it, and the bytes. -/
def turn (groups : List Nat) (tag : Nat) (kind : Kind) (bytes : List UInt8) :
    Except Problem (List Nat × List UInt8) :=
  match kind with
  | .varint => (readNumber bytes).map fun (_, rest) => (groups, rest)
  | .bits64 => (take 8 bytes).map fun (_, rest) => (groups, rest)
  | .bits32 => (take 4 bytes).map fun (_, rest) => (groups, rest)
  | .chunk => (readChunk bytes).map fun (_, rest) => (groups, rest)
  | .groupStart => .ok (tag :: groups, bytes)
  | .groupEnd =>
    match groups with
    | opened :: outer => if opened = tag then .ok (outer, bytes) else .error .unexpectedGroupEnd
    | [] => .error .unexpectedGroupEnd

section Unknown

variable {tag fuel : Nat} {kind : Kind} {groups inside : List Nat} {bytes rest : List UInt8}

theorem skip_succ (fuel : Nat) (groups : List Nat) (tag : Nat) (kind : Kind) (bytes : List UInt8) :
    skip (fuel + 1) groups tag kind bytes = (turn groups tag kind bytes).bind
      fun (groups, rest) =>
        if groups = [] then .ok rest
        else (readKey rest).bind fun ((tag, kind), rest) =>
          if kind ≠ .groupEnd ∧ depthLimit ≤ groups.length then .error .tooDeep
          else skip fuel groups tag kind rest := by
  cases kind with
  | groupEnd =>
      cases groups with
      | nil => rfl
      | cons opened outer =>
          simp only [skip, turn]
          split <;> rfl
  | _ => rfl

theorem turn_eq_ok_iff : turn groups tag kind bytes = .ok (inside, rest) ↔
    ∃ taken, bytes = taken ++ rest ∧ Turns groups tag kind taken inside := by
  constructor
  · intro turned
    cases kind with
    | varint =>
        rcases map_eq_ok_iff.mp turned with ⟨⟨value, behind⟩, read_eq, same⟩
        cases same
        rcases readNumber_eq_ok_iff.mp read_eq with ⟨taken, bytes_eq, number⟩
        exact ⟨taken, bytes_eq, .plain (.varint number)⟩
    | bits64 =>
        rcases map_eq_ok_iff.mp turned with ⟨⟨taken, behind⟩, take_eq, same⟩
        cases same
        rcases take_eq_ok_iff.mp take_eq with ⟨length_eq, bytes_eq⟩
        exact ⟨taken, bytes_eq, .plain (.bits64 length_eq)⟩
    | bits32 =>
        rcases map_eq_ok_iff.mp turned with ⟨⟨taken, behind⟩, take_eq, same⟩
        cases same
        rcases take_eq_ok_iff.mp take_eq with ⟨length_eq, bytes_eq⟩
        exact ⟨taken, bytes_eq, .plain (.bits32 length_eq)⟩
    | chunk =>
        rcases map_eq_ok_iff.mp turned with ⟨⟨content, behind⟩, read_eq, same⟩
        cases same
        rcases readChunk_eq_ok_iff.mp read_eq with ⟨taken, bytes_eq, chunk⟩
        exact ⟨taken, bytes_eq, .plain (.chunk chunk)⟩
    | groupStart =>
        cases turned
        exact ⟨[], rfl, .opens⟩
    | groupEnd =>
        simp only [turn] at turned
        split at turned
        case h_1 opened outer =>
          split at turned
          case isTrue same =>
            cases turned
            exact ⟨[], rfl, .closes (by rw [same])⟩
          case isFalse => cases turned
        case h_2 => cases turned
  · rintro ⟨taken, rfl, turns⟩
    cases turns with
    | plain plain =>
        cases plain with
        | varint number =>
            exact map_eq_ok_iff.mpr ⟨_, readNumber_eq_ok_iff.mpr ⟨taken, rfl, number⟩, rfl⟩
        | bits64 length_eq =>
            exact map_eq_ok_iff.mpr ⟨(taken, rest), take_eq_ok_iff.mpr ⟨length_eq, rfl⟩, rfl⟩
        | bits32 length_eq =>
            exact map_eq_ok_iff.mpr ⟨(taken, rest), take_eq_ok_iff.mpr ⟨length_eq, rfl⟩, rfl⟩
        | chunk chunk =>
            exact map_eq_ok_iff.mpr ⟨_, readChunk_eq_ok_iff.mpr ⟨taken, rfl, chunk⟩, rfl⟩
    | opens => rfl
    | closes innermost =>
        subst innermost
        simp [turn]

theorem passes_of_skip (skipped : skip fuel groups tag kind bytes = .ok rest) :
    ∃ taken, bytes = taken ++ rest ∧ Passes groups tag kind taken := by
  induction fuel generalizing groups tag kind bytes with
  | zero => cases skipped
  | succ fuel ih =>
      rw [skip_succ] at skipped
      rcases exists_of_bind_eq_ok skipped with ⟨⟨inside, behind⟩, turned, goesOn⟩
      rcases turn_eq_ok_iff.mp turned with ⟨taken, rfl, turns⟩
      dsimp only at goesOn
      split at goesOn
      case isTrue none =>
        cases goesOn
        subst none
        exact ⟨taken, rfl, .last turns⟩
      case isFalse someOpen =>
        rcases exists_of_bind_eq_ok goesOn with ⟨⟨⟨inner, other⟩, after⟩, read_eq, inward⟩
        rcases readKey_eq_ok_iff.mp read_eq with ⟨key, rfl, isKey⟩
        split at inward
        case isTrue => cases inward
        case isFalse shallow =>
          rcases ih inward with ⟨others, rfl, passes⟩
          exact ⟨taken ++ (key ++ others), by simp, .next turns someOpen isKey shallow passes⟩

theorem skip_of_passes (passes : Passes groups tag kind bytes)
    (enough : (bytes ++ rest).length < fuel) :
    skip fuel groups tag kind (bytes ++ rest) = .ok rest := by
  induction passes generalizing fuel with
  | @last groups tag kind bytes turns =>
      cases fuel with
      | zero => cases enough
      | succ fuel =>
          have turned : turn groups tag kind (bytes ++ rest) = .ok ([], rest) :=
            turn_eq_ok_iff.mpr ⟨bytes, rfl, turns⟩
          rw [skip_succ, turned]
          rfl
  | @next groups inside tag inner kind other bytes key others turns someOpen isKey shallow _ ih =>
      cases fuel with
      | zero => cases enough
      | succ fuel =>
          have filled := isKey.length_pos
          simp only [List.append_assoc, List.length_append] at enough ⊢
          have turned : turn groups tag kind (bytes ++ (key ++ (others ++ rest))) =
              .ok (inside, key ++ (others ++ rest)) :=
            turn_eq_ok_iff.mpr ⟨bytes, rfl, turns⟩
          have read_eq : readKey (key ++ (others ++ rest)) = .ok ((inner, other), others ++ rest) :=
            readKey_eq_ok_iff.mpr ⟨key, rfl, isKey⟩
          have left : (others ++ rest).length < fuel := by
            rw [List.length_append]
            omega
          rw [skip_succ, turned]
          simp only [Except.bind, someOpen, if_false, read_eq, shallow, ih left]

end Unknown

end LinkGuard.Wire
