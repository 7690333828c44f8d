import LinkGuard.Template.Syntax

/-!
# Filling in a template

A template is filled in with a record of values. Values are escaped for use in a page unless their
tag says otherwise, and what has been filled in is never read again as template text. A path that
leads nowhere shows nothing; a call of something unknown, or of something known without the
arguments it needs, is a failure.

Fragments are included by name and include nothing themselves, except for the nodes that they were
given at their inclusion. Those nodes also stand in for a fragment that is not there.
-/

namespace LinkGuard.Template

/-- A value that a template can show. -/
inductive Value where
  | null
  | flag (value : Bool)
  | number (value : Int)
  | text (value : String)
  | record (fields : List (String × Value))
  deriving Repr

namespace Value

/-- The text that shows a value. -/
def shown : Value → String
  | null => ""
  | flag value => if value then "true" else "false"
  | number value => toString value
  | text value => value
  | record _ => "[object]"

/-- The values that a condition holds for. Zero may count as one. -/
def isTrue (zeroCounts : Bool) : Value → Bool
  | null => false
  | flag value => value
  | number value => zeroCounts || value ≠ 0
  | text value => !value.isEmpty
  | record fields => !fields.isEmpty

/-- The fields of a record; other values have none. -/
def fields : Value → List (String × Value)
  | record fields => fields
  | _ => []

/-- The value of a field. -/
def field? (value : Value) (name : String) : Option Value :=
  value.fields.lookup name

/-- The value at the end of a chain of fields. -/
def follow? (value : Value) (names : List String) : Option Value :=
  names.foldl (fun value name => value.bind (·.field? name)) (some value)

/-- A field with a new value, in the order of names. -/
def setField (fields : List (String × Value)) (name : String) (value : Value) :
    List (String × Value) :=
  fields.takeWhile (·.1 < name) ++ (name, value) ::
    (fields.dropWhile (·.1 < name)).filter (·.1 ≠ name)

mutual

/-- Equality of values. -/
def same : Value → Value → Bool
  | null, null => true
  | flag left, flag right => left == right
  | number left, number right => left == right
  | text left, text right => left == right
  | record left, record right => sameFields left right
  | _, _ => false

/-- Equality of fields. -/
def sameFields : List (String × Value) → List (String × Value) → Bool
  | [], [] => true
  | (leftName, left) :: leftRest, (rightName, right) :: rightRest =>
    leftName == rightName && left.same right && sameFields leftRest rightRest
  | _, _ => false

end

/-- The order of two values of one kind. -/
def compare? : Value → Value → Option Ordering
  | flag left, flag right => some (compare left right)
  | number left, number right => some (compare left right)
  | text left, text right => some (compare left right)
  | _, _ => none

/-- The number of fields of a record, or the length of a text in bytes. -/
def size : Value → Nat
  | text value => value.utf8ByteSize
  | record fields => fields.length
  | _ => 0

end Value

/-- The written form of one character in a page. -/
def escapeChar (character : Char) : List Char :=
  match character with
  | '&' => "&amp;".toList
  | '<' => "&lt;".toList
  | '>' => "&gt;".toList
  | '\x22' => "&quot;".toList
  | '\x27' => "&#x27;".toList
  | '\x60' => "&#x60;".toList
  | '=' => "&#x3D;".toList
  | _ => [character]

/-- The written form of a text in a page. -/
def escape (text : String) : String := String.ofList (text.toList.flatMap escapeChar)

/-- A value in scope, with the marks of the loop that brought it and the names that the block gave
to values. -/
structure Scope where
  value : Value
  marks : List (String × Value) := []
  names : List (String × Value) := []

/-- What paths are resolved against: the data of the page, and the scopes from the innermost out.
-/
structure Scopes where
  root : Value
  inner : Scope
  outer : List Scope := []

namespace Scopes

/-- The scopes of a page. -/
def ofRoot (root : Value) : Scopes := { root, inner := { value := root } }

/-- Enters a scope. -/
def enter (scopes : Scopes) (scope : Scope) : Scopes :=
  ⟨scopes.root, scope, scopes.inner :: scopes.outer⟩

/-- The scope some steps out; the innermost one when there are not that many. -/
def outward (scopes : Scopes) (steps : Nat) : Scope :=
  ((scopes.inner :: scopes.outer)[steps]?).getD scopes.inner

/-- The value that a block gave a name to. -/
def named? (scopes : Scopes) (name : String) : Option Value :=
  (scopes.inner :: scopes.outer).findSome? fun scope => scope.names.lookup name

/-- The value at a path. A name given by a block comes before the fields in scope. -/
def value? (scopes : Scopes) (path : Path) : Option Value :=
  match path.origin, path.names with
  | .root, names => scopes.root.follow? names
  | .here, name :: rest =>
    match scopes.named? name with
    | some value => value.follow? rest
    | none => (scopes.outward path.outward).value.follow? (name :: rest)
  | .here, [] => some (scopes.outward path.outward).value
  | .mark, name :: _ => (scopes.outward path.outward).marks.lookup name
  | .mark, [] => none

end Scopes

/-- The values that a call was given. -/
structure Inputs where
  plain : List Value
  named : List (String × Value)

/-- The value of a call. Those that are meant for blocks, and the one that writes a log, show
nothing. -/
def outcome? (name : String) (inputs : Inputs) : Option Value :=
  match name, inputs.plain with
  | "lookup", collection :: .text name :: _ => some ((collection.field? name).getD .null)
  | "lookup", _ :: _ :: _ => some .null
  | "eq", left :: right :: _ => some (.flag (left.same right))
  | "ne", left :: right :: _ => some (.flag !(left.same right))
  | "gt", left :: right :: _ => some (.flag ((left.compare? right).any (·.isGT)))
  | "gte", left :: right :: _ => some (.flag ((left.compare? right).any (·.isGE)))
  | "lt", left :: right :: _ => some (.flag ((left.compare? right).any (·.isLT)))
  | "lte", left :: right :: _ => some (.flag ((left.compare? right).any (·.isLE)))
  | "and", left :: right :: _ => some (.flag (left.isTrue false && right.isTrue false))
  | "or", left :: right :: _ => some (.flag (left.isTrue false || right.isTrue false))
  | "not", value :: _ => some (.flag !(value.isTrue false))
  | "len", value :: _ => some (.number value.size)
  | "if", _ :: _ | "unless", _ :: _ | "with", _ :: _ | "each", _ :: _ | "log", _ | "raw", _ =>
    some (.text "")
  | _, _ => none

/-- The calls that are known. A tag with just such a name is a call, whatever the data hold. -/
def calls : List String :=
  ["lookup", "eq", "ne", "gt", "gte", "lt", "lte", "and", "or", "not", "len", "if", "unless",
    "with", "each", "log", "raw"]

namespace Scopes

mutual

/-- The value of an argument; a path that leads nowhere gives null. -/
def argument? (scopes : Scopes) : Argument → Option Value
  | .null => some .null
  | .flag value => some (.flag value)
  | .number value => some (.number value)
  | .text value => some (.text value)
  | .path path => some ((scopes.value? path).getD .null)
  | .call name plain named => do
    outcome? name ⟨← scopes.plainInputs? plain, ← scopes.namedInputs? named⟩

/-- The values of plain arguments. -/
def plainInputs? (scopes : Scopes) : List Argument → Option (List Value)
  | [] => some []
  | argument :: rest => do return (← scopes.argument? argument) :: (← scopes.plainInputs? rest)

/-- The values of named arguments. -/
def namedInputs? (scopes : Scopes) : List (String × Argument) → Option (List (String × Value))
  | [] => some []
  | (name, argument) :: rest => do
    return (name, ← scopes.argument? argument) :: (← scopes.namedInputs? rest)

end

/-- The values of arguments. -/
def inputs? (scopes : Scopes) (given : Given) : Option Inputs := do
  return ⟨← scopes.plainInputs? given.plain, ← scopes.namedInputs? given.named⟩

/-- The scope of an included fragment: its first argument, if any, with the named ones put into
it. -/
def ofFragment (scopes : Scopes) (inputs : Inputs) : Scopes :=
  let given := inputs.plain.head?.getD scopes.inner.value
  let put (fields : List (String × Value)) (field : String × Value) :=
    Value.setField fields field.1 field.2
  let value := if inputs.named.isEmpty then given else .record (inputs.named.foldl put given.fields)
  { scopes with inner := { scopes.inner with value } }

/-- Whether a condition given to a call holds. -/
def holds (inputs : Inputs) (condition : Value) : Bool :=
  let zeroCounts :=
    match inputs.named.lookup "includeZero" with
    | some (.flag value) => value
    | _ => false
  condition.isTrue zeroCounts

/-- The scopes in which the body of a block is filled in, in turn; none at all leave the block to
its other branch. A call that is not meant for blocks has none. -/
def ofBlock? (scopes : Scopes) (call : Call) (inputs : Inputs) : Option (List Scopes) :=
  match call.name, inputs.plain with
  | "if", condition :: _ => some (if holds inputs condition then [scopes] else [])
  | "unless", condition :: _ => some (if holds inputs condition then [] else [scopes])
  | "with", value :: _ =>
    let names :=
      match call.parameters with
      | [name] => [(name, value)]
      | _ => []
    some (if value.isTrue false then [scopes.enter ⟨value, [], names⟩] else [])
  | "each", value :: _ =>
    let count := value.fields.length
    some <| value.fields.mapIdx fun index (key, value) =>
      scopes.enter {
        value
        marks := [("key", .text key), ("index", .number index), ("first", .flag (index = 0)),
          ("last", .flag (index + 1 = count))]
        names := call.parameters.zip [value, .text key] }
  | "raw", _ => some [scopes]
  | _, _ => none

end Scopes

/-- Puts an indentation behind every line end that has something behind it. -/
def indentLines (indentation : List Char) : List Char → List Char
  | [] => []
  | [character] => [character]
  | character :: rest =>
    if character = '\n' then character :: indentation ++ indentLines indentation rest
    else character :: indentLines indentation rest

/-- Whether a text ends a line. -/
def endsLine (text : List Char) : Bool :=
  text.getLast? = some '\n' ∨ text.getLast? = some '\r'

/-- Whether a text begins with the end of a line. -/
def startsWithLineEnd (text : List Char) : Bool :=
  text.head? = some '\n' ∨ text.head? = some '\r'

/-- Indents texts that follow each other. A text that begins a line is indented unless it is
itself the end of one. -/
def indent (indentation : List Char) (lineStarts : Bool) : List (List Char) → List Char
  | [] => []
  | [] :: rest => indent indentation lineStarts rest
  | text :: rest =>
    (if lineStarts && !startsWithLineEnd text then indentation else []) ++
      indentLines indentation text ++ indent indentation (endsLine text) rest

/-- The text of a value in a page. -/
def written (escaped : Bool) (value : Value) : String :=
  if escaped then escape value.shown else value.shown

/-- What nodes give in some scopes, if that does not fail. -/
abbrev Filling := Scopes → Option (List String)

/-- What including a fragment gives, if that does not fail: the scopes, the name, what is given,
the indentation, and what stands in for the fragment. -/
abbrev Inclusion := Scopes → Value → Inputs → String → Option Filling → Option (List String)

mutual

/-- Fills in one node. -/
def fillNode (inclusion : Inclusion) (scopes : Scopes) : Node → Option (List String)
  | .text content => some [content]
  | .value path escaped =>
    match path.origin, path.names with
    | .here, [name] =>
      if calls.contains name then
        (outcome? name ⟨[], []⟩).map fun value => [written escaped value]
      else some [((scopes.value? path).map (written escaped)).getD ""]
    | _, _ => some [((scopes.value? path).map (written escaped)).getD ""]
  | .call call escaped => do
    let value ← outcome? call.name (← scopes.inputs? call.toGiven)
    return [written escaped value]
  | .block call body otherwise => do
    let inputs ← scopes.inputs? call.toGiven
    match scopes.ofBlock? call inputs with
    | none => return [written true (← outcome? call.name inputs)]
    | some [] => fillAll inclusion scopes otherwise
    | some turns => (turns.mapM fun scopes => fillAll inclusion scopes body).map List.flatten
  | .fragment name given indentation standIn => do
    let name ← scopes.argument? name
    let inputs ← scopes.inputs? given
    match standIn with
    | none => inclusion scopes name inputs indentation none
    | some nodes =>
      inclusion scopes name inputs indentation (some fun scopes => fillAll inclusion scopes nodes)

/-- Fills in nodes that follow each other. -/
def fillAll (inclusion : Inclusion) (scopes : Scopes) : List Node → Option (List String)
  | [] => some []
  | node :: rest => do
    let first ← fillNode inclusion scopes node
    return first ++ (← fillAll inclusion scopes rest)

end

/-- The name by which a fragment includes the nodes it was given. -/
def standInName : String := "@partial-block"

/-- Includes the nodes that a fragment was given, and nothing else. -/
def includeStandIn (standIn : Option Filling) : Inclusion :=
  fun scopes name inputs _ _ => do
    if name.shown = standInName then (← standIn) (scopes.ofFragment inputs) else none

/-- Includes a fragment and indents it. -/
def includeFragment (fragments : List (String × List Node)) : Inclusion :=
  fun scopes name inputs indentation standIn => do
    let scopes := scopes.ofFragment inputs
    match fragments.lookup name.shown with
    | none => (← standIn) scopes
    | some nodes =>
      let texts ← fillAll (includeStandIn standIn) scopes nodes
      if indentation.isEmpty then return texts
      else return [String.ofList (indent indentation.toList false (texts.map String.toList))]

/-- Fills in a page. -/
def fill (fragments : List (String × List Node)) (data : Value) (page : List Node) :
    Option String :=
  (fillAll (includeFragment fragments) (.ofRoot data) page).map String.join

end LinkGuard.Template
