/-!
# Templates

A template is text with tags between double braces. A tag shows a value, includes a fragment, opens
or closes a block, or is a comment. Blocks nest, so a template that has been read is a list of nodes
with further nodes inside.
-/

namespace LinkGuard.Template

/-- Where a path starts: at the value in scope, at the data of the whole page, or among the marks
that a loop sets. -/
inductive Origin where
  | here
  | root
  | mark
  deriving DecidableEq, Repr

/-- A way to a value: where it starts, how many scopes it goes out, and the names it follows. -/
structure Path where
  origin : Origin := .here
  outward : Nat := 0
  names : List String
  deriving DecidableEq, Repr

/-- What a call is given. The outcome of another call may be given on. -/
inductive Argument where
  | null
  | flag (value : Bool)
  | number (value : Int)
  | text (value : String)
  | path (path : Path)
  | call (name : String) (plain : List Argument) (named : List (String × Argument))
  deriving Repr

/-- Plain and named arguments. -/
structure Given where
  plain : List Argument := []
  named : List (String × Argument) := []
  deriving Repr

/-- A name with arguments. A call that opens a block may name what the block is about. -/
structure Call extends Given where
  name : String
  parameters : List String := []
  deriving Repr

/-- One part of a template. An included fragment takes over the indentation of its tag, and may be
given nodes that stand in for it. -/
inductive Node where
  | text (content : String)
  | value (path : Path) (escaped : Bool)
  | call (call : Call) (escaped : Bool)
  | block (call : Call) (body otherwise : List Node)
  | fragment (name : Argument) (given : Given) (indentation : String) (standIn : Option (List Node))
  deriving Repr

/-- What a tag says. -/
inductive Order where
  | comment
  | value (path : Path) (escaped : Bool)
  | call (call : Call) (escaped : Bool)
  | fragment (name : Argument) (given : Given)
  | opening (call : Call)
  | openingFragment (name : String) (given : Given)
  | otherwise (call : Option Call)
  | closing (name : String)
  deriving Repr

/-- A tag: its order, and whether it eats the blanks before and after it. -/
structure Tag where
  order : Order
  eatsBefore : Bool
  eatsAfter : Bool
  deriving Repr

end LinkGuard.Template
