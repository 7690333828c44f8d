import LinkGuard.Template.Scan
import LinkGuard.Text.Blank

/-!
# Reading a template

The pieces of a template are put together in order, with a stack of the blocks that are open. A tag
other than a value that stands alone on its line takes that line with it, and a tilde eats the
blanks on its side. The line of an included fragment keeps its indentation, since the fragment is
indented by it.
-/

namespace LinkGuard.Template

/-- What is open: a block, with the branch being read, the branches already read, last first, and the
body of the last named branch once the branch for all other cases has begun; or an inclusion that
is given nodes to stand in. -/
inductive Opened where
  | block (call : Call) (branches : List (Call × List Node)) (body : Option (List Node))
  | fragment (given : Given)

/-- Something that is still open: the name that closes it, and the nodes before it. -/
structure Frame where
  name : String
  before : List Node
  opened : Opened

/-- The node that something is once it is closed. -/
def Opened.node (name : String) (last : List Node) : Opened → Node
  | .block call branches body =>
    let innermost : Node :=
      match body with
      | some body => .block call body last
      | none => .block call last []
    branches.foldl (fun inner (call, body) => .block call body [inner]) innermost
  | .fragment given => .fragment (.text name) given "" (some last)

/-- A template in the making. Nodes are kept last first. -/
structure Draft where
  nodes : List Node := []
  frames : List Frame := []
  eatsBlanks : Bool := false
  eatsLine : Bool := false

/-- A blank that does not end a line. -/
def isIndent (character : Char) : Bool := character = ' ' ∨ character = '\t'

/-- A character that ends a line. -/
def isLineEnd (character : Char) : Bool := character = '\n' ∨ character = '\r'

/-- The characters without the indentation at their end. -/
def dropIndentEnd (characters : List Char) : List Char :=
  (characters.reverse.dropWhile isIndent).reverse

/-- The indentation at the end. -/
def indentEnd (characters : List Char) : List Char :=
  (characters.reverse.takeWhile isIndent).reverse

/-- The characters behind a rest of line that is blank. -/
def dropLine (characters : List Char) : List Char :=
  match characters.dropWhile isIndent with
  | '\r' :: '\n' :: rest | '\n' :: rest => rest
  | rest => rest

/-- How a tag stands among the text around it. -/
structure Setting where
  opensLine : Bool
  closesLine : Bool
  endsText : Bool
  indentation : List Char

/-- The setting of a tag between two texts. -/
def Setting.between (first last : Bool) (before after : List Char) : Setting where
  opensLine := match (dropIndentEnd before).getLast? with
    | some character => isLineEnd character
    | none => first
  closesLine := ((after.dropWhile isIndent).head?.map isLineEnd).getD false
  endsText := last && after.isEmpty
  indentation := indentEnd before

/-- A tag that has a line for itself. -/
def Setting.standsAlone (setting : Setting) : Bool :=
  setting.opensLine && (setting.closesLine || setting.endsText)

namespace Draft

/-- Adds a text, less what the tag before it eats. -/
def addText (draft : Draft) (characters : List Char) : Draft :=
  if characters.isEmpty || (draft.eatsBlanks && characters.all isGap) then draft
  else
    let kept :=
      if draft.eatsBlanks then characters.dropWhile Text.isBlank
      else if draft.eatsLine then dropLine characters
      else characters
    { draft with nodes := .text (String.ofList kept) :: draft.nodes, eatsLine := false }

/-- Shortens the text at the end, if there is one. -/
def shorten (shorter : List Char → List Char) (draft : Draft) : Draft :=
  match draft.nodes with
  | .text content :: rest =>
    { draft with nodes := .text (String.ofList (shorter content.toList)) :: rest }
  | _ => draft

/-- Gives up the line of a tag that stands alone. -/
def giveLine (alone : Bool) (draft : Draft) : Draft :=
  { (if alone then draft.shorten dropIndentEnd else draft) with eatsLine := alone }

/-- Adds a node. -/
def add (node : Node) (draft : Draft) : Draft :=
  { draft with nodes := node :: draft.nodes }

/-- Opens a block or an inclusion. -/
def enter (name : String) (opened : Opened) (draft : Draft) : Draft :=
  { draft with nodes := [], frames := ⟨name, draft.nodes, opened⟩ :: draft.frames }

/-- Begins another branch of the innermost block. None follows the one for all other cases. -/
def branch? (call : Option Call) (draft : Draft) : Option Draft :=
  match draft.frames with
  | ⟨name, before, .block current branches none⟩ :: frames =>
    let opened : Opened :=
      match call with
      | some call => .block call ((current, draft.nodes.reverse) :: branches) none
      | none => .block current branches (some draft.nodes.reverse)
    some { draft with nodes := [], frames := ⟨name, before, opened⟩ :: frames }
  | _ => none

/-- Closes what was opened last, by its name. -/
def leave? (name : String) (draft : Draft) : Option Draft :=
  match draft.frames with
  | ⟨opened, before, inside⟩ :: frames =>
    if name = opened then
      some { draft with nodes := inside.node name draft.nodes.reverse :: before, frames := frames }
    else none
  | [] => none

/-- Adds a tag. A comment leaves an empty text, which keeps the tag behind it from eating further
back. -/
def addTag? (draft : Draft) (setting : Setting) (tag : Tag) : Option Draft :=
  let eaten := if tag.eatsBefore then draft.shorten Text.dropBlanksEnd else draft
  let draft := { eaten with eatsBlanks := tag.eatsAfter }
  let alone := setting.standsAlone
  match tag.order with
  | .comment =>
    some (({ draft with eatsBlanks := eaten.eatsBlanks }.giveLine alone).add (.text ""))
  | .value path escaped => some (draft.add (.value path escaped))
  | .call call escaped => some (draft.add (.call call escaped))
  | .fragment name given =>
    let indentation := if tag.eatsBefore then [] else setting.indentation
    some ({ draft with eatsLine := setting.opensLine && setting.closesLine }.add
      (.fragment name given (String.ofList indentation) none))
  | .opening call => some ((draft.giveLine alone).enter call.name (.block call [] none))
  | .openingFragment name given => some ((draft.giveLine alone).enter name (.fragment given))
  | .otherwise call => (draft.giveLine alone).branch? call
  | .closing name => (draft.giveLine alone).leave? name

/-- Adds the pieces of a template in order. -/
def addPieces? (last : List Char) (first : Bool) (draft : Draft) :
    List (List Char × Tag) → Option Draft
  | [] => some (draft.addText last)
  | (text, tag) :: rest => do
    let after := (rest.head?.map Prod.fst).getD last
    let setting := Setting.between first rest.isEmpty text after
    addPieces? last false (← (draft.addText text).addTag? setting tag) rest

end Draft

/-- Reads a template. There is none when a tag makes no sense or a block does not close. -/
def read? (source : String) : Option (List Node) := do
  let pieces ← scan (.text []) source.toList
  let draft ← Draft.addPieces? pieces.last true {} pieces.tags
  if draft.frames.isEmpty then some draft.nodes.reverse else none

end LinkGuard.Template
