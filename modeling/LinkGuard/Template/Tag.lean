import LinkGuard.Template.Syntax

/-!
# Reading one tag

The inside of a tag is cut into words, quoted texts and signs, and the tag's first sign says what is
to be made of them. A call in parentheses stands for its outcome.
-/

namespace LinkGuard.Template

/-- The blanks between the words of a tag. -/
def isGap (character : Char) : Bool :=
  character = ' ' ∨ character = '\t' ∨ character = '\n' ∨ character = '\r'

/-- A character of a name. -/
def isNameChar (character : Char) : Bool :=
  character.isAlphanum ∨ character = '-' ∨ character = '_' ∨ 0x80 ≤ character.toNat

/-- A character of a word: those of names, and the signs that join names to paths. -/
def isWordChar (character : Char) : Bool :=
  isNameChar character ∨ character = '/' ∨ character = '.' ∨ character = '@'

/-- A piece of the inside of a tag. -/
inductive Token where
  | word (characters : List Char)
  | quoted (text : String)
  | equals
  | opens
  | closes
  | bar
  deriving DecidableEq, Repr

/-- The sign that a character is. -/
def Token.ofSign? : Char → Option Token
  | '=' => some .equals
  | '(' => some .opens
  | ')' => some .closes
  | '|' => some .bar
  | _ => none

/-- How far the reading of pieces has come. Characters are kept last first. -/
inductive Lexing where
  | gap
  | word (read : List Char)
  | bracketed (read : List Char)
  | quoted (quote : Char) (read : List Char)
  | escaped (quote : Char) (read : List Char)

/-- The character that an escape stands for. -/
def unescape? (character : Char) : Option Char :=
  match character with
  | 'n' => some '\n'
  | 'r' => some '\r'
  | 't' => some '\t'
  | 'b' => some '\x08'
  | 'f' => some '\x0c'
  | '\\' => some '\\'
  | '/' => some '/'
  | '\x22' => some '\x22'
  | _ => none

/-- What a first character begins between pieces. -/
def Lexing.start? (character : Char) : Option Lexing :=
  if isGap character then some .gap
  else if isWordChar character then some (.word [character])
  else if character = '[' then some (.bracketed [character])
  else if character = '\x22' ∨ character = '\x27' then some (.quoted character [])
  else none

/-- The pieces of the inside of a tag. -/
def tokens : Lexing → List Char → Option (List Token)
  | .gap, [] => some []
  | .word read, [] => some [.word read.reverse]
  | .bracketed _, [] | .quoted _ _, [] | .escaped _ _, [] => none
  | .gap, character :: rest =>
    match Token.ofSign? character with
    | some sign => (tokens .gap rest).map (sign :: ·)
    | none => (Lexing.start? character).bind (tokens · rest)
  | .word read, character :: rest =>
    if isWordChar character then tokens (.word (character :: read)) rest
    else if character = '[' then tokens (.bracketed (character :: read)) rest
    else
      (match Token.ofSign? character with
        | some sign => (tokens .gap rest).map (sign :: ·)
        | none => (Lexing.start? character).bind (tokens · rest)).map (.word read.reverse :: ·)
  | .bracketed read, character :: rest =>
    if character = ']' then tokens (.word (character :: read)) rest
    else tokens (.bracketed (character :: read)) rest
  | .quoted quote read, character :: rest =>
    if character = quote then (tokens .gap rest).map (.quoted (String.ofList read.reverse) :: ·)
    else if character = '\\' then tokens (.escaped quote read) rest
    else tokens (.quoted quote (character :: read)) rest
  | .escaped quote read, character :: rest =>
    (unescape? character).bind fun meant => tokens (.quoted quote (meant :: read)) rest

/-- Cuts a path at its joints, which do not count inside square brackets. -/
def joints (inside : Bool) (read : List Char) : List Char → List (List Char)
  | [] => [read.reverse]
  | character :: rest =>
    if inside then joints (character ≠ ']') (character :: read) rest
    else if character = '/' ∨ character = '.' then read.reverse :: joints false [] rest
    else joints (character = '[') (character :: read) rest

/-- The name that one item of a path stands for. -/
def itemName? (item : List Char) : Option String :=
  match item with
  | [] => none
  | '[' :: rest =>
    if rest.getLast? = some ']' ∧ ']' ∉ rest.dropLast then some (String.ofList rest.dropLast)
    else none
  | _ => if item.all isNameChar then some (String.ofList item) else none

/-- The items of a path. The word `this` stands for staying where one is. -/
def items? (characters : List Char) : Option (List String) :=
  ((joints false [] characters).mapM itemName?).map (·.filter (· ≠ "this"))

/-- The steps outward at the start of a path, and the rest. -/
def stepsOut : List Char → Nat × List Char
  | '.' :: '.' :: '/' :: rest | '.' :: '.' :: '.' :: rest =>
    let (steps, rest) := stepsOut rest
    (steps + 1, rest)
  | characters => (0, characters)

/-- A path from an origin on. -/
def Path.from? (origin : Origin) (characters : List Char) : Option Path :=
  let (steps, rest) := stepsOut characters
  (items? rest).map fun names => ⟨origin, steps, names⟩

/-- A path behind its optional leading reference to the value in scope. -/
def Path.behindHere? (characters : List Char) : Option Path :=
  match characters with
  | '@' :: 'r' :: 'o' :: 'o' :: 't' :: joint :: rest =>
    if joint = '/' ∨ joint = '.' then Path.from? .root rest
    else Path.from? .mark ('r' :: 'o' :: 'o' :: 't' :: joint :: rest)
  | '@' :: rest => Path.from? .mark rest
  | _ => Path.from? .here characters

/-- The path that a word writes. -/
def Path.read? (characters : List Char) : Option Path :=
  match characters with
  | 't' :: 'h' :: 'i' :: 's' :: '/' :: rest | 't' :: 'h' :: 'i' :: 's' :: '.' :: rest
  | '.' :: '/' :: rest => Path.behindHere? rest
  | _ => Path.behindHere? characters

/-- The number that a word writes in decimal digits. -/
def number? (characters : List Char) : Option Int :=
  let digits (characters : List Char) : Option Nat :=
    if characters ≠ [] ∧ characters.all Char.isDigit then
      some (characters.foldl (fun value digit => value * 10 + (digit.toNat - 48)) 0)
    else none
  match characters with
  | '-' :: rest => (digits rest).map fun value => -(value : Int)
  | _ => (digits characters).map fun value => (value : Int)

/-- The argument that a word writes. -/
def Argument.ofWord? (characters : List Char) : Option Argument :=
  match String.ofList characters with
  | "null" => some .null
  | "true" => some (.flag true)
  | "false" => some (.flag false)
  | "as" | "else" => none
  | _ =>
    match number? characters with
    | some value => some (.number value)
    | none => (Path.read? characters).map .path

/-- The text of a word that is a single name. -/
def name? (characters : List Char) : Option String :=
  if characters ≠ [] ∧ characters.all isNameChar then some (String.ofList characters) else none

/-- A call that is being read, and the name that its next argument is given by, if any. -/
structure Reading where
  call : Call
  awaited : Option String := none

/-- Gives a call its next argument. -/
def Reading.give (reading : Reading) (argument : Argument) : Reading :=
  let call := reading.call
  match reading.awaited with
  | some name => ⟨{ call with named := call.named ++ [(name, argument)] }, none⟩
  | none => ⟨{ call with plain := call.plain ++ [argument] }, none⟩

/-- Reads the arguments of a call, plain and named in any order, up to the end or to the names of
its block. `outer` are the calls around it, from the innermost out. A call in parentheses may have
a path for its name only when it is given nothing. -/
def Reading.arguments? (reading : Reading) (outer : List Reading) : List Token → Option Call
  | [] => if reading.awaited.isNone && outer.isEmpty then some reading.call else none
  | [.word ['a', 's'], .bar, .word first, .bar] => do
    if reading.awaited.isSome || !outer.isEmpty then none
    else some { reading.call with parameters := [← name? first] }
  | [.word ['a', 's'], .bar, .word first, .word second, .bar] => do
    if reading.awaited.isSome || !outer.isEmpty then none
    else some { reading.call with parameters := [← name? first, ← name? second] }
  | .word characters :: .equals :: rest => do
    if reading.awaited.isSome then none
    else Reading.arguments? { reading with awaited := some (← name? characters) } outer rest
  | .opens :: .word characters :: .closes :: rest =>
    Reading.arguments? (reading.give (.call (String.ofList characters) [] [])) outer rest
  | .opens :: .word characters :: rest => do
    Reading.arguments? ⟨{ name := ← name? characters }, none⟩ (reading :: outer) rest
  | .closes :: rest =>
    match outer, reading with
    | caller :: outer, ⟨call, none⟩ =>
      Reading.arguments? (caller.give (.call call.name call.plain call.named)) outer rest
    | _, _ => none
  | .word characters :: rest => do
    Reading.arguments? (reading.give (← Argument.ofWord? characters)) outer rest
  | .quoted content :: rest => Reading.arguments? (reading.give (.text content)) outer rest
  | .equals :: _ | .opens :: _ | .bar :: _ => none

/-- Reads a call of something with a single name. -/
def Call.read? : List Token → Option Call
  | .word characters :: rest => do
    Reading.arguments? ⟨{ name := ← name? characters }, none⟩ [] rest
  | _ => none

/-- Reads arguments alone. -/
def Given.read? (pieces : List Token) : Option Given :=
  (Reading.arguments? ⟨{ name := "" }, none⟩ [] pieces).map Call.toGiven

/-- Reads a call in parentheses and nothing else. -/
def Call.enclosed? (pieces : List Token) : Option Call := do
  match ← Given.read? pieces with
  | ⟨[.call name plain named], []⟩ => some { name, plain, named }
  | _ => none

/-- What is shown by a single item: the value at a path, or the outcome of a call in parentheses. -/
def Order.item? (escaped : Bool) : List Token → Option Order
  | [.word characters] => (Path.read? characters).map (.value · escaped)
  | .opens :: pieces => (Call.enclosed? (.opens :: pieces)).map (.call · escaped)
  | _ => none

/-- What is shown: an item, or the outcome of a call. -/
def Order.shown? (escaped : Bool) (inside : List Char) : Option Order := do
  let pieces ← tokens .gap inside
  match Order.item? escaped pieces with
  | some order => some order
  | none => some (.call (← Call.read? pieces) escaped)

/-- The name of an included fragment and the pieces behind it. The name may hold joints, and may be
the outcome of a call. -/
def fragmentName? : List Token → Option (Argument × List Token)
  | .word characters :: rest => some (.text (String.ofList characters), rest)
  | .opens :: rest => do
    let (inside, behind) := enclosed 0 rest
    let call ← Call.enclosed? (.opens :: inside)
    some (.call call.name call.plain call.named, behind)
  | _ => none
where
  /-- The pieces up to the end of a parenthesis, and those behind it. -/
  enclosed (depth : Nat) : List Token → List Token × List Token
    | [] => ([], [])
    | .closes :: rest =>
      if depth = 0 then ([.closes], rest)
      else
        let (inside, behind) := enclosed (depth - 1) rest
        (.closes :: inside, behind)
    | .opens :: rest =>
      let (inside, behind) := enclosed (depth + 1) rest
      (.opens :: inside, behind)
    | piece :: rest =>
      let (inside, behind) := enclosed depth rest
      (piece :: inside, behind)

/-- An inclusion. -/
def Order.fragment? (inside : List Char) : Option Order := do
  let (name, rest) ← fragmentName? (← tokens .gap inside)
  some (.fragment name (← Given.read? rest))

/-- The beginning of an inclusion with nodes that stand in for the fragment. -/
def Order.openingFragment? (inside : List Char) : Option Order := do
  match ← fragmentName? (← tokens .gap inside) with
  | (.text name, rest) => some (.openingFragment name (← Given.read? rest))
  | _ => none

/-- The end of a block. -/
def Order.closing? (inside : List Char) : Option Order := do
  match ← tokens .gap inside with
  | [.word characters] => some (.closing (String.ofList characters))
  | _ => none

/-- A tag without a leading sign: another branch of a block, or something shown. -/
def Order.plain? (inside : List Char) : Option Order := do
  match ← tokens .gap inside with
  | [.word ['e', 'l', 's', 'e']] => some (.otherwise none)
  | .word ['e', 'l', 's', 'e'] :: rest => some (.otherwise (some (← Call.read? rest)))
  | _ => Order.shown? true inside

/-- The characters without the gaps at both ends. -/
def trimGaps (characters : List Char) : List Char :=
  ((characters.dropWhile isGap).reverse.dropWhile isGap).reverse

/-- Takes a leading tilde off. -/
def tildeBefore (inside : List Char) : Bool × List Char :=
  match inside.dropWhile isGap with
  | '~' :: rest => (true, rest.dropWhile isGap)
  | rest => (false, rest)

/-- Takes a trailing tilde off. -/
def tildeAfter (inside : List Char) : Bool × List Char :=
  match inside.reverse.dropWhile isGap with
  | '~' :: rest => (true, (rest.dropWhile isGap).reverse)
  | rest => (false, rest.reverse)

/-- The order inside a tag whose tildes have been taken off. -/
def Order.read? (inside : List Char) : Option Order :=
  match inside with
  | ['^'] => some (.otherwise none)
  | '&' :: rest => do Order.item? false (← tokens .gap rest)
  | '>' :: rest => Order.fragment? rest
  | '#' :: rest =>
    match rest.dropWhile isGap with
    | '>' :: rest => Order.openingFragment? rest
    | _ => do some (.opening (← Call.read? (← tokens .gap rest)))
  | '/' :: rest => Order.closing? rest
  | _ => Order.plain? inside

/-- Reads the inside of a tag in fourfold braces, which begin and end a text without tags. -/
def Tag.readRaw? (inside : List Char) : Option Tag := do
  let (before, inside) := tildeBefore inside
  let (after, inside) := tildeAfter inside
  match inside with
  | '/' :: rest => (Order.closing? rest).map (⟨·, before, after⟩)
  | _ => some ⟨.opening (← Call.read? (← tokens .gap inside)), before, after⟩

/-- Reads the inside of a tag. A third pair of braces leaves the value as it is. -/
def Tag.read? (inside : List Char) : Option Tag :=
  let (before, inside) := tildeBefore inside
  let (after, inside) := tildeAfter inside
  match inside with
  | '{' :: rest =>
    match rest.reverse with
    | '}' :: rest =>
      let (innerBefore, inside) := tildeBefore rest.reverse
      let (innerAfter, inside) := tildeAfter inside
      (Order.shown? false inside).map (⟨·, before || innerBefore, after || innerAfter⟩)
    | _ => none
  | _ => (Order.read? inside).map (⟨·, before, after⟩)

end LinkGuard.Template
