import LinkGuard.Template.Tag

/-!
# Cutting a template into text and tags

Double braces begin a tag, unless a backslash stands before them; of two or more backslashes one is
dropped and the tag counts. A tag ends at the next double braces that are not quoted, a comment at
its first ones, and a comment that begins and ends with dashes may hold braces. Between tags in
fourfold braces all is text.
-/

namespace LinkGuard.Template

/-- A template cut into pieces: each tag with the text before it, and the text at the end. -/
structure Pieces where
  tags : List (List Char × Tag)
  last : List Char

/-- Puts a text and a tag before the rest. -/
def Pieces.add (text : List Char) (tag : Tag) (pieces : Pieces) : Pieces :=
  { pieces with tags := (text, tag) :: pieces.tags }

/-- How far the cutting has come. Characters are kept last first, and a tag remembers the text
before it. A long comment counts the dashes of its beginning that are still to come. -/
inductive Scanning where
  | text (read : List Char)
  | tag (text read : List Char)
  | quoted (text : List Char) (quote : Char) (escaped : Bool) (read : List Char)
  | rawOpening (text read : List Char)
  | raw (read : List Char)
  | rawClosing (text read : List Char)
  | comment (text : List Char)
  | dashes (text : List Char) (opening : Nat)

/-- The tag that a comment is. -/
def Tag.comment : Tag := ⟨.comment, false, false⟩

/-- The text before double braces, with what a backslash before them makes of it: the text and
whether the braces begin a tag. -/
def unguarded (read : List Char) : List Char × Bool :=
  match read with
  | '\\' :: '\\' :: rest => ('\\' :: rest, true)
  | '\\' :: rest => ('{' :: '{' :: rest, false)
  | _ => (read, true)

/-- Whether a long comment ends somewhere ahead. -/
def hasDashedEnd : List Char → Bool
  | '-' :: '-' :: '}' :: '}' :: _ => true
  | _ :: rest => hasDashedEnd rest
  | [] => false

/-- Whether a long comment begins here and ends. -/
def isDashed (ahead : List Char) : Bool :=
  match ahead.dropWhile isGap with
  | '-' :: '-' :: rest => hasDashedEnd rest
  | _ => false

/-- Whether the tag read so far has an open brace of its own. -/
def hasOwnBrace (read : List Char) : Bool :=
  (tildeBefore read.reverse).2.head? = some '{' ∧ '}' ∉ read

/-- Cuts a template into pieces. There are none when a tag does not end or makes no sense. -/
def scan : Scanning → List Char → Option Pieces
  | .text read, [] => some ⟨[], read.reverse⟩
  | .text read, '{' :: '{' :: '{' :: '{' :: rest =>
    match unguarded read with
    | (text, true) => scan (.rawOpening text []) rest
    | (text, false) => scan (.text ('{' :: '{' :: text)) rest
  | .text read, '{' :: '{' :: rest =>
    match unguarded read with
    | (text, true) => scan (.tag text []) rest
    | (text, false) => scan (.text text) rest
  | .text read, character :: rest => scan (.text (character :: read)) rest
  | .tag text read, '}' :: '}' :: '}' :: rest =>
    if hasOwnBrace read then do
      let tag ← Tag.read? ('}' :: read).reverse
      return (← scan (.text []) rest).add text.reverse tag
    else do
      let tag ← Tag.read? read.reverse
      return (← scan (.text ['}']) rest).add text.reverse tag
  | .tag text read, '}' :: '}' :: rest => do
    let tag ← Tag.read? read.reverse
    return (← scan (.text []) rest).add text.reverse tag
  | .tag text read, character :: rest =>
    if character = '!' ∧ read.all isGap then
      scan (if isDashed rest then .dashes text 2 else .comment text) rest
    else if character = '\x22' ∨ character = '\x27' then
      scan (.quoted text character false (character :: read)) rest
    else scan (.tag text (character :: read)) rest
  | .quoted text quote escaped read, character :: rest =>
    if character = quote ∧ !escaped then scan (.tag text (character :: read)) rest
    else scan (.quoted text quote (character = '\\' ∧ !escaped) (character :: read)) rest
  | .rawOpening text read, '}' :: '}' :: '}' :: '}' :: rest => do
    let tag ← Tag.readRaw? read.reverse
    return (← scan (.raw []) rest).add text.reverse tag
  | .rawOpening text read, character :: rest => scan (.rawOpening text (character :: read)) rest
  | .raw read, '{' :: '{' :: '{' :: '{' :: rest => scan (.rawClosing read []) rest
  | .raw read, character :: rest => scan (.raw (character :: read)) rest
  | .rawClosing text read, '}' :: '}' :: '}' :: '}' :: rest => do
    let tag ← Tag.readRaw? read.reverse
    return (← scan (.text []) rest).add text.reverse tag
  | .rawClosing text read, character :: rest => scan (.rawClosing text (character :: read)) rest
  | .comment text, '}' :: '}' :: rest => do
    return (← scan (.text []) rest).add text.reverse .comment
  | .comment text, _ :: rest => scan (.comment text) rest
  | .dashes text (opening + 1), character :: rest =>
    scan (.dashes text (if character = '-' then opening else opening + 1)) rest
  | .dashes text 0, '-' :: '-' :: '}' :: '}' :: rest => do
    return (← scan (.text []) rest).add text.reverse .comment
  | .dashes text 0, _ :: rest => scan (.dashes text 0) rest
  | .tag _ _, [] | .quoted _ _ _ _, [] | .comment _, [] | .dashes _ _, [] => none
  | .rawOpening _ _, [] | .raw _, [] | .rawClosing _ _, [] => none

end LinkGuard.Template
