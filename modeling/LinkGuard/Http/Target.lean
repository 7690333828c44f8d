import LinkGuard.Text.Letters

/-!
# Request targets

A request names what it wants by a path and an optional query, with or without a scheme and a host
in front. The part behind a number sign never counts.
-/

namespace LinkGuard.Http

/-- A path and a query, both still percent-encoded. -/
structure Target where
  path : String
  query : Option String
  deriving DecidableEq, Repr

/-- The characters behind a scheme and a host, if they are there. -/
def behindAuthority (characters : List Char) : List Char :=
  match characters.dropWhile fun character => character ≠ ':' ∧ character ≠ '/' with
  | ':' :: '/' :: '/' :: rest =>
    match rest.dropWhile fun character => character ≠ '/' ∧ character ≠ '?' with
    | '/' :: path => '/' :: path
    | other => '/' :: other
  | _ => characters

/-- Reads a target. -/
def Target.read (text : String) : Target :=
  let characters := behindAuthority (text.toList.takeWhile (· ≠ '#'))
  let path := String.ofList (characters.takeWhile (· ≠ '?'))
  match characters.dropWhile (· ≠ '?') with
  | _ :: query => ⟨path, some (String.ofList query)⟩
  | [] => ⟨path, none⟩

end LinkGuard.Http
