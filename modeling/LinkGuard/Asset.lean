import LinkGuard.Text.Letters
import LinkGuard.Text.Utf8

/-!
# Assets

Assets are the templates and static files of the warning pages. They are named by rooted paths;
leading slashes do not matter, and a path that leads upwards or contains a backslash is refused
before anything is looked up.
-/

namespace LinkGuard

/-- Why there is no asset. -/
inductive AssetError where
  | notFound (path : String)
  | invalidPath (path : String)
  deriving DecidableEq, Repr

/-- The text of the error. -/
def AssetError.message : AssetError → String
  | notFound path => "asset not found: " ++ path
  | invalidPath path => "invalid asset path: " ++ path

/-- A store of assets: what opening a path gives. -/
abbrev AssetStore := String → Except AssetError (List UInt8)

namespace Asset

/-- The rooted form of a path. -/
def normalize (path : String) : Except AssetError String :=
  let trimmed := path.toList.dropWhile (· = '/')
  if ['.', '.'] ∈ Text.splitChars '/' trimmed ∨ '\\' ∈ trimmed then .error (.invalidPath path)
  else .ok (String.ofList ('/' :: trimmed))

/-- A store that holds a list of named texts and opens them by the rooted form of a path. -/
def listed (assets : List (String × String)) : AssetStore := fun path => do
  let path ← normalize path
  match assets.find? fun asset => asset.1 == path with
  | some (_, text) => .ok (Utf8.encode text)
  | none => .error (.notFound path)

/-- The characters behind the last point, or none without a point. -/
def extension (path : String) : String :=
  let behind := path.toList.reverse.takeWhile (· ≠ '.')
  if behind.length = path.length then "" else String.ofList behind.reverse

/-- The content type that a path suggests. -/
def contentType (path : String) : String :=
  match Text.lower (extension path) with
  | "html" | "htm" => "text/html; charset=utf-8"
  | "css" => "text/css; charset=utf-8"
  | "js" => "text/javascript; charset=utf-8"
  | "tmpl" | "txt" => "text/plain; charset=utf-8"
  | "json" => "application/json"
  | "svg" => "image/svg+xml"
  | "png" => "image/png"
  | "ico" => "image/x-icon"
  | _ => "application/octet-stream"

end Asset

end LinkGuard
