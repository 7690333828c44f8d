import LinkGuard.Asset.Embedded
import LinkGuard.Redirect
import LinkGuard.Template.Read
import LinkGuard.Template.Render

/-!
# Warning pages

A warning page is the base page of an asset store with the fragment for a threat included in it.
Both are read anew for each page, the fragment first, and filled in with the threat and the link it
is about.
-/

namespace LinkGuard

/-- Why there is no page. -/
inductive PageError where
  | asset (error : AssetError)
  | encoding (path : String)
  | template (path : String)
  | rendering
  deriving DecidableEq, Repr

/-- The text of the error. -/
def PageError.message : PageError → String
  | asset error => error.message
  | encoding path => "template " ++ path ++ " is not valid UTF-8"
  | template path => "template error: " ++ path
  | rendering => "render error"

namespace Page

/-- The path of the page around every warning. -/
def base : String := "/interstitial.html"

/-- The name under which the base page includes the fragment for a threat. -/
def fragmentName : String := "threat"

/-- The text of a template. -/
def load (store : AssetStore) (path : String) : Except PageError String :=
  match store path with
  | .error error => .error (.asset error)
  | .ok bytes =>
    match Utf8.decode? bytes with
    | some text => .ok text
    | none => .error (.encoding path)

/-- Reads the text of a template. -/
def parse (path source : String) : Except PageError (List Template.Node) :=
  match Template.read? source with
  | some nodes => .ok nodes
  | none => .error (.template path)

/-- What a page shows: the threat by its name in the protocol and by its title, and the link with
its host, which is empty for links without one. The names are in order. -/
def data (threat : Threat) (target : Url) : Template.Value :=
  .record [
    ("host", .text (target.host.getD "")),
    ("name", .text threat.title),
    ("threatType", .text threat.apiName),
    ("url", .text target.href)]

/-- The warning page for a link. -/
def warning (store : AssetStore) (threat : Threat) (fragment : String) (target : Url) :
    Except PageError String := do
  let fragmentText ← load store fragment
  let baseText ← load store base
  let fragmentNodes ← parse fragment fragmentText
  let baseNodes ← parse base baseText
  match Template.fill [(fragmentName, fragmentNodes)] (data threat target) baseNodes with
  | some page => .ok page
  | none => .error .rendering

end Page

end LinkGuard
