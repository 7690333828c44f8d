import LinkGuard.Text.Form

/-!
# Query parameters

Of each parameter the first value counts, even when it is empty.
-/

namespace LinkGuard.Query

/-- The format selector of a query. -/
def selector? (query : Option String) : Option String :=
  Form.firstValue? "alt" (Form.parse (query.getD ""))

/-- The link of a query. An empty one is none. -/
def link? (query : Option String) : Option String :=
  (Form.firstValue? "url" (Form.parse (query.getD ""))).filter (· ≠ "")

end LinkGuard.Query
