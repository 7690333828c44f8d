import LinkGuard.Proofs.Outcome
import LinkGuard.Proofs.Text.Pairs
import LinkGuard.Remote.Client

/-!
# What a request asks

A request to the API names the key, the link and the threats that the engine is subscribed to, each
as a parameter of its query. The link comes from a visitor, so it may look like a query itself. It
is the value of its one parameter all the same, and the rest of the address is that of the search.
-/

namespace LinkGuard

/-- A link to a path begins anew behind the host: it has no query and no fragment. -/
theorem Url.tail_of_atPath {url found : Url} {path : String} (led : url.atPath path = .ok found) :
    found.query = none ∧ found.fragment = none := by
  rw [atPath] at led
  split at led
  case isTrue => cases led
  case isFalse =>
    split at led
    case isTrue =>
      cases led
      exact ⟨rfl, rfl⟩
    case isFalse =>
      cases led
      exact ⟨rfl, rfl⟩

/-- Behind a link without a query and a fragment a query is just added. -/
theorem Url.href_withQuery {url : Url} (noQuery : url.query = none)
    (noFragment : url.fragment = none) (query : String) :
    { url with query := some query }.href = url.href ++ "?" ++ query := by
  simp only [href, noQuery, noFragment, String.append_empty, String.append_assoc]
  rfl

namespace Remote

variable {settings : Settings} {client : Client}

/-- A client has the key and the threats of its settings, and its search lies at the path for it on
the host of the base. -/
theorem Client.of_make (made : Client.make settings = .ok client) :
    client.apiKey = settings.apiKey ∧ client.threats = settings.threats ∧
      ∃ base, Url.parse (dropSlashesEnd settings.apiBase) = .ok base ∧
        base.atPath searchPath = .ok client.searchUrl := by
  rw [make] at made
  split at made
  case isTrue => cases made
  case isFalse =>
    rcases exists_of_bind_eq_ok made with ⟨base, parsed, made⟩
    rcases exists_of_bind_eq_ok made with ⟨searchUrl, led, made⟩
    cases made
    exact ⟨rfl, rfl, base, mapError_eq_ok_iff.mp parsed, mapError_eq_ok_iff.mp led⟩

/-- The address asks a search for parameters: it is the address of the search with a query behind it
of just these, in letters, digits and marks that neither end it nor change its meaning. -/
structure Asks (search : Url) (parameters : List (String × String)) (request : Url) : Prop where
  query : ∃ query, request.query = some query ∧ Form.parse query = parameters ∧
    (∀ character ∈ query.toList, Form.IsQueryCharacter character) ∧
    request.href = search.href ++ "?" ++ query
  scheme : request.scheme = search.scheme
  username : request.username = search.username
  password : request.password = search.password
  host : request.host = search.host
  port : request.port = search.port
  path : request.path = search.path
  fragment : request.fragment = none

theorem Client.asks_requestUrl (made : Client.make settings = .ok client) (uri : String) :
    Asks client.searchUrl (client.parameters uri) (client.requestUrl uri) where
  query := by
    rcases Client.of_make made with ⟨_, _, base, _, led⟩
    have tail := Url.tail_of_atPath led
    refine ⟨_, rfl, Form.parse_write _, fun character mem => ?_, ?_⟩
    · exact Form.isQueryCharacter_of_mem_write mem
    · exact Url.href_withQuery tail.1 tail.2 _
  scheme := rfl
  username := rfl
  password := rfl
  host := rfl
  port := rfl
  path := rfl
  fragment := by
    rcases Client.of_make made with ⟨_, _, base, _, led⟩
    exact (Url.tail_of_atPath led).2

/-- The link can be told from the parameters of its request. -/
theorem Client.uri_eq_of_parameters {first second : String}
    (same : client.parameters first = client.parameters second) : first = second := by
  simp only [parameters, List.cons_append, List.cons.injEq, Prod.mk.injEq, true_and] at same
  exact same.1

theorem Client.requestUrl_injective (client : Client) : Function.Injective client.requestUrl := by
  intro first second same
  have query_eq : Form.write (client.parameters first) = Form.write (client.parameters second) :=
    Option.some.inj (congrArg Url.query same)
  apply client.uri_eq_of_parameters
  rw [← Form.parse_write (client.parameters first), query_eq, Form.parse_write]

/-- Whatever the link is, a request of a client asks the search of the API for the key, the link and
the threats of the settings, in that order, and for nothing else. Requests about different links
are different. -/
theorem asks_key_link_threats (made : Client.make settings = .ok client) :
    (∀ uri, Asks client.searchUrl
      ([("key", settings.apiKey), ("uri", uri)] ++
        settings.threats.map fun threat => ("threatTypes", threat.apiName))
      (client.requestUrl uri)) ∧
    Function.Injective client.requestUrl := by
  rcases Client.of_make made with ⟨key_eq, threats_eq, _⟩
  refine ⟨fun uri => ?_, client.requestUrl_injective⟩
  rw [← key_eq, ← threats_eq]
  exact Client.asks_requestUrl made uri

/-- A link that looks like the end of a query is asked for as it is, and one with a plus sign is not
taken for one with a space. -/
theorem asks_key_link_threats_lookalike :
    let settings : Settings :=
      { apiKey := "k&y", apiBase := "http://api.example:8080/base/?key=0#top",
        threats := [.unwantedSoftware, .malware] }
    ∃ client, Client.make settings = .ok client ∧
      client.searchUrl.href = "http://api.example:8080/v1/uris:search" ∧
      Asks client.searchUrl
        [("key", "k&y"), ("uri", "u&key=2#\n%41é"), ("threatTypes", "UNWANTED_SOFTWARE"),
          ("threatTypes", "MALWARE")]
        (client.requestUrl "u&key=2#\n%41é") ∧
      client.requestUrl "a+b" ≠ client.requestUrl "a b" := by
  intro settings
  have made : Client.make settings = .ok
      ⟨{ scheme := "http", rooted := true, host := some "api.example", port := some 8080,
         path := "/v1/uris:search" }, "k&y", [.unwantedSoftware, .malware], false⟩ := by
    apply eq_ok_of_toOption
    decide +kernel
  rcases asks_key_link_threats made with ⟨asks, injective⟩
  exact ⟨_, made, by decide, asks "u&key=2#\n%41é", injective.ne (by decide)⟩

end Remote

end LinkGuard
