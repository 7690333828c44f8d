import LinkGuard.Asset.Embedded
import LinkGuard.Endpoint.Service
import LinkGuard.Proofs.Cache.Table
import LinkGuard.Proofs.Remote.Answers
import LinkGuard.Proofs.Remote.Steps
import LinkGuard.Proofs.Text.Form
import LinkGuard.Remote.Batch

/-!
# Who gets to see the key

The key of the API is part of every address that an engine fetches, and callers are not meant to
see it. We compare two sessions whose settings differ in the key alone, over a network that does
not tell the keys apart, and ask whether callers are handed the same.

The steps of a lookup use the key in two places: to build the address that is fetched, and in the
text of a failure that shows this address. The network hides the first use. A reply is *readable*
when interpreting it shows no address: it has a status that is no success, or a body that has
arrived whole and can be read. If all replies are readable, every step is the same function for
both keys, and so is everything built from steps. One unreadable reply is enough to tell the keys
apart, because the address of a request determines the key in it.
-/

namespace LinkGuard.Remote

/-- What callers ask of an engine: lookups at the same time in some order of their steps, its
report, or the service of a request over it. -/
inductive Call where
  | lookup (order : List Nat) (urls : List String)
  | report
  | serve (request : Http.Request)

/-- What callers are handed. -/
inductive Handed where
  | answer (answer : EngineAnswer)
  | report (report : EngineReport)
  | response (response : Http.Response)

section Sessions

variable {m : Type → Type} [Monad m]

/-- Has an engine answer a call. -/
def Call.run (outside : Outside m) (setup : Setup) (store : AssetStore) :
    Call → StateT State m Handed
  | lookup order urls => return .answer (← lookupTogether outside setup order urls)
  | report => return .report (← (engine outside setup).report)
  | serve request => return .response (← (LinkGuard.serve store request).run (engine outside setup))

/-- Starts an engine over a cache and makes calls one after another. -/
def session (outside : Outside m) (store : AssetStore) (settings : Settings) (cache : Cache.File)
    (calls : List Call) : Except ClientError (m (List Handed)) := do
  let setup ← Setup.make settings
  return (calls.mapM (Call.run outside setup store)).run' { cache }

end Sessions

/-- The settings with another key. -/
def Settings.withKey (settings : Settings) (key : String) : Settings :=
  { settings with apiKey := key }

/-- The client with another key. -/
def Client.withKey (client : Client) (key : String) : Client :=
  { client with apiKey := key }

/-- The setup whose client has another key. -/
def Setup.withKey (setup : Setup) (key : String) : Setup :=
  { setup with client := setup.client.withKey key }

/-- The network gives the same for either key. -/
def Outside.Confuses {m : Type → Type} (outside : Outside m) (first second : String) : Prop :=
  ∀ (client : Client) (url : String),
    outside.fetch ((client.withKey first).requestUrl url) =
      outside.fetch ((client.withKey second).requestUrl url)

theorem Client.make_withKey (settings : Settings) (key : String) :
    Client.make (settings.withKey key) = (Client.make settings).map (·.withKey key) := by
  by_cases invalid : settings.proxy.any (!namesProxy ·) = true
  · simp only [Client.make, Settings.withKey, invalid, if_true, Except.map]
  · simp only [Client.make, Settings.withKey, invalid, Bool.false_eq_true, if_false]
    cases (Url.parse (dropSlashesEnd settings.apiBase)).mapError ClientError.url with
    | error error => rfl
    | ok base =>
        simp only [bind, Except.bind]
        cases (base.atPath searchPath).mapError ClientError.url with
        | error error => rfl
        | ok searchUrl => rfl

@[simp]
theorem Client.searchUrl_withKey (client : Client) (key : String) :
    (client.withKey key).searchUrl = client.searchUrl :=
  rfl

/-- Whether settings can be used does not depend on the key, as long as it is not blank. -/
theorem Setup.make_withKey (settings : Settings) {first second : String}
    (firstGiven : Text.trim first ≠ "") (secondGiven : Text.trim second ≠ "") :
    Setup.make (settings.withKey second) =
      (Setup.make (settings.withKey first)).map (·.withKey second) := by
  have sameCheck : (settings.withKey second).check = (settings.withKey first).check := by
    simp [Settings.check, Settings.withKey, firstGiven, secondGiven]
  simp only [Setup.make, sameCheck, Client.make_withKey]
  cases ((settings.withKey first).check.mapError ClientError.settings) with
  | error error => rfl
  | ok _ =>
      cases Client.make settings with
      | error error => rfl
      | ok client => rfl

/-- Interpreting the reply shows no address. -/
def Reply.IsReadable : Reply → Prop
  | unreachable => False
  | response status body => 200 ≤ status ∧ status < 300 → (body.bind Answer.read?).isSome = true

variable {client : Client} {reply : Reply}

theorem Client.interpret_withKey (fetched : client.searchUrl.scheme ∈ fetchedSchemes)
    (readable : reply.IsReadable) (key url : String) :
    (client.withKey key).interpret url reply = client.interpret url reply := by
  cases reply with
  | unreachable => exact readable.elim
  | response status body =>
      rw [interpret_response fetched, interpret_response (by simpa using fetched)]
      by_cases success : 200 ≤ status ∧ status < 300
      · rcases Option.isSome_iff_exists.mp (readable success) with ⟨answer, answer_eq⟩
        simp only [answer_eq]
      · simp only [success, if_false]

/-- A reply that is not readable, or an address that cannot be fetched, ends in a failure that
shows the address behind a text of its own. -/
theorem Client.interpret_eq_shownUrl (client : Client) (url : String) {reply : Reply}
    (shown : client.searchUrl.scheme ∈ fetchedSchemes → ¬reply.IsReadable) :
    ∃ problem, ∀ key, (client.withKey key).interpret url reply =
      .error (.http (problem ++ shownUrl ((client.withKey key).requestUrl url))) := by
  by_cases fetched : client.searchUrl.scheme ∈ fetchedSchemes
  · have unreadable := shown fetched
    cases reply with
    | unreachable =>
        exact ⟨_, fun key => interpret_unreachable (by simpa using fetched) url⟩
    | response status body =>
        simp only [Reply.IsReadable, Classical.not_imp, Bool.not_eq_true,
          Option.isSome_eq_false_iff, Option.isNone_iff_eq_none] at unreadable
        rcases unreadable with ⟨success, unread⟩
        refine ⟨"error decoding response body", fun key => ?_⟩
        rw [interpret_response (by simpa using fetched), if_pos success, unread]
  · exact ⟨_, fun key => interpret_unfetched (by simpa using fetched) url reply⟩

/-- The parameters of a request begin with the key. -/
theorem Client.write_parameters (client : Client) (url : String) :
    Form.write (client.parameters url) =
      Form.encode "key" ++ "=" ++ (Form.encode client.apiKey ++ "&" ++
        Form.write (("uri", url) :: client.threats.map fun threat =>
          ("threatTypes", threat.apiName))) := by
  simp only [Form.write, Client.parameters, List.cons_append, List.nil_append, List.map_cons,
    String.intercalate_cons_cons, String.append_assoc]

theorem Client.key_eq_of_write_parameters {first second url : String}
    (same : Form.write ((client.withKey first).parameters url) =
      Form.write ((client.withKey second).parameters url)) : first = second := by
  rw [write_parameters, write_parameters, String.append_right_inj] at same
  exact Form.left_eq_right_of_encode_append same

/-- Links that differ in the query alone are shown alike only if it is the same. -/
theorem query_eq_of_shownUrl {url : Url} {first second : String}
    (same : shownUrl { url with query := some first } =
      shownUrl { url with query := some second }) : first = second := by
  simp only [shownUrl, Url.href, Url.authority, Url.userInfo, String.append_assoc,
    String.append_right_inj] at same
  exact (String.append_left_inj _).mp same

theorem Client.key_eq_of_shownUrl {first second url : String}
    (same : shownUrl ((client.withKey first).requestUrl url) =
      shownUrl ((client.withKey second).requestUrl url)) : first = second :=
  have sameQuery : Form.write ((client.withKey first).parameters url) =
      Form.write ((client.withKey second).parameters url) :=
    @query_eq_of_shownUrl client.searchUrl _ _ same
  key_eq_of_write_parameters sameQuery

section SameSteps

variable {m : Type → Type} [Monad m] {outside : Outside m} {first second : Setup}

theorem settle_congr (same : advance outside first = advance outside second) :
    settle outside first = settle outside second := by
  funext url progress
  simp only [settle, same]

theorem stepAt_congr (same : advance outside first = advance outside second) :
    stepAt outside first = stepAt outside second := by
  funext place batch
  induction batch generalizing place with
  | nil => cases place <;> rfl
  | cons pending rest ih =>
      cases place with
      | zero => simp only [stepAt, same]
      | succ place => simp only [stepAt, ih]

theorem interleave_congr (same : advance outside first = advance outside second) :
    interleave outside first = interleave outside second := by
  funext order
  induction order with
  | nil => rfl
  | cons place order ih =>
      funext batch
      simp only [interleave, stepAt_congr same, ih]

theorem settleAll_congr (same : advance outside first = advance outside second) :
    settleAll outside first = settleAll outside second := by
  funext batch
  induction batch with
  | nil => rfl
  | cons pending rest ih => simp only [settleAll, settle_congr same, ih]

theorem lookupAll_congr (same : advance outside first = advance outside second) :
    lookupAll outside first = lookupAll outside second := by
  funext urls
  rw [← settleAll_waiting, ← settleAll_waiting, settleAll_congr same]

/-- Calls see nothing of a setup but the steps that it takes. -/
theorem Call.run_congr (same : advance outside first = advance outside second)
    (store : AssetStore) : Call.run outside first store = Call.run outside second store := by
  have sameEngine : engine outside first = engine outside second := by
    simp only [engine, lookupAll_congr same]
  funext call
  cases call with
  | lookup order urls =>
      simp only [run, lookupTogether, interleave_congr same, settleAll_congr same]
  | report => simp only [run, sameEngine]
  | serve request => simp only [run, sameEngine]

end SameSteps

theorem State.receive_withKey {setup : Setup}
    (fetched : setup.client.searchUrl.scheme ∈ fetchedSchemes)
    (readable : reply.IsReadable) (key url : String) (now : Instant) (state : State) :
    state.receive (setup.withKey key) url reply now = state.receive setup url reply now := by
  have sameMeaning : (setup.withKey key).client.interpret url reply =
      setup.client.interpret url reply :=
    Client.interpret_withKey fetched readable key url
  simp only [receive, sameMeaning]
  rfl

/-- Over a network that confuses two keys and replies readably, no step tells them apart. -/
theorem advance_withKey {World : Type} {outside : Outside (StateM World)} {setup : Setup}
    {first second : String} (confuses : outside.Confuses first second)
    (readable : ∀ url world, setup.client.searchUrl.scheme ∈ fetchedSchemes ∧
      (outside.fetch url world).1.IsReadable) :
    advance outside (setup.withKey first) = advance outside (setup.withKey second) := by
  funext url progress
  cases progress with
  | waiting => rfl
  | asking =>
      funext state world
      have sameFetch : outside.fetch ((setup.withKey first).client.requestUrl url) =
          outside.fetch ((setup.withKey second).client.requestUrl url) :=
        confuses setup.client url
      have here := readable ((setup.withKey second).client.requestUrl url) world
      simp only [advance_asking, sameFetch]
      rw [State.receive_withKey here.1 here.2, State.receive_withKey here.1 here.2]
  | storing verdict => rfl
  | done result => rfl

/-- The network on which every reply is the same. -/
def Outside.always (reply : Reply) : Outside (StateM Unit) where
  now := pure ⟨0, 0⟩
  fetch _ := pure reply

theorem session_lookup {World : Type} {settings : Settings} {setup : Setup}
    (made : Setup.make settings = .ok setup) (outside : Outside (StateM World))
    (store : AssetStore) (cache : Cache.File) (url : String) :
    session outside store settings cache [.lookup [] [url]] = .ok fun world =>
      let looked := lookupOne outside setup url { cache } world
      ([.answer (looked.1.1.map ([·]))], looked.2) := by
  simp only [session, made]
  refine congrArg Except.ok (funext fun world => ?_)
  have looked := lookupAll_singleton outside setup url { cache } world
  simp only [List.mapM_cons, List.mapM_nil, Call.run, lookupTogether_nil, run'_apply, bind_apply,
    pure_apply, looked]

/-- Without a cache, a session of one lookup that the API fails hands back that failure. -/
theorem session_always {settings : Settings} {setup : Setup} {reply : Reply} {url : String}
    {error : ClientError} (made : Setup.make settings = .ok setup)
    (failed : setup.client.interpret url reply = .error error) (store : AssetStore) :
    session (.always reply) store settings {} [.lookup [] [url]] =
      .ok fun world => ([.answer (.error (.unavailable error.message))], world) := by
  have looked : lookupOne (.always reply) setup url { cache := {} } () = _ :=
    lookupOne_missing (Cache.File.find_of_none rfl)
  have concluded (state : State) : (state.conclude setup url reply ⟨0, 0⟩).1 =
      .error (.unavailable error.message) := by
    rw [State.conclude_error failed]
  rw [session_lookup made]
  refine congrArg Except.ok (funext fun world => ?_)
  have handed : (lookupOne (.always reply) setup url { cache := {} } world).1.1 =
      .error (.unavailable error.message) := by
    rw [looked]
    exact concluded _
  simp only [handed]
  rfl

/-- Two keys that end in different failures are told apart by a session of one lookup. -/
theorem session_ne_of_unreadable {settings : Settings} {first second : String} {setup : Setup}
    {reply : Reply} (distinct : first ≠ second) (firstGiven : Text.trim first ≠ "")
    (secondGiven : Text.trim second ≠ "") (made : Setup.make (settings.withKey first) = .ok setup)
    (shown : setup.client.searchUrl.scheme ∈ fetchedSchemes → ¬reply.IsReadable)
    (store : AssetStore) (url : String) :
    session (.always reply) store (settings.withKey first) {} [.lookup [] [url]] ≠
      session (.always reply) store (settings.withKey second) {} [.lookup [] [url]] := by
  have made' {key : String} (given : Text.trim key ≠ "") :
      Setup.make (settings.withKey key) = .ok (setup.withKey key) := by
    rw [Setup.make_withKey settings firstGiven given, made]
    rfl
  rcases Client.interpret_eq_shownUrl setup.client url shown with ⟨problem, failed⟩
  rw [session_always (made' firstGiven) (failed first),
    session_always (made' secondGiven) (failed second)]
  intro same
  have sameHanded := congrArg Prod.fst (congrFun (Except.ok.inj same) ())
  have sameError := Except.error.inj (Handed.answer.inj (List.cons.inj sameHanded).1)
  have sameProblem := (String.append_right_inj _).mp (EngineError.unavailable.inj sameError)
  have sameShown := (String.append_right_inj _).mp sameProblem
  exact distinct (Client.key_eq_of_shownUrl sameShown)

/-- Sessions over networks that confuse two keys are the same for both, whatever is cached and
called, exactly if the address of the API can be fetched and all replies that the networks may give
are readable. -/
theorem session_withKey_iff {settings : Settings} {first second : String}
    (distinct : first ≠ second) (firstGiven : Text.trim first ≠ "")
    (secondGiven : Text.trim second ≠ "") (allowed : Reply → Prop) :
    (∀ (World : Type) (outside : Outside (StateM World)), outside.Confuses first second →
      (∀ url world, allowed (outside.fetch url world).1) →
      ∀ store cache calls, session outside store (settings.withKey first) cache calls =
        session outside store (settings.withKey second) cache calls) ↔
      ∀ setup, Setup.make (settings.withKey first) = .ok setup → ∀ reply, allowed reply →
        setup.client.searchUrl.scheme ∈ fetchedSchemes ∧ reply.IsReadable := by
  constructor
  · intro same setup made reply allows
    by_cases shown : setup.client.searchUrl.scheme ∈ fetchedSchemes → ¬reply.IsReadable
    · have told := session_ne_of_unreadable distinct firstGiven secondGiven made shown
        (fun path => .error (.notFound path)) ""
      have alike := same Unit (.always reply) (fun _ _ => rfl) (fun _ _ => allows)
      exact absurd (alike _ _ _) told
    · rcases Classical.not_imp.mp shown with ⟨fetched, readable⟩
      exact ⟨fetched, Classical.not_not.mp readable⟩
  · intro safe World outside confuses allows store cache calls
    have made_eq := Setup.make_withKey settings firstGiven firstGiven
    rw [session, session, Setup.make_withKey settings firstGiven secondGiven]
    cases made : Setup.make (settings.withKey first) with
    | error error => rfl
    | ok setup =>
        rw [made] at made_eq
        have keyed : setup = setup.withKey first := Except.ok.inj made_eq
        have same : advance outside setup = advance outside (setup.withKey second) := by
          rw [keyed]
          exact advance_withKey confuses fun url world => safe setup made _ (allows url world)
        simp only [Except.map, bind, Except.bind, Call.run_congr same]

/-- Networks on which nothing is known against any link keep the keys apart from callers. -/
theorem session_withKey_iff_harmless :
    "sesame" ≠ "mellon" ∧ Text.trim "sesame" ≠ "" ∧ Text.trim "mellon" ≠ "" ∧
      ∀ (World : Type) (outside : Outside (StateM World)), outside.Confuses "sesame" "mellon" →
        (∀ url world, (outside.fetch url world).1 = .response 200 (some (Utf8.encode "\x7b\x7d"))) →
        ∀ store cache calls,
          session outside store (Settings.withKey { apiKey := "" } "sesame") cache calls =
            session outside store (Settings.withKey { apiKey := "" } "mellon") cache calls := by
  have distinct : "sesame" ≠ "mellon" := by decide
  have firstGiven : Text.trim "sesame" ≠ "" := by decide
  have secondGiven : Text.trim "mellon" ≠ "" := by decide
  have fetched : (Setup.make (Settings.withKey { apiKey := "" } "sesame")).toOption.all
      (·.client.searchUrl.scheme ∈ fetchedSchemes) = true := by decide +kernel
  have readable : (Answer.read? (Utf8.encode "\x7b\x7d")).isSome = true := by decide +kernel
  refine ⟨distinct, firstGiven, secondGiven, ?_⟩
  refine (session_withKey_iff distinct firstGiven secondGiven
    (· = .response 200 (some (Utf8.encode "\x7b\x7d")))).mpr ?_
  rintro setup made reply rfl
  rw [made] at fetched
  exact ⟨of_decide_eq_true fetched, fun _ => readable⟩

/-- A network that is down shows callers which key an engine has. -/
theorem session_shows_key :
    Outside.Confuses (.always .unreachable) "sesame" "mellon" ∧
      Text.trim "sesame" ≠ "" ∧ Text.trim "mellon" ≠ "" ∧
      session (.always .unreachable) Asset.embeddedStore
          (Settings.withKey { apiKey := "" } "sesame") {} [.lookup [] ["u"]] ≠
        session (.always .unreachable) Asset.embeddedStore
          (Settings.withKey { apiKey := "" } "mellon") {} [.lookup [] ["u"]] := by
  have firstGiven : Text.trim "sesame" ≠ "" := by decide
  have secondGiven : Text.trim "mellon" ≠ "" := by decide
  have usable : (Setup.make (Settings.withKey { apiKey := "" } "sesame")).isOk = true := by
    decide +kernel
  refine ⟨fun _ _ => rfl, firstGiven, secondGiven, ?_⟩
  cases made : Setup.make (Settings.withKey { apiKey := "" } "sesame") with
  | error error =>
      rw [made] at usable
      cases usable
  | ok setup =>
      exact session_ne_of_unreadable (by decide) firstGiven secondGiven made (fun _ => id) _ _

end LinkGuard.Remote
