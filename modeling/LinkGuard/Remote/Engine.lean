import LinkGuard.Cache.Migration
import LinkGuard.Inquiry
import LinkGuard.Remote.Client

/-!
# The remote engine

The engine answers from the cache while a verdict there is fresh, and from the API otherwise. It
keeps an answer as long as the API and the settings allow.

A failing cache never fails a lookup: without a verdict from it the API is asked, and an answer that
cannot be stored is still given. A failing API always fails the lookup.

A lookup goes through the cache, the API and the cache again in steps that other lookups may come
between, so each step is a function of its own. The cache may fail at a step although its file has
rows to read: another program holds it, or there is no room to write.
-/

namespace LinkGuard.Remote

/-- What an engine is set up with. -/
structure Setup where
  client : Client
  positiveTtl : Duration
  negativeTtl : Duration
  deriving DecidableEq, Repr

/-- What an engine holds while it runs. -/
structure State where
  cache : Cache.File
  byCache : Nat := 0
  byApi : Nat := 0
  failed : Nat := 0
  lastError : Option EngineError := none
  deriving DecidableEq, Repr

/-- The setup for some settings. -/
def Setup.make (settings : Settings) : Except ClientError Setup := do
  settings.check.mapError .settings
  return ⟨← Client.make settings, settings.positiveTtl, settings.negativeTtl⟩

/-- When an answer received at an instant expires. One without threats is kept for its own time and
not at all if that is zero; one with threats is kept as long as the API says, but no shorter than
its own time. An answer that has expired on arrival is not kept. -/
def Setup.expiry (setup : Setup) (answer : Answer) (now : Instant) : Option Instant :=
  if answer.threats.isEmpty then
    if setup.negativeTtl = .zero then none else some (now.after setup.negativeTtl)
  else
    let earliest := now.after setup.positiveTtl
    let expiry := (answer.expiry.map (·.later earliest)).getD earliest
    if now.before expiry then some expiry else none

/-- How far the lookup of a link has come. -/
inductive Progress where
  | waiting
  | asking
  | storing (verdict : Verdict)
  | done (result : Except EngineError (List Finding))

/-- What a lookup gives; one that is given up on the way is cancelled. -/
def Progress.result : Progress → Except EngineError (List Finding)
  | done result => result
  | _ => .error .cancelled

namespace State

/-- Goes by what the cache has found, if it has not failed. -/
def consulted (url : String) (found : Except Cache.Error (Option Verdict)) (state : State) :
    Progress × State :=
  match found with
  | .ok (some verdict) =>
    (.done (.ok (Verdict.findings verdict.threats url)),
      { state with byCache := state.byCache + 1 })
  | _ => (.asking, { state with byApi := state.byApi + 1 })

/-- Takes the reply of the API. -/
def receive (setup : Setup) (url : String) (reply : Reply) (now : Instant) (state : State) :
    Progress × State :=
  match setup.client.interpret url reply with
  | .error error =>
    let error := EngineError.unavailable error.message
    (.done (.error error), { state with failed := state.failed + 1, lastError := some error })
  | .ok answer =>
    let state := { state with lastError := none }
    let verdict : Verdict := ⟨url, answer.threats, (setup.expiry answer now).getD now⟩
    if verdict.isFresh now then (.storing verdict, state)
    else (.done (.ok (Verdict.findings answer.threats url)), state)

/-- Gives the findings of a verdict, whether or not the cache has stored it. -/
def kept (verdict : Verdict) (stored : Except Cache.Error Cache.File) (state : State) :
    Progress × State :=
  let findings := Verdict.findings verdict.threats verdict.url
  match stored with
  | .ok cache => (.done (.ok findings), { state with cache })
  | .error _ => (.done (.ok findings), state)

/-- Removes what has expired and counts it. -/
def purge (now : Instant) (state : State) : Nat × State :=
  match state.cache.purge now with
  | .ok (count, cache) => (count, { state with cache })
  | .error _ => (0, state)

/-- The counters and the last failure; a cache that cannot be counted is one if there is no
other. -/
def report (now : Instant) (state : State) : EngineReport :=
  let stats (cached : Nat) : Stats := ⟨state.byCache, state.byApi, state.failed, cached⟩
  match state.cache.count now with
  | .ok cached => (stats cached, state.lastError)
  | .error error => (stats 0, some (state.lastError.getD (.unavailable error.message)))

end State

/-- What an engine needs from outside: the time, and a way to fetch an address. -/
structure Outside (m : Type → Type) where
  now : m Instant
  fetch : Url → m Reply

/-- What keeps a cache from being read or written at the moment. -/
structure Faults where
  reading : Option Cache.Error := none
  writing : Option Cache.Error := none

/-- What a cache with these faults finds for a link. -/
def Faults.find (faults : Faults) (url : String) (now : Instant) (cache : Cache.File) :
    Except Cache.Error (Option Verdict) :=
  match faults.reading with
  | some error => .error error
  | none => cache.find url now now

/-- A cache with these faults after storing a verdict. -/
def Faults.put (faults : Faults) (verdict : Verdict) (cache : Cache.File) :
    Except Cache.Error Cache.File :=
  match faults.writing with
  | some error => .error error
  | none => cache.put verdict

variable {m : Type → Type} [Monad m]

/-- Takes the next step of a lookup over a cache with faults. -/
def advanceOver (faults : Faults) (outside : Outside m) (setup : Setup) (url : String) :
    Progress → StateT State m Progress
  | .waiting => do
    let now ← outside.now
    modifyGet fun state => state.consulted url (faults.find url now state.cache)
  | .asking => do
    let reply ← outside.fetch (setup.client.requestUrl url)
    let now ← outside.now
    modifyGet (State.receive setup url reply now)
  | .storing verdict => modifyGet fun state => state.kept verdict (faults.put verdict state.cache)
  | .done result => return .done result

/-- Takes the next step of a lookup over a cache that works. -/
def advance (outside : Outside m) (setup : Setup) (url : String) :
    Progress → StateT State m Progress :=
  advanceOver {} outside setup url

/-- Takes a lookup to its end by its steps. Every lookup is done after three of them. -/
def settleBy (step : Progress → StateT State m Progress) (progress : Progress) :
    StateT State m (Except EngineError (List Finding)) := do
  let progress ← step progress
  let progress ← step progress
  let progress ← step progress
  return progress.result

/-- Takes a lookup to its end. -/
def settle (outside : Outside m) (setup : Setup) (url : String) (progress : Progress) :
    StateT State m (Except EngineError (List Finding)) :=
  settleBy (advance outside setup url) progress

/-- Looks up one link over a cache with faults. -/
def lookupOver (faults : Faults) (outside : Outside m) (setup : Setup) (url : String) :
    StateT State m (Except EngineError (List Finding)) :=
  settleBy (advanceOver faults outside setup url) .waiting

/-- Looks up one link. -/
def lookupOne (outside : Outside m) (setup : Setup) (url : String) :
    StateT State m (Except EngineError (List Finding)) :=
  settle outside setup url .waiting

/-- Looks up links one after another, up to the first that fails. -/
def lookupAll (outside : Outside m) (setup : Setup) : List String → StateT State m EngineAnswer
  | [] => return .ok []
  | url :: rest => do
    match ← lookupOne outside setup url with
    | .error error => return .error error
    | .ok findings => return (← lookupAll outside setup rest).map (findings :: ·)

/-- The engine that keeps its state between lookups. -/
def engine (outside : Outside m) (setup : Setup) : Engine (StateT State m) where
  lookup := lookupAll outside setup
  report := do return (← get).report (← outside.now)

/-- The description of an engine. -/
def describe (setup : Setup) (state : State) : String :=
  describeRecord "RemoteEngine" [
    ("api", setup.client.describe),
    ("positive_min_ttl", setup.positiveTtl.text),
    ("negative_min_ttl", setup.negativeTtl.text),
    ("counters", describeRecord "Counters" [
      ("by_cache", toString state.byCache),
      ("by_api", toString state.byApi),
      ("failed", toString state.failed)])]

end LinkGuard.Remote
