import LinkGuard.Remote.Engine

/-!
# Lookups at the same time

The lookups of a batch go on together: each takes its steps in order, but the steps of different
lookups come in any order. An order is a list of places; each entry lets the lookup at that place
take its next step. The first lookup in the list that has failed when the order ends fails the
batch, and the others are dropped wherever they are; without a failure the lookups still under way
are taken to their ends. Looking the links up one after another is the empty order.
-/

namespace LinkGuard.Remote

/-- A lookup under way: its link and how far it has come. -/
structure Pending where
  url : String
  progress : Progress := .waiting

/-- The error of a lookup that has failed. -/
def Pending.failure? (pending : Pending) : Option EngineError :=
  match pending.progress with
  | .done (.error error) => some error
  | _ => none

variable {m : Type → Type} [Monad m]

/-- Takes the next step of the lookup at a place. Behind the end of the list there is none. -/
def stepAt (outside : Outside m) (setup : Setup) :
    Nat → List Pending → StateT State m (List Pending)
  | _, [] => return []
  | 0, pending :: rest => do
    return ⟨pending.url, ← advance outside setup pending.url pending.progress⟩ :: rest
  | place + 1, pending :: rest => do
    return pending :: (← stepAt outside setup place rest)

/-- Takes steps at places, in order. -/
def interleave (outside : Outside m) (setup : Setup) :
    List Nat → List Pending → StateT State m (List Pending)
  | [], batch => return batch
  | place :: order, batch => do
    interleave outside setup order (← stepAt outside setup place batch)

/-- Takes lookups to their ends one after another, up to the first that fails. -/
def settleAll (outside : Outside m) (setup : Setup) : List Pending → StateT State m EngineAnswer
  | [] => return .ok []
  | pending :: rest => do
    match ← settle outside setup pending.url pending.progress with
    | .error error => return .error error
    | .ok findings => return (← settleAll outside setup rest).map (findings :: ·)

/-- Looks up links at the same time, in an order of their steps. -/
def lookupTogether (outside : Outside m) (setup : Setup) (order : List Nat) (urls : List String) :
    StateT State m EngineAnswer := do
  let batch ← interleave outside setup order (urls.map fun url => { url })
  match batch.findSome? Pending.failure? with
  | some error => return .error error
  | none => settleAll outside setup batch

/-- Lookups that have not begun are taken to their ends like any lookups one after another. -/
theorem settleAll_waiting (outside : Outside m) (setup : Setup) (urls : List String) :
    settleAll outside setup (urls.map fun url => { url }) = lookupAll outside setup urls := by
  induction urls with
  | nil => rfl
  | cons url rest ih =>
      refine congrArg (lookupOne outside setup url >>= ·) (funext fun looked => ?_)
      cases looked with
      | error error => rfl
      | ok findings =>
          exact congrArg (fun others : StateT State m EngineAnswer => do
            return (← others).map (findings :: ·)) ih

/-- Without steps in between the lookups come one after another. -/
theorem lookupTogether_nil [LawfulMonad m] (outside : Outside m) (setup : Setup)
    (urls : List String) :
    lookupTogether outside setup [] urls = lookupAll outside setup urls := by
  have noFailure : (urls.map fun url => ({ url } : Pending)).findSome? Pending.failure? = none := by
    simp [Pending.failure?]
  simp only [lookupTogether, interleave, pure_bind, noFailure, settleAll_waiting]

end LinkGuard.Remote
