import Verdict.Rejection

/-!
# Trials

Evaluating and checking a query write a journal: every operator that is applied, and the rejection that ends the run. A trial is the journal together with the outcome, so what is logged is part of what is computed. A trial that follows another continues its journal, and none follows a rejection.
-/

namespace Verdict

inductive Event where
  /-- an operator is applied at a place -/
  | dispatch (operator : Operator) (propertyPath queryPath : String)
  | rejected (rejection : Rejection)
deriving DecidableEq

structure Trial (α : Type) where
  journal : List Event
  outcome : Except Rejection α

namespace Trial

variable {α β : Type}

protected def pure (a : α) : Trial α := ⟨[], .ok a⟩

protected def bind (first : Trial α) (next : α → Trial β) : Trial β :=
  match first.outcome with
  | .ok a => ⟨first.journal ++ (next a).journal, (next a).outcome⟩
  | .error r => ⟨first.journal, .error r⟩

instance : Monad Trial where
  pure := Trial.pure
  bind := Trial.bind

/-- Writes an event. -/
def record (event : Event) : Trial Unit := ⟨[event], .ok ()⟩

/-- Ends a trial and writes why. -/
def reject (rejection : Rejection) : Trial α := ⟨[.rejected rejection], .error rejection⟩

/-- Ends a trial without a word in the journal. -/
def rejectSilently (rejection : Rejection) : Trial α := ⟨[], .error rejection⟩

/-- Runs a trial for each element, up to the first rejection. -/
def each (run : α → Trial β) : List α → Trial (List β)
  | [] => pure []
  | a :: rest => do
    let b ← run a
    let bs ← each run rest
    return b :: bs

end Trial

end Verdict
