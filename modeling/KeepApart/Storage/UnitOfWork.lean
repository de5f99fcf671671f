import KeepApart.Register.Session

/-!
# Units of work

There are two ways to run a body in a session of its own. A scope commits when the body succeeds and
takes everything back when it fails. A unit of work commits only where its body says so: whatever was
not committed is lost at its end, however it ends. Both pass the outcome of the body on.
-/

namespace KeepApart.Storage

/-- Runs a body as a scope; the register is the one that a fresh session sees afterwards. -/
def scope {α : Type} (body : Action α) (g : Register) : Except Fault α × Register :=
  let (outcome, s) := (Session.start g).transact body
  (outcome, s.committed)

def unitOfWork {α : Type} (body : Action α) (g : Register) : Except Fault α × Register :=
  match body.run (Session.start g) with
  | .ok a s => (.ok a, s.committed)
  | .error f s => (.error f, s.committed)

def notStarted : Fault :=
  .failure "UnitOfWork not started. Use as context manager."

structure Work where
  saves : List Draft
  failure : Option String := none

def Work.body (w : Work) : Action Nat := do
  w.saves.forM fun d => discard (Action.saveDraft d)
  match w.failure with
  | some message => throw (.failure message)
  | none => return (← Action.register).records.length

/-- How the same work fails where there is no table. An inconsistent new record is refused before the
table is looked for. -/
def Work.faultWithoutTable (w : Work) : Fault :=
  match w.saves, w.failure with
  | d :: _, _ =>
    if d.id.isNone && !d.closureConsistent then .rejected (.badClosure .inconsistentRow none)
    else .noStorage
  | [], some message => .failure message
  | [], none => .noStorage

/-- What a unit of work does once its work is counted, in this order. -/
structure Ending where
  commit : Bool := false
  rollback : Bool := false
  /-- The unit of work is closed before its end, and then its session is wanted once more. -/
  close : Bool := false

def Work.bodyEnding (w : Work) (e : Ending) : Action Nat := do
  let n ← w.body
  if e.commit then modify Session.commit
  if e.rollback then modify Session.rollback
  if e.close then throw notStarted
  return n

end KeepApart.Storage
