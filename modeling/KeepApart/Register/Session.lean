import KeepApart.Record.Draft
import KeepApart.Register

/-!
# Sessions

A session works on a register of its own, which becomes the committed one on commit and is thrown away
on rollback. An action runs in a session and may fail; what it did up to then stays, unless the session
took it back. Two failures take back everything since the last commit. One is a draft that storage
refuses, because its closure is inconsistent or a text is missing. The other is a draft with a value
that storage cannot hold; it leaves the session broken, so that nothing else is done in it until it is
taken back.
-/

namespace KeepApart

/-- A session, with the numbers for which the directory was asked, one list for each time. -/
structure Session where
  committed : Register
  working : Register
  searches : List (List String) := []
  isBroken : Bool := false

abbrev Action := EStateM Fault Session

namespace Session

def start (g : Register) : Session := { committed := g, working := g }

def commit (s : Session) : Session := { s with committed := s.working }

def rollback (s : Session) : Session := { s with working := s.committed, isBroken := false }

/-- Takes back everything since the last commit and breaks. -/
def fail (s : Session) : Session := { s.rollback with isBroken := true }

/-- Runs an action as one transaction: kept when it succeeds, taken back when it fails. -/
def transact {α : Type} (act : Action α) (s : Session) : Except Fault α × Session :=
  match act.run s with
  | .ok a s => (.ok a, s.commit)
  | .error e s => (.error e, s.rollback)

end Session

namespace Action

def reject {α : Type} (r : Rejection) : Action α :=
  throw (.rejected r)

def check {α : Type} : Except Rejection α → Action α
  | .ok a => pure a
  | .error r => reject r

def attempt {α : Type} : Except Fault α → Action α
  | .ok a => pure a
  | .error f => throw f

def register : Action Register := do
  let s ← get
  if s.isBroken then throw .pendingRollback else return s.working

theorem run_register {s : Session} (h : s.isBroken = false) : register.run s = .ok s.working s := by
  rcases s with ⟨_, _, _, b⟩
  obtain rfl : b = false := h
  rfl

def setRegister (g : Register) : Action Unit :=
  modify fun s => { s with working := g }

def rejectAll {α : Type} (r : Rejection) : Action α := do
  modify Session.rollback
  reject r

def find? (id : Int) : Action (Option Record) := do
  let g ← register
  if Column.isStorable id then return g.find? id else throw .overflow

def requireStored : Option Int → Action Int
  | none => do
    let _ ← register
    throw (.notStored none)
  | some id => do
    if (← find? id).isNone then throw (.notStored (some id)) else return id

/-- Stores a complete record: as a new one when it has no id, else over the one with its id. A new
record needs an id that storage can hold. -/
def put (r : Record) : Action Record := do
  let g ← register
  match r.id with
  | none =>
    if !Column.isStorable (g.lastId + 1) then throw .overflow
    setRegister (g.add r)
    return g.identified r
  | some _ =>
    setRegister (g.replace r)
    return r

/-- Writes a row. Its closure must be consistent, as handed in and as storage holds it, storage must be
able to hold it and no text may be missing, or everything since the last commit is taken back. -/
def write (id : Option Int) (isConsistent : Bool) (row : Except Draft.Obstacle Record) :
    Action Record := do
  if !isConsistent then rejectAll (.badClosure .inconsistentRow id)
  else do
    let _ ← register
    match row with
    | .error (.unstorable fault) =>
      modify Session.fail
      throw fault
    | .error (.missing text) => rejectAll (.badClosure (.missingText text) id)
    | .ok r => if r.closureConsistent then put r else rejectAll (.badClosure .inconsistentColumns id)

/-- Stores what is under an id or new. What has an id must be stored already. -/
def store (id : Option Int) (isConsistent : Bool) (row : Except Draft.Obstacle Record) :
    Action Record := do
  if id.isSome then
    let _ ← requireStored id
  write id isConsistent row

def save (r : Record) : Action Record :=
  store r.id r.closureConsistent (.ok r)

end Action

/-- A stored record with the draft that was handed in for it. -/
structure Saved where
  record : Record
  given : Draft

def Saved.ofRecord (r : Record) : Saved := ⟨r, r.draft⟩

namespace Action

def saveDraft (d : Draft) : Action Saved := do
  let r ← store d.id d.closureConsistent d.record
  return ⟨r, { d with id := r.id }⟩

def delete (id : Option Int) : Action Unit := do
  let id ← requireStored id
  setRegister ((← register).remove id)

def commit : Action Unit := do
  let _ ← register
  modify Session.commit

end Action

end KeepApart
