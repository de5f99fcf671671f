import KeepApart.Monitoring
import KeepApart.Storage.UnitOfWork

/-!
# The provider of sessions

A provider owns the engine that reaches storage, makes sessions on it, and creates and drops the table.
It gets ready on first use. Closing it loses what is held in memory and keeps the engine, so that it can
get ready again. One provider is shared by all until it is closed.
-/

namespace KeepApart.Storage

/-- A provider. Storage without a table holds none; the table holds a register. -/
structure Provider where
  hasEngine : Bool
  hasSessions : Bool := false
  isReady : Bool := false
  table : Option Register := none

namespace Provider

/-- Gets ready: makes the engine when there is none, and the maker of sessions. -/
def start (p : Provider) : Provider :=
  { p with hasEngine := true, hasSessions := true, isReady := true }

def requireSessions (p : Provider) : Provider :=
  if p.hasSessions then p else p.start

def requireEngine (p : Provider) : Provider :=
  if p.hasEngine then p else p.start

def createTable (p : Provider) : Provider :=
  let p := p.requireEngine
  { p with table := some (p.table.getD .empty) }

def dropTable (p : Provider) : Provider :=
  { p.requireEngine with table := none }

def close (p : Provider) : Provider :=
  { p with isReady := false, table := if p.hasEngine then none else p.table }

def notReady : Fault :=
  .failure "Database not initialized. Call init() first."

def checkEngine (p : Provider) : Except Fault Unit :=
  if p.hasEngine then .ok () else .error notReady

def checkSessions (p : Provider) : Except Fault Unit :=
  if p.hasSessions then .ok () else .error notReady

def runWork (p : Provider) (w : Work) (run : Register → Except Fault Nat × Register) :
    Except Fault Nat × Provider :=
  let p := p.requireSessions
  match p.table with
  | none => (.error w.faultWithoutTable, p)
  | some g =>
    let (outcome, g) := run g
    (outcome, { p with table := some g })

def scope (p : Provider) (w : Work) : Except Fault Nat × Provider :=
  p.runWork w (Storage.scope w.body)

/-- A bare session: nothing is committed at its end. -/
def session (p : Provider) (w : Work) : Except Fault Nat × Provider :=
  p.runWork w (Storage.unitOfWork w.body)

def unitOfWork (p : Provider) (w : Work) (e : Ending) : Except Fault Nat × Provider :=
  p.runWork w (Storage.unitOfWork (w.bodyEnding e))

/-- A unit of work that is made and never entered. -/
def unitOfWorkOutside (p : Provider) : Except Fault Nat × Provider :=
  (.error notStarted, p.requireSessions)

/-- Storage that can be reached is healthy, with a table or without. -/
def health (p : Provider) : Monitoring.Health × Provider :=
  (⟨none, 0⟩, p.requireSessions)

end Provider

structure SharedProvider where
  current : Option (Nat × Provider) := none
  made : Nat := 0

namespace SharedProvider

def get (s : SharedProvider) : (Nat × Provider) × SharedProvider :=
  match s.current with
  | some p => (p, s)
  | none =>
    let p := (s.made, { hasEngine := false : Provider })
    (p, ⟨some p, s.made + 1⟩)

def start (s : SharedProvider) : (Nat × Provider) × SharedProvider :=
  let ((n, p), s) := s.get
  let p := (n, if p.isReady then p else p.start)
  (p, { s with current := some p })

def close (s : SharedProvider) : SharedProvider :=
  { s with current := none }

end SharedProvider

end KeepApart.Storage
