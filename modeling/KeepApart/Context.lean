import KeepApart.Directory
import KeepApart.Register.Session

/-!
# The context of a request

A request is served at some moment, with or without a directory of prisoners.
-/

namespace KeepApart

structure Context where
  now : Moment
  directory : Option Directory

namespace Context

def lookUp (ctx : Context) (numbers : List String) : Action Found :=
  match ctx.directory with
  | none => throw (.failure "Prisoner search not configured")
  | some d => do
    modify fun s => { s with searches := s.searches ++ Directory.searches numbers }
    Action.attempt (d.search numbers)

end Context

namespace Action

def requireActor (actor : Option String) : Action String :=
  match actor with
  | some name => if Text.isBlankText name then reject .noActor else pure name
  | none => reject .noActor

def require (id : Int) : Action Record := do
  match ← find? id with
  | some r => return r
  | none => reject (.notFound id)

/-- Refuses a pair with an open record other than the one with this id. -/
def requireNoOtherOpen (id : Option Int) (first second : String) : Action Unit := do
  let others := ((← register).openBetween first second).filter fun r => r.id != id
  if !others.isEmpty then reject (.openExists [first, second])

end Action

end KeepApart
