import KeepApart.Context
import KeepApart.Record.Lifecycle

/-!
# Commands

Creating, amending, closing and reopening a record on behalf of an acting person. Every check comes
before the record is stored, so a command that fails has stored nothing.
-/

namespace KeepApart

/-- What is needed for a new record. The codes are as they came in. -/
structure Proposal where
  firstNumber : String
  firstRole : Json
  secondNumber : String
  secondRole : Json
  reason : Json
  restriction : Json
  comment : String
  /-- A comment was given that is no text. -/
  badComment : Bool := false

namespace Proposal

def record (p : Proposal) (actor : String) (now : Moment) : Except Fault Record := do
  let firstRole ← Vocabulary.read Role p.firstRole
  let secondRole ← Vocabulary.read Role p.secondRole
  let reason ← Vocabulary.read Reason p.reason
  let restriction ← Vocabulary.read Restriction p.restriction
  return {
    id := none
    firstNumber := p.firstNumber
    firstRole
    secondNumber := p.secondNumber
    secondRole
    reason
    restriction
    comment := p.comment
    authorisedBy := some actor
    whenCreated := now
    whenUpdated := now
    updatedBy := actor
    isClosed := false
    closedBy := none
    closedReason := none
    closedAt := none }

end Proposal

namespace Command

/-- Creates an open record. The two prisoners must differ, be known to the directory and have no open
record yet, and the comment must not be blank. -/
def create (ctx : Context) (p : Proposal) (actor : Option String) : Action Record := do
  let actor ← Action.requireActor actor
  if p.firstNumber == p.secondNumber then Action.reject (.invalid .samePrisoner)
  if p.badComment then throw .wrongShape
  if Text.isBlankText p.comment then Action.reject (.invalid .blankComment)
  let _ ← ctx.lookUp [p.firstNumber, p.secondNumber]
  Action.requireNoOtherOpen none p.firstNumber p.secondNumber
  let record ← Action.attempt (p.record actor ctx.now)
  Action.save record

def amend (ctx : Context) (id : Int) (actor : Option String) (a : Amendment) : Action Record := do
  if a.names ["record_id", "actor"] then throw .wrongType
  let actor ← Action.requireActor actor
  let record ← Action.require id
  let record ← Action.attempt (record.amend actor ctx.now a)
  Action.save record

/-- Closes an open record. The closer is the acting person and the moment is now, unless others are
given. -/
def close (ctx : Context) (id : Int) (reason : Option String) (actor closer : Option String)
    (at? : Option Moment) : Action Record := do
  let record ← Action.require id
  if record.isClosed then Action.reject (.alreadyClosed id)
  let closer ← match given? closer with
    | some name => pure name
    | none => Action.requireActor actor
  let record ← Action.check (record.close closer reason (at?.getD ctx.now))
  Action.save record

/-- Reopens a closed record whose pair has no other open record. Who reopens it and when default as for
closing. -/
def reopen (ctx : Context) (id : Int) (reason : Option String) (actor reopener : Option String)
    (at? : Option Moment) : Action Record := do
  let record ← Action.require id
  if record.isOpen then Action.reject (.alreadyOpen id)
  Action.requireNoOtherOpen record.id record.firstNumber record.secondNumber
  let reopener ← match given? reopener with
    | some name => pure name
    | none => Action.requireActor actor
  let record ← Action.check (record.reopen (at?.getD ctx.now) reopener (reason.getD ""))
  Action.save record

end Command

end KeepApart
