import KeepApart.Fault
import KeepApart.Text.Blank

/-!
# The life of a record

A record is closed, reopened and amended; each step gives a new record. Who takes the step becomes its
updater, and the moment of the step its time of update. Records that are kept elsewhere by dates are
open or closed as the dates say.
-/

namespace KeepApart

def given? (s : Option String) : Option String :=
  s.bind fun t => if t.isEmpty then none else some t

namespace Record

def checkClosure (r : Record) : Except Rejection Record :=
  let present := [r.closedBy.isSome, r.closedReason.isSome, r.closedAt.isSome]
  if r.isClosed && !present.all (· == true) then .error (.badClosure .closedWithoutDetails r.id)
  else if !r.isClosed && present.any (· == true) then .error (.badClosure .openWithDetails r.id)
  else .ok r

/-- Closes a record, open or not. Who, why and when are all needed. -/
def close (r : Record) (closer reason : Option String) (at? : Option Moment) :
    Except Rejection Record :=
  match given? closer, given? reason, at? with
  | some closer, some reason, some at' =>
    .ok { r with
      isClosed := true
      closedBy := some closer
      closedReason := some reason
      closedAt := some at'
      updatedBy := closer
      whenUpdated := at' }
  | _, _, _ => .error (.badClosure .closingIncomplete r.id)

/-- Reopens a record. The reason takes the place of the comment. -/
def reopen (r : Record) (at' : Moment) (reopener reason : String) : Except Rejection Record :=
  if reopener.isEmpty || reason.isEmpty then .error (.invalid .reopeningIncomplete)
  else
    .ok { r with
      isClosed := false
      closedBy := none
      closedReason := none
      closedAt := none
      updatedBy := reopener
      whenUpdated := at'
      comment := reason }

end Record

/-- What an amendment changes; a field that is none is left alone. -/
structure Amendment where
  firstRole : Option Role
  secondRole : Option Role
  reason : Option Reason
  restriction : Option Restriction
  comment : Option String
  /-- Names of fields that were to be changed and cannot be. -/
  fixedFields : List String
  /-- A comment was given that is no text. -/
  badComment : Bool := false
  deriving DecidableEq, Repr

def Record.amended (r : Record) (a : Amendment) : Record :=
  { r with
    firstRole := a.firstRole.getD r.firstRole
    secondRole := a.secondRole.getD r.secondRole
    reason := a.reason.getD r.reason
    restriction := a.restriction.getD r.restriction
    comment := a.comment.getD r.comment }

namespace Amendment

def names (a : Amendment) (others : List String) : Bool :=
  a.fixedFields.any others.contains

/-- The record itself, who amends it and when come with an amendment and are not named by it. -/
def circumstances : List String := ["record", "updated_by", "updated_at"]

def code? (α : Type) [Vocabulary α] (value : Json) : Except Fault (Option α) :=
  if value.isNull then .ok none else some <$> Vocabulary.read α value

def set (a : Amendment) (name : String) (value : Json) : Except Fault Amendment :=
  match name with
  | "first_prisoner_role" => (code? Role value).map fun v => { a with firstRole := v }
  | "second_prisoner_role" => (code? Role value).map fun v => { a with secondRole := v }
  | "reason" => (code? Reason value).map fun v => { a with reason := v }
  | "restriction_type" => (code? Restriction value).map fun v => { a with restriction := v }
  | "comment" =>
    match value with
    | .null => .ok a
    | .str s => .ok { a with comment := some s }
    | _ => .ok { a with badComment := true }
  | other => .ok { a with fixedFields := a.fixedFields ++ [other] }

def ofFields (fields : List (String × Json)) : Except Fault Amendment :=
  fields.foldlM (fun a f => a.set f.1 f.2) ⟨none, none, none, none, none, [], false⟩

end Amendment

/-- Amends a record. A comment, if given, must be a text and not blank. -/
def Record.amend (r : Record) (editor : String) (at' : Moment) (a : Amendment) :
    Except Fault Record :=
  if a.names Amendment.circumstances then .error .wrongType
  else
    match a.fixedFields.mergeSort Rejection.textLE with
    | first :: others => .error (.rejected (.invalid (.fixedFields first others)))
    | [] =>
      if a.badComment then .error .wrongShape
      else if a.comment.any Text.isBlankText then .error (.rejected (.invalid .blankComment))
      else .ok { r.amended a with updatedBy := editor, whenUpdated := at' }

inductive Standing where
  | opened | closed
  deriving DecidableEq, Repr

/-- The standing today of a record in force from `effective` until the day before `expiry`. -/
def Standing.on (today effective : Date) (expiry : Option Date) : Standing :=
  if effective ≤ today ∧ expiry.all (today < ·) then .opened else .closed

def Standing.code : Standing → String
  | opened => "OPEN"
  | closed => "CLOSED"

end KeepApart
