import KeepApart.Register.Column

/-!
# Drafts

A draft is a record handed in for storage. Its texts may be any values, and null stands for a text that
is missing. It becomes a record when storage can hold every value and no text that a record needs is
missing.
-/

namespace KeepApart

structure Draft where
  id : Option Int
  firstNumber : Json
  firstRole : Role
  secondNumber : Json
  secondRole : Role
  reason : Reason
  restriction : Restriction
  comment : Json
  authorisedBy : Json
  whenCreated : Moment
  whenUpdated : Moment
  updatedBy : Json
  isClosed : Bool
  closedBy : Json
  closedReason : Json
  closedAt : Option Moment

inductive Draft.Obstacle where
  | unstorable (fault : Fault)
  | missing (text : RequiredText)

namespace Draft

def values (d : Draft) : List Json :=
  [d.firstNumber, d.secondNumber, d.comment, d.authorisedBy, d.updatedBy, d.closedBy, d.closedReason]

def isPlain (d : Draft) : Bool :=
  d.values.all fun v => v.isNull || v.str?.isSome

def closureConsistent (d : Draft) : Bool :=
  if d.isClosed then !d.closedBy.isNull && !d.closedReason.isNull && d.closedAt.isSome
  else d.closedBy.isNull && d.closedReason.isNull && d.closedAt.isNone

def column (value : Json) : Except Obstacle (Option String) :=
  (Column.text value).mapError .unstorable

def need (text : RequiredText) : Option String → Except Obstacle String
  | some s => .ok s
  | none => .error (.missing text)

/-- The record, or the first value that storage cannot hold, or the first text that is missing. -/
def record (d : Draft) : Except Obstacle Record := do
  let firstNumber ← column d.firstNumber
  let secondNumber ← column d.secondNumber
  let comment ← column d.comment
  let authorisedBy ← column d.authorisedBy
  let updatedBy ← column d.updatedBy
  let closedBy ← column d.closedBy
  let closedReason ← column d.closedReason
  let firstNumber ← need .firstNumber firstNumber
  let secondNumber ← need .secondNumber secondNumber
  let comment ← need .comment comment
  let updatedBy ← need .updatedBy updatedBy
  return {
    id := d.id
    firstNumber
    firstRole := d.firstRole
    secondNumber
    secondRole := d.secondRole
    reason := d.reason
    restriction := d.restriction
    comment
    authorisedBy
    whenCreated := d.whenCreated
    whenUpdated := d.whenUpdated
    updatedBy
    isClosed := d.isClosed
    closedBy
    closedReason
    closedAt := d.closedAt }

def summary (d : Draft) : String :=
  "<NonAssociation(id=" ++ Json.displayInt? d.id ++ ", first='" ++ d.firstNumber.display
    ++ "', second='" ++ d.secondNumber.display ++ "', is_closed="
    ++ (Json.bool d.isClosed).display ++ ")>"

end Draft

def Draft.shown (d : Draft) : Record :=
  let text (v : Json) : String := if v.isNull then "" else v.display
  let text? (v : Json) : Option String := if v.isNull then none else some v.display
  { id := d.id
    firstNumber := text d.firstNumber
    firstRole := d.firstRole
    secondNumber := text d.secondNumber
    secondRole := d.secondRole
    reason := d.reason
    restriction := d.restriction
    comment := text d.comment
    authorisedBy := text? d.authorisedBy
    whenCreated := d.whenCreated
    whenUpdated := d.whenUpdated
    updatedBy := text d.updatedBy
    isClosed := d.isClosed
    closedBy := text? d.closedBy
    closedReason := text? d.closedReason
    closedAt := d.closedAt }

def Record.draft (r : Record) : Draft where
  id := r.id
  firstNumber := .str r.firstNumber
  firstRole := r.firstRole
  secondNumber := .str r.secondNumber
  secondRole := r.secondRole
  reason := r.reason
  restriction := r.restriction
  comment := .str r.comment
  authorisedBy := .ofText? r.authorisedBy
  whenCreated := r.whenCreated
  whenUpdated := r.whenUpdated
  updatedBy := .str r.updatedBy
  isClosed := r.isClosed
  closedBy := .ofText? r.closedBy
  closedReason := .ofText? r.closedReason
  closedAt := r.closedAt

@[simp] theorem Record.record_draft (r : Record) : r.draft.record = .ok r := by
  rcases r with ⟨_, _, _, _, _, _, _, _, authorisedBy, _, _, _, _, closedBy, closedReason, _⟩
  cases authorisedBy <;> cases closedBy <;> cases closedReason <;> rfl

@[simp] theorem Record.closureConsistent_draft (r : Record) :
    r.draft.closureConsistent = r.closureConsistent := by
  rcases r with ⟨_, _, _, _, _, _, _, _, _, _, _, _, _, closedBy, closedReason, _⟩
  cases closedBy <;> cases closedReason <;> rfl

/-- A draft that was changed as a record was: what the record kept is kept. -/
def Draft.changed (d : Draft) (before after : Record) : Draft :=
  let kept {α : Type} [DecidableEq α] (old new : α) (value change : Json) : Json :=
    if old = new then value else change
  let r := after.draft
  { r with
    firstNumber := kept before.firstNumber after.firstNumber d.firstNumber r.firstNumber
    secondNumber := kept before.secondNumber after.secondNumber d.secondNumber r.secondNumber
    comment := kept before.comment after.comment d.comment r.comment
    authorisedBy := kept before.authorisedBy after.authorisedBy d.authorisedBy r.authorisedBy
    updatedBy := kept before.updatedBy after.updatedBy d.updatedBy r.updatedBy
    closedBy := kept before.closedBy after.closedBy d.closedBy r.closedBy
    closedReason := kept before.closedReason after.closedReason d.closedReason r.closedReason }

def Draft.change (d : Draft) (rule : Record → Except Fault Record) : Except Fault Draft :=
  (rule d.shown).map (d.changed d.shown)

end KeepApart
