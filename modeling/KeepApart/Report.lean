import KeepApart.Fault
import KeepApart.Json.Equality

/-!
# Reports of rejections

What is told of a rejection: its kind, a message, and where its kind has them the field, the record and
the prisoners that it is about. A report is made from a rejection of the register, or from loose values
of whatever type, which are then shown as they are.
-/

namespace KeepApart

/-- A report; an item that is none is not of the kind. -/
structure Report where
  kind : RejectionKind
  message : String
  field : Option Json := none
  recordId : Option Json := none
  prisonerNumbers : Option (List Json) := none

def Rejection.report (r : Rejection) : Report where
  kind := r.kind
  message := r.message
  field := r.field.map Json.ofText?
  recordId := r.recordId.map Json.ofInt?
  prisonerNumbers := r.prisonerNumbers.map fun numbers => numbers.map .str

namespace Report

/-- The items of a value: those of a list, the characters of a text, the names of an object. -/
def itemsOf : Json → Except Fault (List Json)
  | .arr items => .ok items
  | .str s => .ok (s.toList.map fun c => .str c.toString)
  | .obj fields => .ok (fields.map fun f => .str f.1)
  | _ => .error .wrongType

def together : List Json → String
  | [] => ""
  | [v] => v.display
  | vs => Json.bracketed "(" ")" (vs.map Json.quoted)

def aboutRecord (kind : RejectionKind) (message : String → String) : List Json → Except Fault Report
  | [id] => .ok { kind, message := message id.display, recordId := some id }
  | _ => .error .wrongType

def aboutPrisoners (kind : RejectionKind) (message : String → String)
    (arrange : List Json → Option (List Json)) : List Json → Except Fault Report
  | [numbers] => do
    match arrange (← itemsOf numbers) with
    | some numbers =>
      return { kind, message := message (Json.arr numbers).quoted, prisonerNumbers := some numbers }
    | none => throw .wrongType
  | _ => .error .wrongType

/-- A report about a closure. Without a message it says that the record is inconsistent. -/
def aboutClosure (message id : Json) : Report where
  kind := .badClosure
  message := if message.isNothing then Wording.inconsistentRow id.display else message.display
  field := some (.str "is_closed")
  recordId := some id

/-- The report of a kind from loose values, of which there must be the right number. -/
def ofValues (kind : RejectionKind) (values : List Json) : Except Fault Report :=
  match kind with
  | .general => .ok { kind, message := together values }
  | .invalid =>
    match values with
    | [message] => .ok { kind, message := message.display, field := some .null }
    | [message, field] => .ok { kind, message := message.display, field := some field }
    | _ => .error .wrongType
  | .badClosure =>
    match values with
    | [] => .ok (aboutClosure .null .null)
    | [message] => .ok (aboutClosure message .null)
    | [message, id] => .ok (aboutClosure message id)
    | _ => .error .wrongType
  | .notFound => aboutRecord kind Wording.notFound values
  | .alreadyClosed => aboutRecord kind Wording.alreadyClosed values
  | .alreadyOpen => aboutRecord kind Wording.alreadyOpen values
  | .openExists => aboutPrisoners kind Wording.openExists some values
  | .noLocation => aboutPrisoners kind Wording.noLocation some values
  | .unknownPrisoners => aboutPrisoners kind Wording.unknownPrisoners Json.sorted? values
  | .noActor =>
    match values with
    | [] => .ok { kind, message := Wording.noActor }
    | _ => .error .wrongType

end Report

end KeepApart
