import KeepApart.Json.Writing
import KeepApart.Record

/-!
# What can go wrong

A rejection is a rule of the register that says no: it has a code, usually a number, a message and
sometimes the field, the record or the prisoners that it is about. A fault is anything that stops an
operation: a rejection, or a failure of storage, of the directory of prisoners or of the settings.
-/

namespace KeepApart

inductive Invalid where
  | samePrisoner
  | blankComment
  | reopeningIncomplete
  /-- Fields that cannot be amended, ascending. -/
  | fixedFields (first : String) (others : List String)
  | mergeIncomplete
  | mergeIntoItself (number : String)
  | eventIncomplete (key : String)
  | badTimestamp (text : String) (field : String)
  /-- The text has halves of surrogate pairs. -/
  | badTimestampCodes (codes : List Nat) (field : String)
  | tooFewPrisoners
  | stated (message : String) (field : Option String)
  deriving DecidableEq, Repr

namespace Invalid

def message : Invalid → String
  | samePrisoner => "Two different prisoner numbers are required"
  | blankComment => "Comment cannot be blank"
  | reopeningIncomplete => "Reopening a non-association requires who reopened it and why"
  | fixedFields first others => "Cannot update fields: " ++ Json.quotedTexts (first :: others)
  | mergeIncomplete => "Both prisoner numbers are required for a merge"
  | mergeIntoItself number => "Cannot merge prisoner " ++ number ++ " into itself"
  | eventIncomplete key => "Event is missing additionalInformation." ++ key
  | badTimestamp text _ => "Invalid timestamp: " ++ Text.quote text
  | badTimestampCodes codes _ => "Invalid timestamp: " ++ Json.quotedCodes codes
  | tooFewPrisoners => "At least two distinct prisoner numbers are required"
  | stated message _ => message

def field : Invalid → Option String
  | samePrisoner => some "secondPrisonerNumber"
  | blankComment => some "comment"
  | reopeningIncomplete => some "reopenReason"
  | fixedFields first _ => some first
  | mergeIncomplete | mergeIntoItself _ => none
  | eventIncomplete key => some key
  | badTimestamp _ field | badTimestampCodes _ field => some field
  | tooFewPrisoners => some "prisonerNumbers"
  | stated _ field => field

end Invalid

/-! ## Wording -/

namespace Wording

def inconsistentRow (id : String) : String :=
  "Non-association [ID=" ++ id ++ "] has inconsistent closure fields"

def notFound (id : String) : String :=
  "There is no non-association found for ID = " ++ id

def alreadyClosed (id : String) : String :=
  "Non-association [ID=" ++ id ++ "] already closed"

def alreadyOpen (id : String) : String :=
  "Non-association [ID=" ++ id ++ "] already open"

def openExists (numbers : String) : String :=
  "Prisoners " ++ numbers ++ " already have open non-associations"

def noLocation (numbers : String) : String :=
  "Prisoners " ++ numbers ++ " have null locations"

def unknownPrisoners (numbers : String) : String :=
  "Could not find the following prisoners: " ++ numbers

def noActor : String := "There is no user in context for this request"

end Wording

/-! ## Rejections -/

inductive BadClosure where
  | closedWithoutDetails
  | openWithDetails
  | closingIncomplete
  /-- The row that was to be stored breaks the rule. -/
  | inconsistentRow
  /-- The row that was to be stored lacks a text. -/
  | missingText (text : RequiredText)
  /-- The columns of the row break the rule, though the values handed in for them did not. -/
  | inconsistentColumns
  | stated (message : String)
  deriving DecidableEq, Repr

def BadClosure.message (id : Option Int) : BadClosure → String
  | closedWithoutDetails => "Closed non-association [ID=" ++ Json.displayInt? id
      ++ "] must have closed_by, closed_reason and closed_at"
  | openWithDetails => "Open non-association [ID=" ++ Json.displayInt? id
      ++ "] cannot have closure details"
  | closingIncomplete => "Closing a non-association requires closed_by, closed_reason and closed_at"
  | inconsistentRow => Wording.inconsistentRow (Json.displayInt? id)
  | missingText text => "NOT NULL constraint failed: non_associations." ++ text.column
  | inconsistentColumns => "CHECK constraint failed: ck_non_associations_closed_fields"
  | stated message => message

inductive RejectionKind where
  | general | invalid | badClosure | notFound | alreadyClosed | alreadyOpen | openExists | noLocation
  | unknownPrisoners | noActor
  deriving DecidableEq, Repr

namespace RejectionKind

def code : RejectionKind → String
  | general => "NON_ASSOCIATION_ERROR"
  | invalid | badClosure => "VALIDATION_FAILURE"
  | notFound => "NON_ASSOCIATION_NOT_FOUND"
  | alreadyClosed => "NON_ASSOCIATION_ALREADY_CLOSED"
  | alreadyOpen => "NON_ASSOCIATION_ALREADY_OPEN"
  | openExists => "OPEN_NON_ASSOCIATION_ALREADY_EXISTS"
  | noLocation => "NULL_PRISONER_LOCATIONS"
  | unknownPrisoners => "PRISONERS_NOT_FOUND"
  | noActor => "USER_IN_CONTEXT_MISSING"

def number : RejectionKind → Option Nat
  | general | unknownPrisoners => none
  | invalid | badClosure => some 102
  | notFound => some 404
  | alreadyClosed => some 100
  | alreadyOpen => some 104
  | openExists => some 101
  | noLocation => some 103
  | noActor => some 401

end RejectionKind

inductive Rejection where
  | general (message : String)
  | invalid (cause : Invalid)
  | badClosure (cause : BadClosure) (id : Option Int)
  | notFound (id : Option Int)
  | alreadyClosed (id : Option Int)
  | alreadyOpen (id : Option Int)
  | openExists (numbers : List String)
  /-- Prisoners without a prison, where the prison matters. -/
  | noLocation (numbers : List String)
  /-- Prisoners whom the directory does not know, ascending. -/
  | unknownPrisoners (numbers : List String)
  | noActor
  deriving DecidableEq, Repr

namespace Rejection

def textLE (a b : String) : Bool := a ≤ b

def ofUnknown (numbers : List String) : Rejection :=
  .unknownPrisoners (numbers.mergeSort textLE)

def kind : Rejection → RejectionKind
  | general _ => .general
  | invalid _ => .invalid
  | badClosure .. => .badClosure
  | notFound _ => .notFound
  | alreadyClosed _ => .alreadyClosed
  | alreadyOpen _ => .alreadyOpen
  | openExists _ => .openExists
  | noLocation _ => .noLocation
  | unknownPrisoners _ => .unknownPrisoners
  | noActor => .noActor

def message : Rejection → String
  | general message => message
  | invalid cause => cause.message
  | badClosure cause id => cause.message id
  | notFound id => Wording.notFound (Json.displayInt? id)
  | alreadyClosed id => Wording.alreadyClosed (Json.displayInt? id)
  | alreadyOpen id => Wording.alreadyOpen (Json.displayInt? id)
  | openExists numbers => Wording.openExists (Json.quotedTexts numbers)
  | noLocation numbers => Wording.noLocation (Json.quotedTexts numbers)
  | unknownPrisoners numbers => Wording.unknownPrisoners (Json.quotedTexts numbers)
  | noActor => Wording.noActor

/-- The field that a rejection is about; the outer option tells whether it is of a kind that names one. -/
def field : Rejection → Option (Option String)
  | invalid cause => some cause.field
  | badClosure .. => some (some "is_closed")
  | _ => none

def recordId : Rejection → Option (Option Int)
  | badClosure _ id | notFound id | alreadyClosed id | alreadyOpen id => some id
  | _ => none

def prisonerNumbers : Rejection → Option (List String)
  | openExists numbers | noLocation numbers | unknownPrisoners numbers => some numbers
  | _ => none

end Rejection

/-! ## Faults -/

inductive Fault where
  | rejected (r : Rejection)
  /-- A record that was to be overwritten or deleted is not stored. -/
  | notStored (id : Option Int)
  /-- A value that is no code of the vocabulary. -/
  | badCode (vocabulary : String) (value : Json)
  | notInvolved (id : Option Int) (number : String)
  | badInteger (text : String)
  | longInteger (digits : Nat)
  /-- A layout of log lines that shows nothing. -/
  | badLayout (layout : String)
  /-- The directory of prisoners could not be reached or refused to answer. -/
  | searchFailed (reason : String)
  | badSettings (reason : String)
  /-- A failure with a text of its own. -/
  | failure (message : String)
  | wrongType
  /-- A value that lacks what is asked of it. -/
  | wrongShape
  | missingKey
  /-- A reply that is no JSON. -/
  | unreadable
  /-- A reply whose values are nested too deeply. -/
  | nested
  /-- A text that cannot be used, which says why. -/
  | badText (reason : String)
  | isDirectory
  /-- A file that cannot be made. -/
  | noFile
  /-- A date outside the calendar or a number beyond 64 bits. -/
  | overflow
  | unstorable
  /-- A text with half of a surrogate pair, which storage cannot hold. -/
  | notUnicode
  /-- The session failed earlier and has not been taken back since. -/
  | pendingRollback
  | noStorage

namespace Fault

/-- How much is shown of a text that is no integer, quotes included. -/
def quotedWidth : Nat := 200

def message? : Fault → Option String
  | rejected r => some r.message
  | notStored id => some ("Non-association " ++ Json.displayInt? id ++ " not found")
  | badCode vocabulary value => some (value.quoted ++ " is not a valid " ++ vocabulary)
  | notInvolved id number =>
    some ("Non-association [ID=" ++ Json.displayInt? id ++ "] does not involve " ++ number)
  | badInteger text =>
    some ("invalid literal for int() with base 10: "
      ++ String.ofList ((Text.quote text).toList.take quotedWidth))
  | longInteger digits => some (Json.longIntegerMessage digits)
  | badLayout layout => some ("Invalid format '" ++ layout ++ "' for '%' style")
  | searchFailed reason => some ("Prisoner search failed: " ++ reason)
  | badSettings reason => some reason
  | failure message | badText message => some message
  | isDirectory | noFile | wrongType | wrongShape | missingKey | unreadable | nested => none
  | overflow | unstorable | notUnicode | pendingRollback | noStorage => none

def ofReading : Json.ReadFault → Fault
  | .malformed _ => unreadable
  | .longInteger digits => longInteger digits
  | .nested => nested

def ofWriting : Json.WriteFault → Fault
  | .longInteger => badText Json.longTextMessage
  | .nested => nested

end Fault

def Vocabulary.read (α : Type) [Vocabulary α] (value : Json) : Except Fault α :=
  match value.str?.bind (Vocabulary.ofCode? α) with
  | some a => .ok a
  | none => .error (.badCode (Vocabulary.name α) value)

end KeepApart
