/-!
# Vocabulary

The codes in which a non-association is described, with descriptions for people. The modern
vocabulary gives each prisoner a role and the pair one reason; the legacy vocabulary gives each
prisoner a reason of their own.
-/

namespace KeepApart

/-- A finite list of codes under one name. -/
class Vocabulary (α : Type) where
  /-- The name of the vocabulary, as messages show it. -/
  name : String
  /-- All members, in the order in which they are listed. -/
  all : List α
  code : α → String

export Vocabulary (code)

class Described (α : Type) [Vocabulary α] where
  describe : α → String

export Described (describe)

def Vocabulary.ofCode? (α : Type) [Vocabulary α] (s : String) : Option α :=
  (Vocabulary.all : List α).find? fun a => code a == s

inductive Role where
  | victim | perpetrator | notRelevant | unknown
  deriving DecidableEq, Repr

inductive Reason where
  | bullying | gangRelated | organisedCrime | legalRequest | threat | violence | other
  deriving DecidableEq, Repr

inductive Restriction where
  | cell | landing | wing
  deriving DecidableEq, Repr

inductive LegacyReason where
  | bullying | perpetrator | rival | victim | notRelevant | unknown
  deriving DecidableEq, Repr

inductive LegacyRestriction where
  | cell | landing | exercise | total | wing
  deriving DecidableEq, Repr

instance : Vocabulary Role where
  name := "Role"
  all := [.victim, .perpetrator, .notRelevant, .unknown]
  code
    | .victim => "VICTIM"
    | .perpetrator => "PERPETRATOR"
    | .notRelevant => "NOT_RELEVANT"
    | .unknown => "UNKNOWN"

instance : Described Role where
  describe
    | .victim => "Victim"
    | .perpetrator => "Perpetrator"
    | .notRelevant => "Not relevant"
    | .unknown => "Unknown"

instance : Vocabulary Reason where
  name := "Reason"
  all := [.bullying, .gangRelated, .organisedCrime, .legalRequest, .threat, .violence, .other]
  code
    | .bullying => "BULLYING"
    | .gangRelated => "GANG_RELATED"
    | .organisedCrime => "ORGANISED_CRIME"
    | .legalRequest => "LEGAL_REQUEST"
    | .threat => "THREAT"
    | .violence => "VIOLENCE"
    | .other => "OTHER"

instance : Described Reason where
  describe
    | .bullying => "Bullying"
    | .gangRelated => "Gang related"
    | .organisedCrime => "Organised crime"
    | .legalRequest => "Police or legal request"
    | .threat => "Threat"
    | .violence => "Violence"
    | .other => "Other"

instance : Vocabulary Restriction where
  name := "RestrictionType"
  all := [.cell, .landing, .wing]
  code
    | .cell => "CELL"
    | .landing => "LANDING"
    | .wing => "WING"

instance : Described Restriction where
  describe
    | .cell => "Cell only"
    | .landing => "Cell and landing"
    | .wing => "Cell, landing and wing"

instance : Vocabulary LegacyReason where
  name := "LegacyReason"
  all := [.bullying, .perpetrator, .rival, .victim, .notRelevant, .unknown]
  code
    | .bullying => "BUL"
    | .perpetrator => "PER"
    | .rival => "RIV"
    | .victim => "VIC"
    | .notRelevant => "NOT_RELEVANT"
    | .unknown => "UNKNOWN"

instance : Described LegacyReason where
  describe
    | .bullying => "Anti Bullying Strategy"
    | .perpetrator => "Perpetrator"
    | .rival => "Rival Gang"
    | .victim => "Victim"
    | .notRelevant => "Not relevant"
    | .unknown => "Unknown"

instance : Vocabulary LegacyRestriction where
  name := "LegacyRestrictionType"
  all := [.cell, .landing, .exercise, .total, .wing]
  code
    | .cell => "CELL"
    | .landing => "LANDING"
    | .exercise => "EXERCISE"
    | .total => "TOTAL"
    | .wing => "WING"

instance : Described LegacyRestriction where
  describe
    | .cell => "Do Not Locate in Same Cell"
    | .landing => "Do Not Locate on Same Landing"
    | .exercise => "Do Not Exercise Together"
    | .total => "Total Non Association"
    | .wing => "Do Not Locate on Same Wing"

end KeepApart
