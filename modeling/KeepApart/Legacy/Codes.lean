import KeepApart.Vocabulary

/-!
# Between the legacy and the modern vocabulary

Two legacy reasons become two roles and one reason, and back. Going from legacy to modern and back
loses nothing, except that bullying or rivalry on one side spreads to both.
-/

namespace KeepApart

def LegacyReason.role : LegacyReason → Role
  | .bullying => .unknown
  | .rival => .notRelevant
  | .victim => .victim
  | .perpetrator => .perpetrator
  | .notRelevant => .notRelevant
  | .unknown => .unknown

def LegacyReason.sharedReason? : LegacyReason → Option Reason
  | .bullying => some .bullying
  | .rival => some .gangRelated
  | _ => none

/-- The reason of a pair: the second prisoner's legacy reason decides before the first one's. -/
def LegacyReason.pairReason (first second : LegacyReason) : Reason :=
  (second.sharedReason?.or first.sharedReason?).getD .other

def Role.legacy : Role → LegacyReason
  | .victim => .victim
  | .perpetrator => .perpetrator
  | .notRelevant => .notRelevant
  | .unknown => .unknown

/-- The legacy reason that a shared reason puts on both prisoners. -/
def Reason.forced? : Reason → Option LegacyReason
  | .gangRelated => some .rival
  | .bullying => some .bullying
  | _ => none

def Reason.legacyPair (reason : Reason) (first second : Role) : LegacyReason × LegacyReason :=
  match reason.forced? with
  | some forced => (forced, forced)
  | none => (first.legacy, second.legacy)

/-- Exercise and total restrictions widen to the wing. -/
def LegacyRestriction.modern : LegacyRestriction → Restriction
  | .cell => .cell
  | .landing => .landing
  | .exercise | .total | .wing => .wing

def Restriction.legacy : Restriction → LegacyRestriction
  | .cell => .cell
  | .landing => .landing
  | .wing => .wing

end KeepApart
