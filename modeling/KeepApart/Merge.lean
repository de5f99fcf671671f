import KeepApart.Context

/-!
# Merging prisoner numbers

When one prisoner number takes the place of another, every record that mentions the old number is
concerned. A record that would pair the new number with itself is deleted, and so is one whose pair is
stored already in the same order; the others are renamed in place. Records are taken in ascending order
of ids, each against what the ones before it left behind.
-/

namespace KeepApart

/-- Adds the record at the end, unless one with its id is there. -/
def Record.addOnce (r : Record) (records : List Record) : List Record :=
  if records.any fun s => s.id == r.id then records else records ++ [r]

/-- The records that a merge touched: renamed ones as they are now, survivors of duplicates, and deleted
ones that would have paired a prisoner with themselves. -/
structure MergeResults where
  renamed : List Record := []
  superseding : List Record := []
  collapsed : List Record := []
  deriving DecidableEq, Repr

namespace MergeResults

def isEmpty (m : MergeResults) : Bool :=
  m.renamed.isEmpty && m.superseding.isEmpty && m.collapsed.isEmpty

def addSuperseding (m : MergeResults) (r : Record) : MergeResults :=
  { m with superseding := r.addOnce m.superseding }

def addRenamed (m : MergeResults) (r : Record) : MergeResults :=
  { m with renamed := m.renamed ++ [r] }

def addCollapsed (m : MergeResults) (r : Record) : MergeResults :=
  { m with collapsed := m.collapsed ++ [r] }

end MergeResults

/-- Bounds on the time of creation; a bound that is none does not bound. -/
structure Window where
  since : Option Moment := none
  until? : Option Moment := none
  deriving DecidableEq, Repr

/-- Both bounds belong to the window. -/
def Window.contains (w : Window) (t : Moment) : Bool :=
  w.since.all (· ≤ t) && w.until?.all (t ≤ ·)

/-- The record with the first side that is the old number replaced by the new one. -/
def Record.renamed (r : Record) (old new : String) : Record :=
  if r.firstNumber = old then { r with firstNumber := new } else { r with secondNumber := new }

def Record.counterpart (r : Record) (old : String) : String :=
  if r.firstNumber = old then r.secondNumber else r.firstNumber

namespace Merge

def step (old new : String) (m : MergeResults) (r : Record) : Action MergeResults := do
  if r.counterpart old = new then
    Action.delete r.id
    return m.addCollapsed r
  else
    let target := r.renamed old new
    match (← Action.register).withPair? target.firstNumber target.secondNumber with
    | some duplicate =>
      if duplicate.id != r.id then
        Action.delete r.id
        return m.addSuperseding duplicate
      else return m.addRenamed (← Action.save target)
    | none => return m.addRenamed (← Action.save target)

def affected (g : Register) (old : String) (w : Window) : List Record :=
  (g.involving old).filter fun r => w.contains r.whenCreated

def checkNumbers (old new : String) : Except Rejection Unit :=
  if old.isEmpty || new.isEmpty then .error (.invalid .mergeIncomplete)
  else if old = new then .error (.invalid (.mergeIntoItself old))
  else .ok ()

/-- Puts the new number in the place of the old one in the records created within the window. -/
def run (old new : String) (w : Window) : Action MergeResults := do
  Action.check (checkNumbers old new)
  let records := affected (← Action.register) old w
  records.foldlM (step old new) {}

end Merge

end KeepApart
