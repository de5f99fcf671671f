import KeepApart.Record

/-!
# The register

The register holds the stored records, each under its id, in ascending order of ids. A new record gets
the id after the highest one in use, so an id that was freed at the top is used again.
-/

namespace KeepApart

/-- The stored records, ascending by id. -/
structure Register where
  records : List Record
  deriving DecidableEq, Repr

namespace Register

def empty : Register := ⟨[]⟩

/-- The highest id in use, or zero. -/
def lastId (g : Register) : Int :=
  (g.records.filterMap (·.id)).foldl max 0

def find? (g : Register) (id : Int) : Option Record :=
  g.records.find? fun r => r.id == some id

def identified (g : Register) (r : Record) : Record :=
  { r with id := some (g.lastId + 1) }

def add (g : Register) (r : Record) : Register :=
  ⟨g.records ++ [g.identified r]⟩

def replace (g : Register) (r : Record) : Register :=
  ⟨g.records.map fun s => if s.id == r.id then r else s⟩

def remove (g : Register) (id : Int) : Register :=
  ⟨g.records.filter fun r => r.id != some id⟩

def involving (g : Register) (number : String) : List Record :=
  g.records.filter (·.involves number)

/-- The first record with this pair in this order. -/
def withPair? (g : Register) (first second : String) : Option Record :=
  g.records.find? (·.hasPair first second)

def openBetween (g : Register) (a b : String) : List Record :=
  g.records.filter fun r => r.isOpen && r.isBetween a b

def among (g : Register) (numbers : List String) : List Record :=
  g.records.filter fun r => numbers.contains r.firstNumber && numbers.contains r.secondNumber

end Register

end KeepApart
