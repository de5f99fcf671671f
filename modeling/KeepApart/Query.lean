import KeepApart.Context

/-!
# Queries

The records of one prisoner, each beside the details of the prisoner opposite, and the records among a
group of prisoners. Unless other prisons are wanted too, only records within one prison are shown, and
then every prisoner on a record must have one.
-/

namespace KeepApart

structure PrisonerListing where
  prisoner : Prisoner
  entries : List Entry

namespace Query

def details (found : Found) (number : String) : Action Prisoner :=
  match found.get? number with
  | some p => pure p
  | none => throw .missingKey

def prison (found : Found) (number : String) : Json :=
  ((found.get? number).map (·.prisonId)).getD .null

def sides (records : List Record) : List String :=
  records.flatMap fun r => [r.firstNumber, r.secondNumber]

def requirePrisons (found : Found) (numbers : List String) : Action Unit :=
  let missing := (askedNumbers numbers).filter fun n => (prison found n).isNull
  if missing.isEmpty then pure () else Action.reject (.noLocation missing)

def opposite (found : Found) (number : String) (r : Record) : Action Entry :=
  match r.other? number with
  | none => throw (.notInvolved r.id number)
  | some other => do return ⟨r, ← details found other⟩

/-- The records of a prisoner. Where other prisons are left out, both sides of a record must be in the
prisoner's own prison. -/
def forPrisoner (ctx : Context) (number : String) (o : ListOptions) : Action PrisonerListing := do
  let all := ((← Action.register).involving number).filter o.keeps
  let numbers := number :: sides all
  let found ← ctx.lookUp numbers
  if !o.otherPrisons && !all.isEmpty then requirePrisons found numbers
  let home := prison found number
  let shown :=
    if o.otherPrisons then all
    else all.filter fun r =>
      (prison found r.firstNumber).equals home && (prison found r.secondNumber).equals home
  let entries ← shown.mapM (opposite found number)
  return ⟨← details found number, ← Action.attempt (o.listed entries)⟩

def second (found : Found) (r : Record) : Action Entry := do
  return ⟨r, ← details found r.secondNumber⟩

/-- The records among a group of at least two prisoners. Where other prisons are left out, both sides
of a record must be in the same prison. Sorting by a prisoner's details takes the second side. -/
def amongGroup (ctx : Context) (numbers : List String) (o : ListOptions) : Action (List Record) := do
  let numbers := numbers.eraseDups
  if numbers.length < 2 then Action.reject (.invalid .tooFewPrisoners)
  let all := ((← Action.register).among numbers).filter o.keeps
  if all.isEmpty then return []
  let involved := sides all
  let found ← ctx.lookUp involved
  if !o.otherPrisons then requirePrisons found involved
  let shown :=
    if o.otherPrisons then all
    else all.filter fun r => (prison found r.firstNumber).equals (prison found r.secondNumber)
  let entries ← shown.mapM (second found)
  return (← Action.attempt (o.listed entries)).map (·.record)

end Query

end KeepApart
