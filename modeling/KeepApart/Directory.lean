import KeepApart.Fault
import KeepApart.Listing

/-!
# The directory of prisoners

Another service knows the prisoners: their names, prisons and cells. It is asked once for all numbers
that are wanted, ascending and without repeats, and answers with a list of entries. A number that is
not among them is unknown.
-/

namespace KeepApart

inductive Reply where
  /-- A status with its reason, and the content, which may fail to be JSON. -/
  | answer (status : Int) (reason : String) (content : Except Json.ReadFault Json)
  | unreachable (reason : String)
  | crash (message : String)

/-- Where the directory is and what it replies to a search for these numbers. -/
structure Directory where
  url : String
  reply : List String → Reply

def searchPath : String := "/prisoner-search/prisoner-numbers"

/-- The address of a search; slashes at the end of the base are dropped. -/
def searchUrl (base : String) : String :=
  String.ofList (base.toList.reverse.dropWhile (· == '/')).reverse ++ searchPath

abbrev Found := List (Json × Prisoner)

namespace Found

def get? (found : Found) (number : String) : Option Prisoner :=
  (List.find? (fun f => f.1.same (.str number)) found).map Prod.snd

/-- Adds a prisoner; a later entry takes the place of an earlier one. -/
def insert (p : Prisoner) : Found → Found
  | [] => [(p.number, p)]
  | f :: rest => if f.1.same p.number then (f.1, p) :: rest else f :: insert p rest

theorem get?_cons (f : Json × Prisoner) (found : Found) (number : String) :
    get? (f :: found) number = if f.1.same (.str number) then some f.2 else get? found number := by
  cases h : f.1.same (.str number) <;> simp [get?, h]

theorem get?_insert (p : Prisoner) (found : Found) (number : String) :
    (insert p found).get? number =
      if p.number.same (.str number) then some p else found.get? number := by
  induction found with
  | nil => simp [insert, get?_cons]
  | cons f rest ih =>
    by_cases h : f.1.same p.number
    · have : f.1.same (.str number) = p.number.same (.str number) := by
        have := Json.same_comm f.1 p.number
        grind [Json.same_trans]
      simp [insert, h, get?_cons, this]
      grind
    · have : ¬ (f.1.same (.str number) ∧ p.number.same (.str number)) := by
        have := Json.same_comm p.number (.str number)
        grind [Json.same_trans]
      simp [insert, h, get?_cons, ih]
      grind

end Found

def entryItem (entry : List (String × Json)) (name : String) (default : Json) : Json :=
  (Json.lookup? entry name).getD default

/-- The prisoner of an entry, which must name a number. Missing names count as empty. -/
def Prisoner.ofJson : Json → Except Fault Prisoner
  | .obj entry =>
    match Json.lookup? entry "prisonerNumber" with
    | none => .error .missingKey
    | some number =>
      .ok {
        number
        firstName := entryItem entry "firstName" (.str "")
        lastName := entryItem entry "lastName" (.str "")
        prisonId := entryItem entry "prisonId" .null
        prisonName := entryItem entry "prisonName" .null
        cell := entryItem entry "cellLocation" .null }
  | _ => .error .wrongType

namespace Found

def addEntry (found : Found) (entry : Json) : Except Fault Found := do
  let p ← Prisoner.ofJson entry
  match p.number with
  | .arr _ | .obj _ => throw .wrongType
  | _ => return found.insert p

/-- The prisoners in the content of an answer. Empty content of any kind means nobody. -/
def ofContent (content : Json) : Except Fault Found :=
  if content.isNothing then .ok []
  else
    match content with
    | .arr entries => entries.foldlM addEntry []
    | _ => .error .wrongType

end Found

def refusal? (url : String) (status : Int) (reason : String) : Option String :=
  let text (kind : String) := toString status ++ kind ++ reason ++ " for url: " ++ url
  if 400 ≤ status && status < 500 then some (text " Client Error: ")
  else if 500 ≤ status && status < 600 then some (text " Server Error: ")
  else none

def Reply.found (url : String) : Reply → Except Fault Found
  | .answer status reason content =>
    match refusal? url status reason with
    | some text => .error (.searchFailed text)
    | none =>
      match content with
      | .error fault => .error (.ofReading fault)
      | .ok content => Found.ofContent content
  | .unreachable reason => .error (.searchFailed reason)
  | .crash message => .error (.failure message)

/-- Numbers as they are asked for: ascending, each once. -/
def askedNumbers (numbers : List String) : List String :=
  numbers.eraseDups.mergeSort Rejection.textLE

namespace Directory

def search (d : Directory) (numbers : List String) : Except Fault Found := do
  let asked := askedNumbers numbers
  if asked.isEmpty then return []
  let found ← (d.reply asked).found (searchUrl d.url)
  let unknown := asked.filter fun n => (found.get? n).isNone
  if unknown.isEmpty then return found
  else throw (.rejected (.ofUnknown unknown))

def searches (numbers : List String) : List (List String) :=
  let asked := askedNumbers numbers
  if asked.isEmpty then [] else [asked]

end Directory

end KeepApart
