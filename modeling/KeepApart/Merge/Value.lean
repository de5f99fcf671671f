import KeepApart.Json.Equality
import KeepApart.Merge

/-!
# Merging values

An event may name numbers by values that are no texts. A record is concerned when it holds the text
under which storage would hold the old value. A value that is no text differs from every number on a
record: the old one never is the first side, and the new one never is the counterpart.
-/

namespace KeepApart

/-- What a merge of values did. Renamed records come with what was handed in for them. -/
structure MergeReport where
  renamed : List Saved := []
  superseding : List Record := []
  collapsed : List Record := []

def MergeResults.report (m : MergeResults) : MergeReport :=
  ⟨m.renamed.map Saved.ofRecord, m.superseding, m.collapsed⟩

namespace MergeReport

def addSuperseding (m : MergeReport) (r : Record) : MergeReport :=
  { m with superseding := r.addOnce m.superseding }

def isPlain (m : MergeReport) : Bool :=
  m.renamed.all fun s => s.given.isPlain

end MergeReport

namespace Merge

def stepValues (old new : Json) (m : MergeReport) (r : Record) : Action MergeReport := do
  let isFirst := old.str? == some r.firstNumber
  let other := if isFirst then r.secondNumber else r.firstNumber
  if new.str? == some other then
    Action.delete r.id
    return { m with collapsed := m.collapsed ++ [r] }
  else
    let g ← Action.register
    let text ← Action.attempt (Column.text new)
    let duplicate := text.bind fun t => if isFirst then g.withPair? t other else g.withPair? other t
    let target :=
      if isFirst then { r.draft with firstNumber := new } else { r.draft with secondNumber := new }
    let rename : Action MergeReport := do
      return { m with renamed := m.renamed ++ [← Action.saveDraft target] }
    match duplicate with
    | some duplicate =>
      if duplicate.id != r.id then
        Action.delete r.id
        return m.addSuperseding duplicate
      else rename
    | none => rename

def checkValues (old new : Json) : Except Rejection Unit :=
  if old.isNothing || new.isNothing then .error (.invalid .mergeIncomplete)
  else if old.equals new then .error (.invalid (.mergeIntoItself old.display))
  else .ok ()

def runValues (old new : Json) (w : Window) : Action MergeReport := do
  Action.check (checkValues old new)
  let g ← Action.register
  match ← Action.attempt (Column.text old) with
  | none => return {}
  | some text => (affected g text w).foldlM (stepValues old new) {}

def ofValues (old new : Json) (w : Window) : Action MergeReport :=
  match old, new with
  | .str old, .str new => return (← run old new w).report
  | _, _ => runValues old new w

end Merge

end KeepApart
