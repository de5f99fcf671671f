import KeepApart.Proofs.Http.Forms

/-!
# What forms take for a prisoner number

Whatever else stands in its content, a form takes a value for a prisoner number if and only if it is a
text of seven characters: one letter, four digits and two letters, all of ASCII. In a list of numbers a
line feed behind the seven is taken as well.
-/

namespace KeepApart

open Schema Schema.Checked

variable {α β : Type} {fields : List (String × Json)} {key name : String} {v w : Json} {s : String}

/-! ## The form of a number -/

/-- Seven characters: one letter, four digits and two letters, all of ASCII. -/
def HasNumberForm (s : String) : Prop :=
  ∃ a b c d e f g, s.toList = [a, b, c, d, e, f, g] ∧ a.isAlpha = true ∧
    (∀ x ∈ [b, c, d, e], x.isDigit = true) ∧ f.isAlpha = true ∧ g.isAlpha = true

def Json.IsNumber (v : Json) : Prop := ∃ s, v = .str s ∧ HasNumberForm s

/-- A text that has the form of a number, perhaps with a line feed behind it. -/
def Json.IsListedNumber (v : Json) : Prop :=
  ∃ s, HasNumberForm s ∧ (v = .str s ∨ v = .str (s ++ "\n"))

/-- Only a line feed at the end makes a difference. -/
theorem Json.isListedNumber_iff_isNumber (hs : s.toList.getLast? ≠ some '\n') :
    (Json.str s).IsListedNumber ↔ (Json.str s).IsNumber := by
  constructor
  · rintro ⟨t, ht, heq | heq⟩
    · exact ⟨t, heq, ht⟩
    · obtain rfl := Json.str.inj heq
      exact absurd (by simp) hs
  · rintro ⟨t, heq, ht⟩
    exact ⟨t, ht, .inl heq⟩

namespace Schema

theorem isLetter_eq_isAlpha (c : Char) : isLetter c = c.isAlpha := by
  have hupper : ('A' ≤ c && c ≤ 'Z') = c.isUpper := (Bool.decide_and _ _).symm
  exact congrArg (· || c.isLower) hupper

theorem isDigit_eq_isDigit (c : Char) : isDigit c = c.isDigit := rfl

theorem isPrisonerNumber_iff : isPrisonerNumber s = true ↔ HasNumberForm s := by
  unfold isPrisonerNumber HasNumberForm
  generalize s.toList = cs
  constructor
  · intro h
    unfold isPrisonerNumberChars at h
    split at h
    · simp only [Bool.and_eq_true, isLetter_eq_isAlpha, isDigit_eq_isDigit, and_assoc] at h
      obtain ⟨ha, hb, hc, hd, he, hf, hg⟩ := h
      exact ⟨_, _, _, _, _, _, _, rfl, ha, by simp [hb, hc, hd, he], hf, hg⟩
    · cases h
  · rintro ⟨a, b, c, d, e, f, g, rfl, ha, hdigits, hf, hg⟩
    simp only [List.forall_mem_cons] at hdigits
    simp [isPrisonerNumberChars, isLetter_eq_isAlpha, isDigit_eq_isDigit, ha, hdigits, hf, hg]

theorem isListedNumber_iff :
    isListedNumber s = true ↔ ∃ t, HasNumberForm t ∧ (s = t ∨ s = t ++ "\n") := by
  have hlast : (s.toList.getLast? == some '\n' && isPrisonerNumberChars s.toList.dropLast) = true ↔
      ∃ t, isPrisonerNumber t = true ∧ s = t ++ "\n" := by
    rw [Bool.and_eq_true, beq_iff_eq]
    constructor
    · rintro ⟨hfeed, hform⟩
      obtain ⟨cs, hcs⟩ := List.getLast?_eq_some_iff.1 hfeed
      rw [hcs, List.dropLast_concat] at hform
      exact ⟨String.ofList cs, by simpa [isPrisonerNumber] using hform,
        String.toList_injective (by simpa using hcs)⟩
    · rintro ⟨t, ht, rfl⟩
      simpa [isPrisonerNumber] using ht
  rw [isListedNumber, Bool.or_eq_true, hlast]
  constructor
  · rintro (h | ⟨t, ht, rfl⟩)
    · exact ⟨s, isPrisonerNumber_iff.1 h, .inl rfl⟩
    · exact ⟨t, isPrisonerNumber_iff.1 ht, .inr rfl⟩
  · rintro ⟨t, ht, rfl | rfl⟩
    · exact .inl (isPrisonerNumber_iff.2 ht)
    · exact .inr ⟨t, isPrisonerNumber_iff.2 ht, rfl⟩

/-! ## Outcomes -/

namespace Checked

/-- The check accepts, with whatever it makes of the value. -/
def IsAccepted (x : Checked α) : Prop := ∃ a, x = .accepted a

theorem isAccepted_pure {a : α} : (pure a : Checked α).IsAccepted ↔ True :=
  iff_true_intro ⟨a, rfl⟩

theorem isAccepted_map {f : α → β} {x : Checked α} : (f <$> x).IsAccepted ↔ x.IsAccepted := by
  simp only [IsAccepted, map_eq_accepted]
  constructor
  · rintro ⟨_, a, h, -⟩
    exact ⟨a, h⟩
  · rintro ⟨a, h⟩
    exact ⟨_, a, h, rfl⟩

theorem isAccepted_seq {f : Checked (α → β)} {x : Checked α} :
    (f <*> x).IsAccepted ↔ f.IsAccepted ∧ x.IsAccepted := by
  simp only [IsAccepted, seq_eq_accepted]
  constructor
  · rintro ⟨_, g, a, hf, hx, -⟩
    exact ⟨⟨g, hf⟩, a, hx⟩
  · rintro ⟨⟨g, hf⟩, a, hx⟩
    exact ⟨_, g, a, hf, hx, rfl⟩

end Checked

theorem isAccepted_required {check : Check α} : (required fields name check).IsAccepted ↔
    ∃ v, field? fields name = some v ∧ (check v).IsAccepted := by
  simp only [IsAccepted, required_eq_accepted]
  constructor
  · rintro ⟨a, v, hv, h⟩
    exact ⟨v, hv, a, h⟩
  · rintro ⟨v, hv, a, h⟩
    exact ⟨a, v, hv, h⟩

/-! ## Setting one field -/

theorem field?_insertField_of_ne (hcamel : key ≠ camelCase name) (hplain : key ≠ name) :
    field? (Json.insertField fields key v) name = field? fields name := by
  simp [field?, Json.lookup?_insertField, hcamel, hplain]

theorem required_insertField {check : Check α} :
    (required (Json.insertField fields (camelCase name) v) name check).IsAccepted ↔
      (check v).IsAccepted := by
  have hfield : field? (Json.insertField fields (camelCase name) v) name = some v := by
    simp [field?, Json.lookup?_insertField]
  simp [isAccepted_required, hfield]

theorem required_insertField_of_ne {check : Check α} (hcamel : key ≠ camelCase name)
    (hplain : key ≠ name) : (required (Json.insertField fields key v) name check).IsAccepted ↔
      (required fields name check).IsAccepted := by
  rw [isAccepted_required, isAccepted_required, field?_insertField_of_ne hcamel hplain]

theorem optional_insertField_of_ne {check : Check α} {default : α} (hcamel : key ≠ camelCase name)
    (hplain : key ≠ name) : optional (Json.insertField fields key v) name check default =
      optional fields name check default := by
  rw [optional, optional, field?_insertField_of_ne hcamel hplain]

/-! ## Numbers and groups -/

theorem isAccepted_prisonerNumber : (prisonerNumber v).IsAccepted ↔ v.IsNumber := by
  simp only [IsAccepted, prisonerNumber_eq_accepted, isPrisonerNumber_iff, Json.IsNumber]

theorem items_text {vs : List Json} {n : Nat} {numbers : List String} :
    items text n vs = .accepted numbers ↔ vs = numbers.map .str := by
  induction vs generalizing n numbers with
  | nil => cases numbers <;> simp [items]
  | cons v rest ih =>
      simp only [items, seq_eq_accepted, map_eq_accepted, under_eq_accepted, text_eq_accepted, ih,
        existsAndEq, and_true]
      cases numbers with
      | nil => simp
      | cons number numbers => simp [and_comm]

theorem isAccepted_group {numbers : List String} :
    (prisonerGroup (.arr (numbers.map .str))).IsAccepted ↔
      groupMinimum ≤ numbers.length ∧ ∀ n ∈ numbers, isListedNumber n = true := by
  have hread : listOf text (.arr (numbers.map .str)) = .accepted numbers := items_text.2 rfl
  have hrefuse {message : String} {v : Json} {P : Prop} (hP : ¬ P) :
      (refuse message v : Checked (List String)).IsAccepted ↔ P := by
    refine iff_of_false ?_ hP
    rintro ⟨_, h⟩
    exact refuse_ne_accepted h
  simp only [prisonerGroup, hread, andThen]
  by_cases hlong : numbers.length < groupMinimum
  · rw [if_pos hlong]
    exact hrefuse fun h => Nat.not_le.2 hlong h.1
  · rw [if_neg hlong, and_iff_right (Nat.not_lt.1 hlong)]
    cases hfound : numbers.find? fun n => !isListedNumber n with
    | none =>
        have hall : ∀ n ∈ numbers, isListedNumber n = true := by
          simpa using List.find?_eq_none.1 hfound
        exact iff_of_true ⟨numbers, rfl⟩ hall
    | some n =>
        have hbad : ¬ isListedNumber n = true := by simpa using List.find?_some hfound
        exact hrefuse fun h => hbad (h n (List.mem_of_find?_eq_some hfound))

theorem exists_texts {vs : List Json} (h : ∀ v ∈ vs, ∃ n, v = Json.str n) :
    ∃ numbers : List String, vs = numbers.map .str := by
  induction vs with
  | nil => exact ⟨[], rfl⟩
  | cons v rest ih =>
      obtain ⟨⟨n, rfl⟩, hrest⟩ := List.forall_mem_cons.1 h
      obtain ⟨numbers, rfl⟩ := ih hrest
      exact ⟨n :: numbers, rfl⟩

theorem isAccepted_prisonerGroup {vs : List Json} : (prisonerGroup (.arr vs)).IsAccepted ↔
    groupMinimum ≤ vs.length ∧ ∀ v ∈ vs, v.IsListedNumber := by
  have hlisted (n : String) : (Json.str n).IsListedNumber ↔ isListedNumber n = true := by
    simp [Json.IsListedNumber, isListedNumber_iff]
  have hgroup (numbers : List String) : (prisonerGroup (.arr (numbers.map .str))).IsAccepted ↔
      groupMinimum ≤ (numbers.map Json.str).length ∧ ∀ v ∈ numbers.map Json.str, v.IsListedNumber := by
    simp only [isAccepted_group, List.length_map, List.forall_mem_map, hlisted]
  constructor
  · intro h
    obtain ⟨_, haccepted⟩ := id h
    obtain ⟨numbers, hread, -⟩ := andThen_eq_accepted.1 haccepted
    obtain rfl := items_text.1 hread
    exact (hgroup numbers).1 h
  · intro h
    obtain ⟨numbers, rfl⟩ : ∃ numbers : List String, vs = numbers.map .str := by
      refine exists_texts fun v hv => ?_
      obtain ⟨n, -, rfl | rfl⟩ := h.2 v hv
      · exact ⟨n, rfl⟩
      · exact ⟨n ++ "\n", rfl⟩
    exact (hgroup numbers).2 h

end Schema

/-! ## Forms -/

namespace Http

/-- In this place of its content, the form takes exactly the values with the property, as long as there
is one that it takes. -/
def Takes (form : List (String × Json) → Checked α) (place : Json → List (String × Json))
    (P : Json → Prop) : Prop :=
  ∀ v, (∃ w, (form (place w)).IsAccepted) → ((form (place v)).IsAccepted ↔ P v)

namespace Form

theorem takes_proposal (fields : List (String × Json)) :
    ∀ name ∈ ["first_prisoner_number", "second_prisoner_number"],
      Takes proposal (Json.insertField fields (camelCase name)) Json.IsNumber := by
  simp only [List.forall_mem_cons]
  refine ⟨?_, ?_, nofun⟩ <;> rintro v ⟨w, h⟩
  all_goals
    simp (disch := decide) only [proposal, isAccepted_seq, isAccepted_map, isAccepted_pure,
      required_insertField, required_insertField_of_ne, isAccepted_prisonerNumber] at h ⊢
    simp only [h, and_true, true_and]

theorem takes_legacy (fields : List (String × Json)) (id : List (String × Json) → Checked (Option Int))
    (hid : ∀ key ≠ "id", ∀ v, id (Json.insertField fields key v) = id fields) :
    ∀ name ∈ ["first_prisoner_number", "second_prisoner_number"],
      Takes (fun content => legacy content (id content)) (Json.insertField fields (camelCase name))
        Json.IsNumber := by
  simp only [List.forall_mem_cons]
  refine ⟨?_, ?_, nofun⟩ <;> rintro v ⟨w, h⟩
  all_goals
    simp (disch := decide) only [legacy, isAccepted_seq, isAccepted_map, required_insertField,
      required_insertField_of_ne, optional_insertField_of_ne, hid, isAccepted_prisonerNumber] at h ⊢
    simp only [h, and_true, true_and]

theorem takes_migration (fields : List (String × Json)) :
    ∀ name ∈ ["first_prisoner_number", "second_prisoner_number"],
      Takes migration (Json.insertField fields (camelCase name)) Json.IsNumber :=
  takes_legacy fields (fun _ => pure none) fun _ _ _ => rfl

theorem takes_update (fields : List (String × Json)) :
    ∀ name ∈ ["first_prisoner_number", "second_prisoner_number"],
      Takes update (Json.insertField fields (camelCase name)) Json.IsNumber := by
  refine takes_legacy fields (fun content => optional content "id" (nullable positive) none) ?_
  intro key hkey v
  have hcamel : camelCase "id" = "id" := by decide
  exact optional_insertField_of_ne (by rwa [hcamel]) hkey

theorem takes_merge (fields : List (String × Json)) :
    ∀ name ∈ ["old_prisoner_number", "new_prisoner_number"],
      Takes merge (Json.insertField fields (camelCase name)) Json.IsNumber := by
  simp only [List.forall_mem_cons]
  refine ⟨?_, ?_, nofun⟩ <;> rintro v ⟨w, h⟩
  all_goals
    simp (disch := decide) only [merge, isAccepted_seq, isAccepted_map, required_insertField,
      required_insertField_of_ne, optional_insertField_of_ne, isAccepted_prisonerNumber] at h ⊢
    simp only [h, and_true, true_and]

def listed (fields : List (String × Json)) (before after : List Json) (v : Json) :
    List (String × Json) :=
  Json.insertField fields (camelCase "prisoner_numbers") (.arr (before ++ v :: after))

theorem takes_group (fields : List (String × Json)) (before after : List Json) :
    Takes group (listed fields before after) Json.IsListedNumber := by
  rintro v ⟨w, h⟩
  simp (disch := decide) only [group, listed, isAccepted_seq, isAccepted_map, required_insertField,
    optional_insertField_of_ne, isAccepted_prisonerGroup, List.length_append, List.length_cons,
    List.forall_mem_append, List.forall_mem_cons, and_assoc] at h ⊢
  obtain ⟨hlong, hbefore, -, hafter, hflags⟩ := h
  constructor
  · rintro ⟨-, -, hv, -⟩
    exact hv
  · intro hv
    exact ⟨hlong, hbefore, hv, hafter, hflags⟩

/-- Every form takes the same values for a prisoner number, those that have the form of one, but for a
list of numbers: there a line feed may stand behind the number, and nothing else is let through. -/
theorem takes_numbers_but_for_line_feed (fields : List (String × Json)) :
    (∀ name ∈ ["first_prisoner_number", "second_prisoner_number"],
      Takes proposal (Json.insertField fields (camelCase name)) Json.IsNumber ∧
        Takes migration (Json.insertField fields (camelCase name)) Json.IsNumber ∧
          Takes update (Json.insertField fields (camelCase name)) Json.IsNumber) ∧
    (∀ name ∈ ["old_prisoner_number", "new_prisoner_number"],
      Takes merge (Json.insertField fields (camelCase name)) Json.IsNumber) ∧
    (∀ before after, Takes group (listed fields before after) Json.IsListedNumber) ∧
    ∀ s : String, s.toList.getLast? ≠ some '\n' →
      ((Json.str s).IsListedNumber ↔ (Json.str s).IsNumber) := by
  refine ⟨?_, takes_merge fields, takes_group fields, fun s => Json.isListedNumber_iff_isNumber⟩
  intro name hname
  exact ⟨takes_proposal fields name hname, takes_migration fields name hname,
    takes_update fields name hname⟩

/-- A number with a line feed behind it: the form of a record refuses it and the form of a group takes
it. -/
theorem line_feed_taken_in_list_only :
    ∃ fields : List (String × Json),
      (proposal (Json.insertField fields "firstPrisonerNumber" (.str "A1234BC"))).IsAccepted ∧
      ¬ (proposal (Json.insertField fields "firstPrisonerNumber" (.str "A1234BC\n"))).IsAccepted ∧
      (group (listed [] [] [.str "B2345CD"] (.str "A1234BC\n"))).IsAccepted := by
  let fields : List (String × Json) := [("firstPrisonerRole", .str "VICTIM"),
    ("secondPrisonerNumber", .str "B2345CD"), ("secondPrisonerRole", .str "PERPETRATOR"),
    ("reason", .str "BULLYING"), ("restrictionType", .str "CELL"), ("comment", .str "Kept apart")]
  have hcamel : camelCase "first_prisoner_number" = "firstPrisonerNumber" := by decide
  have hnumber : HasNumberForm "A1234BC" := isPrisonerNumber_iff.1 (by decide)
  have hlonger : ¬ HasNumberForm "A1234BC\n" := mt isPrisonerNumber_iff.2 (by decide)
  have hproposal := takes_proposal fields "first_prisoner_number" (.head _)
  rw [hcamel] at hproposal
  have hgroup := takes_group [] [] [.str "B2345CD"]
  have hsome : (proposal (Json.insertField fields "firstPrisonerNumber" (.str "A1234BC"))).IsAccepted :=
    ⟨_, rfl⟩
  have hlist : (group (listed [] [] [.str "B2345CD"] (.str "A1234BC"))).IsAccepted := ⟨_, rfl⟩
  refine ⟨fields, hsome, ?_, ?_⟩
  · rw [hproposal _ ⟨_, hsome⟩]
    rintro ⟨_, ⟨⟩, h⟩
    exact hlonger h
  · rw [hgroup _ ⟨_, hlist⟩]
    exact ⟨"A1234BC", hnumber, .inr rfl⟩

end Form

end Http

end KeepApart
