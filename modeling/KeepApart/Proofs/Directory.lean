import Mathlib.Data.List.Induction
import KeepApart.Proofs.Listing.Outcome

/-!
# What a search comes to

A search sends the numbers that are wanted at most once, ascending and without repeats. Of an answer it
makes an index, in which each number has the last entry that names it. The search succeeds when everybody
is in the index, and otherwise it names those who are not. The order in which the numbers come and their
repeats do not matter.
-/

namespace KeepApart

variable {found : Found} {entries : List Json} {entry v w : Json} {p : Prisoner} {n : String}
variable {numbers numbers' asked : List String} {d : Directory}

/-! ## The index of an answer -/

def Json.Names (entry v : Json) : Prop := entry.get? "prisonerNumber" = some v

/-- The entry names a number, which is neither a list nor an object. -/
def Json.NamesSomebody (entry : Json) : Prop :=
  ∃ v, entry.Names v ∧ (∀ items, v ≠ .arr items) ∧ ∀ fields, v ≠ .obj fields

def NamedIn (entries : List Json) (n : String) : Prop := ∃ entry ∈ entries, entry.Names (.str n)

namespace Found

def keys (found : Found) : List Json := found.map Prod.fst

def IsDistinct (found : Found) : Prop := found.keys.Pairwise fun v w => v.same w = false

/-- Each number in the entries has one place, with what the last entry of that number says. -/
structure Indexes (found : Found) (entries : List Json) : Prop where
  distinct : found.IsDistinct
  named : ∀ v ∈ found.keys, ∃ entry ∈ entries, entry.Names v
  complete : ∀ entry ∈ entries, ∀ v, entry.Names v → ∃ w ∈ found.keys, w.same v = true
  last : ∀ f ∈ found, ∃ before entry after, entries = before ++ entry :: after ∧
    Prisoner.ofJson entry = .ok f.2 ∧ f.1.same f.2.number = true ∧
    ∀ later ∈ after, ∀ v, later.Names v → f.1.same v = false

theorem mem_insert (hdistinct : found.IsDistinct) {f : Json × Prisoner} (hf : f ∈ found.insert p) :
    f.1.same p.number = true ∧ f.2 = p ∨ f ∈ found ∧ f.1.same p.number = false := by
  induction found with
  | nil =>
      obtain rfl := List.mem_singleton.1 hf
      exact .inl ⟨Json.same_refl _, rfl⟩
  | cons first rest ih =>
      rw [IsDistinct, keys, List.map_cons, List.pairwise_cons] at hdistinct
      rw [insert] at hf
      by_cases hsame : first.1.same p.number = true
      · rw [if_pos hsame] at hf
        rcases List.mem_cons.1 hf with rfl | hf
        · exact .inl ⟨hsame, rfl⟩
        · -- The key of `first` stands for the number, so no other key does.
          refine .inr ⟨List.mem_cons_of_mem _ hf, Bool.eq_false_iff.2 fun hother => ?_⟩
          have hfirst : first.1.same f.1 = false := hdistinct.1 _ (List.mem_map_of_mem hf)
          rw [Json.same_comm] at hother
          rw [Json.same_trans hsame hother] at hfirst
          cases hfirst
      · rw [if_neg hsame] at hf
        rcases List.mem_cons.1 hf with rfl | hf
        · exact .inr ⟨List.mem_cons_self, Bool.eq_false_iff.2 hsame⟩
        · exact (ih hdistinct.2 hf).imp_right fun h => ⟨List.mem_cons_of_mem _ h.1, h.2⟩

/-- A number that has a place keeps it, and another one gets a new place at the end. -/
theorem keys_insert (found : Found) (p : Prisoner) : (found.insert p).keys =
    if found.keys.any (·.same p.number) then found.keys else found.keys ++ [p.number] := by
  induction found with
  | nil => rfl
  | cons first rest ih =>
      rw [insert]
      by_cases hsame : first.1.same p.number = true
      · rw [if_pos hsame]
        simp [keys, hsame]
      · rw [if_neg hsame]
        change first.1 :: keys (insert p rest) = _
        rw [ih]
        have hany : (Found.keys (first :: rest)).any (·.same p.number) =
            (keys rest).any (·.same p.number) := by
          simp [keys, hsame]
        rw [hany]
        by_cases hknown : (keys rest).any (·.same p.number) = true
        · rw [if_pos hknown, if_pos hknown]
          rfl
        · rw [if_neg hknown, if_neg hknown]
          rfl

theorem mem_keys_insert (hv : v ∈ (found.insert p).keys) : v ∈ found.keys ∨ v = p.number := by
  rw [keys_insert] at hv
  by_cases hknown : found.keys.any (·.same p.number) = true
  · rw [if_pos hknown] at hv
    exact .inl hv
  · rw [if_neg hknown, List.mem_append, List.mem_singleton] at hv
    exact hv

theorem mem_keys_insert_of_mem (hv : v ∈ found.keys) (p : Prisoner) : v ∈ (found.insert p).keys := by
  rw [keys_insert]
  by_cases hknown : found.keys.any (·.same p.number) = true
  · rwa [if_pos hknown]
  · rw [if_neg hknown]
    exact List.mem_append_left _ hv

theorem exists_mem_keys_insert (found : Found) (p : Prisoner) :
    ∃ v ∈ (found.insert p).keys, v.same p.number = true := by
  rw [keys_insert]
  by_cases hknown : found.keys.any (·.same p.number) = true
  · rw [if_pos hknown]
    exact List.any_eq_true.1 hknown
  · rw [if_neg hknown]
    exact ⟨p.number, List.mem_append_right _ List.mem_cons_self, Json.same_refl _⟩

theorem IsDistinct.insert (hdistinct : found.IsDistinct) (p : Prisoner) :
    (found.insert p).IsDistinct := by
  rw [IsDistinct, keys_insert]
  by_cases hknown : found.keys.any (·.same p.number) = true
  · rwa [if_pos hknown]
  · rw [if_neg hknown, List.pairwise_append]
    refine ⟨hdistinct, List.pairwise_singleton _ _, ?_⟩
    intro v hv w hw
    obtain rfl := List.mem_singleton.1 hw
    exact Bool.eq_false_iff.2 fun hsame => hknown (List.any_eq_true.2 ⟨v, hv, hsame⟩)

theorem indexes_nil : Indexes [] [] :=
  ⟨List.Pairwise.nil, List.forall_mem_nil _, List.forall_mem_nil _, List.forall_mem_nil _⟩

/-- One more entry takes the place of those before it that name its number. -/
theorem Indexes.insert (h : found.Indexes entries) (hp : Prisoner.ofJson entry = .ok p)
    (hnames : entry.Names p.number) : (found.insert p).Indexes (entries ++ [entry]) := by
  refine ⟨?_, ?_, ?_, ?_⟩
  · exact h.distinct.insert p
  · intro v hv
    rcases mem_keys_insert hv with hv | rfl
    · obtain ⟨e, he, hev⟩ := h.named v hv
      exact ⟨e, List.mem_append_left _ he, hev⟩
    · exact ⟨entry, List.mem_append_right _ List.mem_cons_self, hnames⟩
  · intro e he v hev
    rcases List.mem_append.1 he with he | he
    · obtain ⟨w, hw, hsame⟩ := h.complete e he v hev
      exact ⟨w, mem_keys_insert_of_mem hw p, hsame⟩
    · obtain rfl := List.mem_singleton.1 he
      obtain rfl : p.number = v := Option.some.inj (hnames.symm.trans hev)
      exact exists_mem_keys_insert found p
  · intro f hf
    rcases mem_insert h.distinct hf with ⟨hsame, rfl⟩ | ⟨hf, hother⟩
    · exact ⟨entries, entry, [], rfl, hp, hsame, List.forall_mem_nil _⟩
    · obtain ⟨before, e, after, rfl, he, hsame, hafter⟩ := h.last f hf
      refine ⟨before, e, after ++ [entry], by simp, he, hsame, ?_⟩
      intro later hlater v hv
      rcases List.mem_append.1 hlater with hlater | hlater
      · exact hafter later hlater v hv
      · obtain rfl := List.mem_singleton.1 hlater
        obtain rfl : p.number = v := Option.some.inj (hnames.symm.trans hv)
        exact hother

theorem addEntry_eq (h : entry.NamesSomebody) : ∃ p, Prisoner.ofJson entry = .ok p ∧
    entry.Names p.number ∧ ∀ found, Found.addEntry found entry = .ok (found.insert p) := by
  obtain ⟨v, hv, hitems, hfields⟩ := h
  cases entry with
  | obj fields =>
      have hlookup : Json.lookup? fields "prisonerNumber" = some v := hv
      refine ⟨⟨v, entryItem fields "firstName" (.str ""), entryItem fields "lastName" (.str ""),
        entryItem fields "prisonId" .null, entryItem fields "prisonName" .null,
        entryItem fields "cellLocation" .null⟩, ?_, hv, ?_⟩
      · rw [Prisoner.ofJson, hlookup]
      · intro found
        rw [addEntry, Prisoner.ofJson, hlookup]
        cases v with
        | arr items => exact absurd rfl (hitems items)
        | obj fields => exact absurd rfl (hfields fields)
        | _ => rfl
  | _ => cases hv

theorem exists_indexes (h : ∀ entry ∈ entries, entry.NamesSomebody) :
    ∃ found, entries.foldlM addEntry [] = .ok found ∧ found.Indexes entries := by
  induction entries using List.reverseRecOn with
  | nil => exact ⟨[], rfl, indexes_nil⟩
  | append_singleton entries entry ih =>
      obtain ⟨found, hrun, hindexes⟩ := ih fun e he => h e (List.mem_append_left _ he)
      obtain ⟨p, hp, hnames, hadd⟩ := addEntry_eq (h entry (List.mem_append_right _ List.mem_cons_self))
      refine ⟨found.insert p, ?_, hindexes.insert hp hnames⟩
      rw [List.foldlM_append, hrun]
      change (addEntry found entry).bind _ = _
      rw [hadd]
      rfl

theorem Indexes.isSome_get?_iff (h : found.Indexes entries) :
    (found.get? n).isSome = true ↔ NamedIn entries n := by
  rw [Found.get?, Option.isSome_map, List.find?_isSome]
  constructor
  · rintro ⟨f, hf, hsame⟩
    obtain ⟨entry, hentry, hnames⟩ := h.named f.1 (List.mem_map_of_mem hf)
    rw [Json.eq_str_of_same hsame] at hnames
    exact ⟨entry, hentry, hnames⟩
  · rintro ⟨entry, hentry, hnames⟩
    obtain ⟨v, hv, hsame⟩ := h.complete entry hentry _ hnames
    obtain ⟨f, hf, rfl⟩ := List.mem_map.1 hv
    exact ⟨f, hf, hsame⟩

end Found

/-! ## Searches -/

theorem askedNumbers_eq_nil_iff : askedNumbers numbers = [] ↔ numbers = [] := by
  simp only [List.eq_nil_iff_forall_not_mem, mem_askedNumbers]

theorem askedNumbers_congr (h : ∀ n, n ∈ numbers' ↔ n ∈ numbers) :
    askedNumbers numbers' = askedNumbers numbers := by
  apply (askedNumbers_ascending numbers').eq_of_mem_iff (askedNumbers_ascending numbers)
  intro n
  rw [mem_askedNumbers, mem_askedNumbers, h]

namespace Directory

def Answers (d : Directory) (asked : List String) (entries : List Json) : Prop :=
  ∃ status reason, d.reply asked = .answer status reason (.ok (.arr entries)) ∧
    (status < 400 ∨ 600 ≤ status)

theorem searches_congr (h : ∀ n, n ∈ numbers' ↔ n ∈ numbers) : searches numbers' = searches numbers := by
  rw [searches, searches, askedNumbers_congr h]

theorem search_congr (d : Directory) (h : ∀ n, n ∈ numbers' ↔ n ∈ numbers) :
    d.search numbers' = d.search numbers := by
  rw [search, search, askedNumbers_congr h]

theorem isEmpty_askedNumbers_nil : (askedNumbers []).isEmpty = true :=
  List.isEmpty_iff.2 (askedNumbers_eq_nil_iff.2 rfl)

theorem searches_nil : searches [] = [] := if_pos isEmpty_askedNumbers_nil

theorem search_nil (d : Directory) : d.search [] = .ok [] := if_pos isEmpty_askedNumbers_nil

theorem searches_of_ne_nil (h : numbers ≠ []) : searches numbers = [askedNumbers numbers] :=
  if_neg (mt List.isEmpty_iff.1 (mt askedNumbers_eq_nil_iff.1 h))

theorem searches_eq_nil_iff : searches numbers = [] ↔ numbers = [] := by
  by_cases h : numbers = []
  · rw [h]
    exact ⟨fun _ => rfl, fun _ => searches_nil⟩
  · rw [searches_of_ne_nil h]
    exact ⟨fun hnil => absurd hnil (List.cons_ne_nil _ _), fun hnil => absurd hnil h⟩

theorem refusal?_eq_none {url reason : String} {status : Int} (h : status < 400 ∨ 600 ≤ status) :
    refusal? url status reason = none := by
  have hclient : (decide (400 ≤ status) && decide (status < 500)) = false := by
    rw [Bool.and_eq_false_iff, decide_eq_false_iff_not, decide_eq_false_iff_not]
    omega
  have hserver : (decide (500 ≤ status) && decide (status < 600)) = false := by
    rw [Bool.and_eq_false_iff, decide_eq_false_iff_not, decide_eq_false_iff_not]
    omega
  rw [refusal?, hclient, hserver]
  rfl

theorem exists_found_of_answers (hanswers : d.Answers asked entries)
    (h : ∀ entry ∈ entries, entry.NamesSomebody) :
    ∃ found, (d.reply asked).found (searchUrl d.url) = .ok found ∧ found.Indexes entries := by
  obtain ⟨status, reason, hreply, hstatus⟩ := hanswers
  obtain ⟨found, hrun, hindexes⟩ := Found.exists_indexes h
  refine ⟨found, ?_, hindexes⟩
  rw [hreply, Reply.found, refusal?_eq_none hstatus]
  cases entries with
  | nil => exact hrun
  | cons entry entries => exact hrun

theorem search_of_found (hne : numbers ≠ [])
    (hfound : (d.reply (askedNumbers numbers)).found (searchUrl d.url) = .ok found) :
    d.search numbers =
      if ((askedNumbers numbers).filter fun n => (found.get? n).isNone).isEmpty then .ok found
      else .error (.rejected (.ofUnknown ((askedNumbers numbers).filter fun n =>
        (found.get? n).isNone))) := by
  unfold search
  dsimp only
  rw [if_neg (mt List.isEmpty_iff.1 (mt askedNumbers_eq_nil_iff.1 hne)), hfound]
  rfl

theorem search_of_all_named (hindexes : found.Indexes entries) (hne : numbers ≠ [])
    (hfound : (d.reply (askedNumbers numbers)).found (searchUrl d.url) = .ok found)
    (hall : ∀ n ∈ numbers, NamedIn entries n) : d.search numbers = .ok found := by
  have hnone : ((askedNumbers numbers).filter fun n => (found.get? n).isNone) = [] := by
    rw [List.filter_eq_nil_iff]
    intro n hn
    have hsome := hindexes.isSome_get?_iff.2 (hall n (mem_askedNumbers.1 hn))
    rw [Option.isSome_iff_ne_none] at hsome
    rwa [Option.isNone_iff_eq_none]
  rw [search_of_found hne hfound, hnone]
  rfl

theorem search_of_unnamed (hindexes : found.Indexes entries)
    (hfound : (d.reply (askedNumbers numbers)).found (searchUrl d.url) = .ok found)
    (hsome : ∃ n ∈ numbers, ¬ NamedIn entries n) :
    ∃ missing, d.search numbers = .error (.rejected (.unknownPrisoners missing)) ∧
      missing.Pairwise (· < ·) ∧ ∀ n, n ∈ missing ↔ n ∈ numbers ∧ ¬ NamedIn entries n := by
  let unknown := (askedNumbers numbers).filter fun n => (found.get? n).isNone
  have hmem : ∀ n, n ∈ unknown ↔ n ∈ numbers ∧ ¬ NamedIn entries n := by
    intro n
    rw [List.mem_filter, mem_askedNumbers, ← hindexes.isSome_get?_iff, Bool.not_eq_true,
      Option.isSome_eq_false_iff]
  have hascending : unknown.Pairwise (· < ·) :=
    (askedNumbers_ascending numbers).sublist List.filter_sublist
  -- What is ascending already is not sorted any further.
  have hsorted : unknown.mergeSort Rejection.textLE = unknown := by
    refine List.mergeSort_of_pairwise (hascending.imp ?_)
    intro a b hlt
    exact Rejection.textLE_iff.2 ((String.le_total a b).resolve_right (String.not_le.2 hlt))
  obtain ⟨n, hn, hnot⟩ := hsome
  have hne : unknown ≠ [] := List.ne_nil_of_mem ((hmem n).2 ⟨hn, hnot⟩)
  refine ⟨unknown, ?_, hascending, hmem⟩
  rw [search_of_found (List.ne_nil_of_mem hn) hfound, if_neg (mt List.isEmpty_iff.1 hne),
    Rejection.ofUnknown, hsorted]

/-- What is sent and what comes of it, whoever looks the prisoners up. -/
theorem run_lookUp {ctx : Context} (hctx : ctx.directory = some d) (numbers : List String) (s : Session) :
    (ctx.lookUp numbers).run s = (Action.attempt (d.search numbers)).run
      { s with searches := s.searches ++ searches numbers } := by
  rw [Context.lookUp, hctx]
  rfl

/-- One search is sent when there are numbers, and none otherwise. It succeeds when all of them are named
in the answer, with the index of the answer, and otherwise the rest of them are named as unknown. Only
which numbers there are decides what is sent and what comes of it. -/
theorem search_finds_or_misses (hanswers : ∀ asked ∈ searches numbers, d.Answers asked entries)
    (h : ∀ entry ∈ entries, entry.NamesSomebody) :
    (∀ (ctx : Context) s, ctx.directory = some d → (ctx.lookUp numbers).run s =
      (Action.attempt (d.search numbers)).run { s with searches := s.searches ++ searches numbers }) ∧
    (searches numbers = [] ↔ numbers = []) ∧
    (numbers = [] → d.search numbers = .ok []) ∧
    (numbers ≠ [] → ∃ asked, searches numbers = [asked] ∧ asked.Pairwise (· < ·) ∧
      ∀ n, n ∈ asked ↔ n ∈ numbers) ∧
    (numbers ≠ [] → (∀ n ∈ numbers, NamedIn entries n) →
      ∃ found, d.search numbers = .ok found ∧ found.Indexes entries) ∧
    ((∃ n ∈ numbers, ¬ NamedIn entries n) →
      ∃ missing, d.search numbers = .error (.rejected (.unknownPrisoners missing)) ∧
        missing.Pairwise (· < ·) ∧ ∀ n, n ∈ missing ↔ n ∈ numbers ∧ ¬ NamedIn entries n) ∧
    ∀ numbers', (∀ n, n ∈ numbers' ↔ n ∈ numbers) →
      searches numbers' = searches numbers ∧ d.search numbers' = d.search numbers := by
  -- Only when there are numbers is the directory asked.
  have hfound (hne : numbers ≠ []) : ∃ found,
      (d.reply (askedNumbers numbers)).found (searchUrl d.url) = .ok found ∧ found.Indexes entries := by
    rw [searches_of_ne_nil hne] at hanswers
    exact exists_found_of_answers (hanswers _ List.mem_cons_self) h
  refine ⟨?_, searches_eq_nil_iff, ?_, ?_, ?_, ?_, ?_⟩
  · intro ctx s hctx
    exact run_lookUp hctx numbers s
  · rintro rfl
    exact d.search_nil
  · intro hne
    exact ⟨_, searches_of_ne_nil hne, askedNumbers_ascending numbers, fun _ => mem_askedNumbers⟩
  · intro hne hall
    obtain ⟨found, hrun, hindexes⟩ := hfound hne
    exact ⟨found, search_of_all_named hindexes hne hrun hall, hindexes⟩
  · rintro ⟨n, hn, hnot⟩
    obtain ⟨found, hrun, hindexes⟩ := hfound (List.ne_nil_of_mem hn)
    exact search_of_unnamed hindexes hrun ⟨n, hn, hnot⟩
  · intro numbers' hsame
    exact ⟨searches_congr hsame, d.search_congr hsame⟩

/-- An answer tells twice of one prisoner, once of somebody else, and not of everybody. -/
theorem search_finds_or_misses_moved :
    let row (n cell : String) : Json := .obj [("prisonerNumber", .str n), ("cellLocation", .str cell)]
    let entries := [row "A1" "1-1", row "C3" "1-2", row "A1" "2-1"]
    let d : Directory := ⟨"", fun _ => .answer 200 "OK" (.ok (.arr entries))⟩
    d.Answers ["A1"] entries ∧ d.Answers ["A1", "B2"] entries ∧
      (∃ found, d.search ["A1", "A1"] = .ok found ∧ found.Indexes entries) ∧
      ∃ missing, d.search ["B2", "A1", "B2"] = .error (.rejected (.unknownPrisoners missing)) ∧
        ∀ n, n ∈ missing ↔ n = "B2" := by
  intro row entries d
  have hanswers (asked : List String) : d.Answers asked entries :=
    ⟨200, "OK", rfl, by decide⟩
  have hnames : ∀ e ∈ entries, e.NamesSomebody := by
    have hrow (n cell : String) : (row n cell).NamesSomebody := ⟨.str n, rfl, nofun, nofun⟩
    simp [entries, hrow]
  have hA1 : NamedIn entries "A1" := ⟨row "A1" "1-1", List.mem_cons_self, rfl⟩
  have hB2 : ¬ NamedIn entries "B2" := by
    simp [NamedIn, entries, row, Json.Names, Json.get?, Json.lookup?]
  have hall (numbers : List String) : ∀ asked ∈ searches numbers, d.Answers asked entries :=
    fun asked _ => hanswers asked
  obtain ⟨-, -, -, -, hfinds, -⟩ := search_finds_or_misses (hall ["A1", "A1"]) hnames
  obtain ⟨-, -, -, -, -, hmisses, -⟩ := search_finds_or_misses (hall ["B2", "A1", "B2"]) hnames
  refine ⟨hanswers _, hanswers _, hfinds (by decide) (by simpa using hA1), ?_⟩
  obtain ⟨missing, hrun, -, hmem⟩ := hmisses ⟨"B2", List.mem_cons_self, hB2⟩
  refine ⟨missing, hrun, fun n => (hmem n).trans ?_⟩
  constructor
  · rintro ⟨hn, hnot⟩
    simp only [List.mem_cons, List.not_mem_nil, or_false] at hn
    rcases hn with rfl | rfl | rfl
    · rfl
    · exact absurd hA1 hnot
    · rfl
  · rintro rfl
    exact ⟨List.mem_cons_self, hB2⟩

end Directory

end KeepApart
