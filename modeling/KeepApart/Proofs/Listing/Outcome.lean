import KeepApart.Proofs.Failure
import KeepApart.Proofs.Listing
import KeepApart.Proofs.Listing.Order
import KeepApart.Proofs.Merge.Survivors

/-!
# What becomes of a listing

A listing of a prisoner's records asks the directory for everybody on the records that are wanted. It is
refused when other prisons are left out and somebody has no prison. Otherwise it shows each record that
is wanted and within the prisoner's prison once, in the order asked for. Apart from the directory,
nothing else can stop it but details that are no texts.
-/

namespace KeepApart

open KeepApart.Action

variable {s t : Session} {g : Register} {found : Found} {number : String} {o : ListOptions}
variable {r : Record} {entries : List Entry} {all : List Record} {p : Prisoner}

/-! ## What is wanted -/

def ListOptions.Wants (o : ListOptions) (r : Record) : Prop :=
  (o.wantOpen = true ∧ r.isOpen = true) ∨ (o.wantClosed = true ∧ r.isClosed = true)

theorem ListOptions.keeps_iff : o.keeps r = true ↔ o.Wants r := by
  unfold keeps inclusion Wants
  cases o.wantOpen <;> cases o.wantClosed <;>
    simp [Inclusion.of, Inclusion.keeps, Record.isOpen]

namespace Query

def IsWanted (g : Register) (number : String) (o : ListOptions) (r : Record) : Prop :=
  r ∈ g.records ∧ r.involves number = true ∧ o.Wants r

/-- This is the prisoner, or somebody on a record that is wanted, and there is no prison for them. -/
def LacksPrison (g : Register) (number : String) (o : ListOptions) (found : Found) (n : String) :
    Prop :=
  (n = number ∨ ∃ r, IsWanted g number o r ∧ r.involves n = true) ∧ prison found n = .null

/-- Everybody whose details are asked for: the prisoner and those on the records that are wanted. -/
def asked (g : Register) (number : String) (o : ListOptions) : List String :=
  number :: sides (kept g number o)

theorem mem_kept_iff : r ∈ kept g number o ↔ IsWanted g number o r := by
  rw [mem_kept, ListOptions.keeps_iff, IsWanted]

theorem kept_ne_nil_iff : kept g number o ≠ [] ↔ ∃ r, IsWanted g number o r := by
  constructor
  · intro h
    obtain ⟨r, hr⟩ := List.exists_mem_of_ne_nil _ h
    exact ⟨r, mem_kept_iff.1 hr⟩
  · rintro ⟨r, hr⟩
    exact List.ne_nil_of_mem (mem_kept_iff.2 hr)

theorem lacksPrison_iff {n : String} : LacksPrison g number o found n ↔
    n ∈ asked g number o ∧ prison found n = .null := by
  simp only [LacksPrison, asked, List.mem_cons, mem_sides, mem_kept_iff]

end Query

/-! ## Details that can be sorted -/

/-- A text, which may have halves of surrogate pairs, or null. -/
def Json.isTextual : Json → Bool
  | .null | .str _ | .surrogates _ => true
  | _ => false

def Prisoner.IsOfTexts (p : Prisoner) : Prop :=
  ∀ v ∈ [p.number, p.firstName, p.lastName, p.prisonId, p.prisonName, p.cell], v.isTextual = true

theorem SortKey.exists_text_of_isTextual {v : Json} (h : v.isTextual = true) :
    ∃ codes, ofDetail v = .detail (.text codes) := by
  unfold ofDetail
  by_cases hnothing : v.isNothing = true
  · rw [if_pos hnothing]
    exact ⟨_, rfl⟩
  · rw [if_neg hnothing]
    match v with
    | .null => exact absurd rfl hnothing
    | .str _ | .surrogates _ => exact ⟨_, rfl⟩

theorem Entry.isText_of_detail? {e : Entry} (he : e.prisoner.IsOfTexts) {rank : Json.Rank}
    {field : SortField} (h : (e.key field).detail? = some rank) :
    Json.Rank.comparable.isText rank = true := by
  have hkey : ∀ v ∈ [e.prisoner.number, e.prisoner.firstName, e.prisoner.lastName,
      e.prisoner.prisonId, e.prisoner.prisonName, e.prisoner.cell],
      (SortKey.ofDetail v).detail? = some rank → Json.Rank.comparable.isText rank = true := by
    intro v hv hrank
    obtain ⟨codes, hcodes⟩ := SortKey.exists_text_of_isTextual (he v hv)
    rw [hcodes] at hrank
    obtain rfl := Option.some.inj hrank
    rfl
  cases field with
  | whenCreated | whenUpdated | whenClosed => cases h
  | lastName | firstName | number | prisonId | prisonName | cell => exact hkey _ (by simp) h

theorem ListOptions.canSort_of_texts (h : ∀ e ∈ entries, e.prisoner.IsOfTexts) :
    o.canSort entries = true := by
  have hall : ((entries.filter fun e => o.keeps e.record).filterMap fun e =>
      (e.key o.field).detail?).all Json.Rank.comparable.isText = true := by
    rw [List.all_eq_true]
    intro rank hrank
    obtain ⟨e, he, hkey⟩ := List.mem_filterMap.1 hrank
    exact e.isText_of_detail? (h e (List.mem_filter.1 he).1) hkey
  unfold canSort
  dsimp only
  rw [Json.Rank.comparable, hall, Bool.or_true, Bool.true_or]

/-! ## What entries are sorted by -/

/-- The text of a detail by its code points; a missing one is the empty text. -/
def Json.codes : Json → List Nat
  | .str s => s.toList.map Char.toNat
  | .surrogates codes => codes
  | _ => []

namespace Entry

variable {a b e : Entry} {f : SortField}

def value (e : Entry) : SortField → Moment ⊕ List Nat
  | .whenCreated => .inl e.record.whenCreated
  | .whenUpdated => .inl e.record.whenUpdated
  | .whenClosed => .inl (e.record.closedAt.getD Moment.earliest)
  | .lastName => .inr e.prisoner.lastName.codes
  | .firstName => .inr e.prisoner.firstName.codes
  | .number => .inr e.prisoner.number.codes
  | .prisonId => .inr e.prisoner.prisonId.codes
  | .prisonName => .inr e.prisoner.prisonName.codes
  | .cell => .inr e.prisoner.cell.codes

/-- A time is before a later one, a text before another one that has more behind it or a greater code
point where they first differ. -/
def Before (f : SortField) (a b : Entry) : Prop :=
  Sum.LiftRel (· < ·) (List.Lex (· < ·)) (a.value f) (b.value f)

end Entry

/-- May `b` not stand behind `a`? -/
def SortDirection.Forbids (d : SortDirection) (f : SortField) (a b : Entry) : Prop :=
  match d with
  | ascending => b.Before f a
  | descending => a.Before f b

/-- The first entry has to stand before the second by the field, or the two do not differ in it and the
record of the first has the smaller id. -/
def Entry.Leads (o : ListOptions) (a b : Entry) : Prop :=
  o.order.Forbids o.field b a ∨ (a.value o.field = b.value o.field ∧ a.record.id < b.record.id)

namespace SortKey

def ofValue : Moment ⊕ List Nat → SortKey
  | .inl t => .moment t
  | .inr codes => .detail (.text codes)

theorem ofDetail_of_isTextual {v : Json} (h : v.isTextual = true) :
    ofDetail v = ofValue (.inr v.codes) := by
  match v with
  | .null => rfl
  | .str s =>
      by_cases hs : s = ""
      · rw [hs]
        rfl
      · have hsome : (Json.str s).isNothing = false := by simpa [Json.isNothing] using hs
        rw [ofDetail, hsome]
        rfl
  | .surrogates [] => rfl
  | .surrogates (_ :: _) => rfl

theorem not_liftRel_of_le {v w : Moment ⊕ List Nat} (h : (ofValue v).le (ofValue w) = true) :
    ¬ Sum.LiftRel (· < ·) (List.Lex (· < ·)) w v := by
  rintro (hlt | hlt)
  · have hle := moment_le_iff.1 h
    exact Int.not_lt.2 hle hlt
  · exact Json.Rank.text_le_iff.1 h hlt

theorem ofValue_injective {v w : Moment ⊕ List Nat} (h : ofValue v = ofValue w) : v = w := by
  cases v <;> cases w <;> cases h <;> rfl

theorem liftRel_of_le {v w : Moment ⊕ List Nat} (hsides : v.isLeft = w.isLeft)
    (hle : (ofValue v).le (ofValue w) = true) (hne : ofValue v ≠ ofValue w) :
    Sum.LiftRel (· < ·) (List.Lex (· < ·)) v w := by
  match v, w with
  | .inl _, .inl _ =>
      refine .inl (Int.not_le.1 fun hge => hne ?_)
      exact le_antisymm hle (moment_le_iff.2 hge)
  | .inr _, .inr _ =>
      by_contra hnot
      refine hne (le_antisymm hle (Json.Rank.text_le_iff.2 fun hlt => hnot (.inr hlt)))
  | .inl _, .inr _ | .inr _, .inl _ => cases hsides

end SortKey

namespace Entry

variable {a b e : Entry} {f : SortField}

theorem key_eq (he : f.isTime = true ∨ e.prisoner.IsOfTexts) :
    e.key f = SortKey.ofValue (e.value f) := by
  cases f with
  | whenCreated | whenUpdated | whenClosed => rfl
  | lastName | firstName | number | prisonId | prisonName | cell =>
      rcases he with hno | htexts
      · cases hno
      · exact SortKey.ofDetail_of_isTextual (htexts _ (by simp))

theorem isLeft_value (e : Entry) (f : SortField) : (e.value f).isLeft = f.isTime := by
  cases f <;> rfl

theorem Precedes.leads (ha : o.field.isTime = true ∨ a.prisoner.IsOfTexts)
    (hb : o.field.isTime = true ∨ b.prisoner.IsOfTexts) (h : a.Precedes o b) : a.Leads o b := by
  rw [Precedes, key_eq ha, key_eq hb] at h
  have hsides : (a.value o.field).isLeft = (b.value o.field).isLeft := by
    rw [isLeft_value, isLeft_value]
  rcases h with ⟨hle, hne⟩ | ⟨heq, hid⟩
  · left
    generalize o.order = d at hle ⊢
    cases d with
    | ascending => exact SortKey.liftRel_of_le hsides hle hne
    | descending => exact SortKey.liftRel_of_le hsides.symm hle hne.symm
  · exact .inr ⟨SortKey.ofValue_injective heq, hid⟩

end Entry

/-! ## Refusing -/

theorem Json.isNull_iff {v : Json} : v.isNull = true ↔ v = .null := by
  cases v <;> simp [isNull]

namespace Rejection

theorem textLE_iff {a b : String} : textLE a b = true ↔ a ≤ b := decide_eq_true_iff

theorem textLE_trans (a b c : String) (hab : textLE a b = true) (hbc : textLE b c = true) :
    textLE a c = true :=
  textLE_iff.2 (String.le_trans (textLE_iff.1 hab) (textLE_iff.1 hbc))

theorem textLE_total (a b : String) : (textLE a b || textLE b a) = true := by
  rw [Bool.or_eq_true, textLE_iff, textLE_iff]
  exact String.le_total a b

end Rejection

theorem nodup_eraseDups {α : Type} [BEq α] [LawfulBEq α] : ∀ l : List α, l.eraseDups.Nodup
  | [] => List.nodup_nil
  | a :: l => by
      rw [List.eraseDups_cons, List.nodup_cons, List.mem_eraseDups]
      exact ⟨by simp, nodup_eraseDups _⟩
termination_by l => l.length
decreasing_by exact Nat.lt_succ_of_le (List.length_filter_le _ _)

theorem askedNumbers_ascending (numbers : List String) :
    (askedNumbers numbers).Pairwise (· < ·) := by
  have hsorted : (askedNumbers numbers).Pairwise fun a b => Rejection.textLE a b = true :=
    List.pairwise_mergeSort Rejection.textLE_trans Rejection.textLE_total _
  have hnodup : (askedNumbers numbers).Nodup :=
    (List.mergeSort_perm _ _).nodup_iff.2 (nodup_eraseDups numbers)
  refine (hsorted.and hnodup).imp ?_
  rintro a b ⟨hle, hne⟩
  rw [← String.not_le]
  exact fun hge => hne (String.le_antisymm (Rejection.textLE_iff.1 hle) hge)

def Session.afterSearch (s : Session) (numbers : List String) : Session :=
  { s with searches := s.searches ++ Directory.searches numbers }

namespace Query

theorem run_requirePrisons_of_missing {numbers missing : List String}
    (h : ((askedNumbers numbers).filter fun n => (prison found n).isNull) = missing)
    (hsome : missing ≠ []) :
    (requirePrisons found numbers).run s = .error (.rejected (.noLocation missing)) s := by
  unfold requirePrisons
  dsimp only
  rw [h, if_neg (mt List.isEmpty_iff.1 hsome), reject_eq_error]
  exact ⟨rfl, rfl⟩

/-- Those who have no prison are named in ascending order, each once. -/
theorem run_requirePrisons_of_null {numbers : List String}
    (h : ∃ n ∈ numbers, prison found n = .null) :
    ∃ missing, (requirePrisons found numbers).run s = .error (.rejected (.noLocation missing)) s ∧
      missing.Pairwise (· < ·) ∧ ∀ n, n ∈ missing ↔ n ∈ numbers ∧ prison found n = .null := by
  let missing := (askedNumbers numbers).filter fun n => (prison found n).isNull
  have hmem : ∀ n, n ∈ missing ↔ n ∈ numbers ∧ prison found n = .null := by
    intro n
    rw [List.mem_filter, mem_askedNumbers, Json.isNull_iff]
  have hsome : missing ≠ [] := by
    obtain ⟨n, hn⟩ := h
    exact List.ne_nil_of_mem ((hmem n).2 hn)
  exact ⟨missing, run_requirePrisons_of_missing rfl hsome,
    (askedNumbers_ascending numbers).sublist List.filter_sublist, hmem⟩

/-! ## The listing once everybody was looked up -/

def present (found : Found) (number : String) (o : ListOptions) (all : List Record) :
    Action PrisonerListing := do
  if !o.otherPrisons && !all.isEmpty then requirePrisons found (number :: sides all)
  let entries ← (all.filter (sharesPrison found number o)).mapM (opposite found number)
  return ⟨← details found number, ← Action.attempt (o.listed entries)⟩

theorem run_forPrisoner {ctx : Context} {d : Directory} (hs : s.isBroken = false)
    (hctx : ctx.directory = some d) (hfound : d.search (asked s.working number o) = .ok found) :
    (forPrisoner ctx number o).run s = (present found number o (kept s.working number o)).run
      (s.afterSearch (asked s.working number o)) := by
  have hlook : (ctx.lookUp (asked s.working number o)).run s =
      .ok found (s.afterSearch (asked s.working number o)) :=
    lookUp_eq_ok.2 ⟨d, hctx, hfound, rfl⟩
  rw [forPrisoner, EStateM.run_bind, run_register hs]
  dsimp only
  rw [EStateM.run_bind, ← kept, ← asked, hlook]
  simp only [filter_sharesPrison]
  rfl

theorem run_present_of_error {f : Fault} (hown : o.otherPrisons = false) (hall : all ≠ [])
    (h : (requirePrisons found (number :: sides all)).run s = .error f t) :
    (present found number o all).run s = .error f t := by
  have hcond : (!o.otherPrisons && !all.isEmpty) = true := by
    rw [hown, List.isEmpty_eq_false_iff.2 hall]
    rfl
  rw [present, if_pos hcond, bind_eq_error]
  exact .inl h

theorem run_present_of_null (hown : o.otherPrisons = false) (hall : all ≠ [])
    (h : ∃ n ∈ number :: sides all, prison found n = .null) :
    ∃ missing, (present found number o all).run s = .error (.rejected (.noLocation missing)) s ∧
      missing.Pairwise (· < ·) ∧
      ∀ n, n ∈ missing ↔ n ∈ number :: sides all ∧ prison found n = .null := by
  obtain ⟨missing, hrun, hmissing⟩ := run_requirePrisons_of_null (s := s) h
  exact ⟨missing, run_present_of_error hown hall hrun, hmissing⟩

theorem run_present_of_located
    (hlocated : o.otherPrisons = false → all ≠ [] →
      ∀ n ∈ number :: sides all, (prison found n).isNull = false)
    (hp : found.get? number = some p)
    (hentries : ((all.filter (sharesPrison found number o)).mapM (opposite found number)).run s =
      .ok entries s) :
    (present found number o all).run s =
      if o.canSort entries then .ok ⟨p, o.apply entries⟩ s else .error .wrongType s := by
  -- Past the check of prisons there is only the sorting that can fail.
  have hrest : (do
      let entries ← (all.filter (sharesPrison found number o)).mapM (opposite found number)
      return (⟨← details found number, ← Action.attempt (o.listed entries)⟩ : PrisonerListing) :
        Action PrisonerListing).run s =
      if o.canSort entries then .ok ⟨p, o.apply entries⟩ s else .error .wrongType s := by
    rw [EStateM.run_bind, hentries]
    dsimp only
    rw [EStateM.run_bind, run_details hp]
    dsimp only
    rw [ListOptions.listed]
    by_cases hsort : o.canSort entries = true
    · rw [if_pos hsort, if_pos hsort]
      rfl
    · rw [if_neg hsort, if_neg hsort]
      rfl
  unfold present
  by_cases hcond : (!o.otherPrisons && !all.isEmpty) = true
  · rw [if_pos hcond, EStateM.run_bind]
    rw [Bool.and_eq_true, Bool.not_eq_true', Bool.not_eq_true', List.isEmpty_eq_false_iff] at hcond
    rw [requirePrisons_eq_ok.2 ⟨hlocated hcond.1 hcond.2, rfl⟩]
    exact hrest
  · rw [if_neg hcond]
    exact hrest

theorem run_forPrisoner_of_located {ctx : Context} {d : Directory} {listed : List Entry}
    (hs : s.isBroken = false) (hctx : ctx.directory = some d)
    (hfound : d.search (asked s.working number o) = .ok found)
    (hlocated : o.otherPrisons = false → kept s.working number o ≠ [] →
      ∀ n ∈ asked s.working number o, (prison found n).isNull = false)
    (hp : found.get? number = some p)
    (hentries : (((kept s.working number o).filter (sharesPrison found number o)).mapM
      (opposite found number)).run (s.afterSearch (asked s.working number o)) =
        .ok entries (s.afterSearch (asked s.working number o)))
    (hsort : o.canSort entries = true) (hlisted : o.apply entries = listed) :
    (forPrisoner ctx number o).run s =
      .ok ⟨p, listed⟩ (s.afterSearch (asked s.working number o)) := by
  rw [run_forPrisoner hs hctx hfound, run_present_of_located hlocated hp hentries, if_pos hsort,
    hlisted]

/-! ## The listing as a whole -/

/-- The listing has one entry for each record that is wanted and may be shown, beside the details of the
prisoner opposite, in the order asked for: that of keys, which is that of times and of texts. -/
structure Lists (g : Register) (number : String) (o : ListOptions) (found : Found)
    (l : PrisonerListing) : Prop where
  prisoner : found.get? number = some l.prisoner ∧ l.prisoner.number = .str number
  mem_iff : ∀ r, (∃ e ∈ l.entries, e.record = r) ↔ IsWanted g number o r ∧
    (o.otherPrisons = true ∨
      (prison found r.firstNumber).equals l.prisoner.prisonId = true ∧
        (prison found r.secondNumber).equals l.prisoner.prisonId = true)
  nodup : (l.entries.map (·.record.id)).Nodup
  opposite : ∀ e ∈ l.entries, ∃ other, e.record.other? number = some other ∧
    found.get? other = some e.prisoner ∧ e.prisoner.number = .str other
  ordered : l.entries.Pairwise (Entry.Precedes o)
  sorted : o.field.isTime = true ∨ (∀ e ∈ l.entries, e.prisoner.IsOfTexts) →
    l.entries.Pairwise (Entry.Leads o)

theorem lists_of_opposites (hg : g.IsTable) (hkeyed : found.IsKeyed)
    (hp : found.get? number = some p)
    (hentries : ((((kept g number o).filter (sharesPrison found number o)).mapM
      (opposite found number)).run s = .ok entries t)) :
    Lists g number o found ⟨p, o.apply entries⟩ := by
  obtain ⟨-, hrecords, hothers⟩ := opposites_eq_ok hentries
  have hperm : (o.apply entries).Perm entries :=
    apply_perm_of_keeps hrecords fun r hr => (mem_kept.1 (List.mem_filter.1 hr).1).2.2
  have hascending : entries.Pairwise fun a b => a.record.id < b.record.id := by
    have hshown := hg.ascending_of_sublist (shown_sublist g number o found)
    rw [← hrecords, List.pairwise_map] at hshown
    exact hshown
  have hprison : prison found number = p.prisonId := prison_of_get? hp
  have hordered : (o.apply entries).Pairwise (Entry.Precedes o) := o.pairwise_apply hascending
  refine ⟨⟨hp, found.number_of_get? hkeyed hp⟩, ?_, ?_, ?_, hordered, ?_⟩
  · intro r
    have hshows : sharesPrison found number o r = true ↔ o.otherPrisons = true ∨
        (prison found r.firstNumber).equals p.prisonId = true ∧
          (prison found r.secondNumber).equals p.prisonId = true := by
      rw [sharesPrison, hprison, Bool.or_eq_true, Bool.and_eq_true]
    rw [← mem_kept_iff, ← hshows, ← List.mem_filter, ← hrecords, List.mem_map]
    simp only [hperm.mem_iff]
  · have hnodup : (entries.map (·.record.id)).Nodup := by
      refine List.pairwise_map.2 (hascending.imp ?_)
      intro a b hlt heq
      rw [heq] at hlt
      exact Register.id_lt_irrefl _ hlt
    exact ((hperm.map _).nodup_iff).2 hnodup
  · intro e he
    obtain ⟨other, hother, hdetails⟩ := hothers e (hperm.mem_iff.1 he)
    exact ⟨other, hother, hdetails, found.number_of_get? hkeyed hdetails⟩
  · intro hvalued
    refine hordered.imp_of_mem ?_
    intro a b ha hb hab
    exact hab.leads (hvalued.imp_right (· a ha)) (hvalued.imp_right (· b hb))

theorem exists_opposites_of_asked {d : Directory} (hfound : d.search (asked g number o) = .ok found) :
    ∃ entries, (((kept g number o).filter (sharesPrison found number o)).mapM
      (opposite found number)).run s = .ok entries s ∧
      ∀ e ∈ entries, ∃ n ∈ asked g number o, found.get? n = some e.prisoner := by
  obtain ⟨entries, hrun, hrecords⟩ := exists_opposites_of_search (s := s)
    (fun r hr => (mem_kept.1 hr).2.1) hfound List.filter_sublist.subset
  refine ⟨entries, hrun, ?_⟩
  intro e he
  obtain ⟨-, -, hothers⟩ := opposites_eq_ok hrun
  obtain ⟨other, hother, hdetails⟩ := hothers e he
  have hrecord : e.record ∈ entries.map (·.record) := List.mem_map_of_mem he
  rw [hrecords] at hrecord
  have hkept : e.record ∈ kept g number o := (List.mem_filter.1 hrecord).1
  have hinvolves : e.record.involves other = true := by
    obtain ⟨other', hother', hinvolves⟩ := Record.exists_other? (mem_kept.1 hkept).2.1
    rwa [Option.some.inj (hother.symm.trans hother')]
  exact ⟨other, List.mem_cons_of_mem _ (mem_sides.2 ⟨e.record, hkept, hinvolves⟩), hdetails⟩

def IsRefused (g : Register) (number : String) (o : ListOptions) (found : Found) : Prop :=
  o.otherPrisons = false ∧ (∃ r, IsWanted g number o r) ∧ ∃ n, LacksPrison g number o found n

section Found

variable {ctx : Context} {d : Directory} (hs : s.isBroken = false) (hctx : ctx.directory = some d)
  (hfound : d.search (asked s.working number o) = .ok found)
include hs hctx hfound

theorem run_of_isRefused (h : IsRefused s.working number o found) :
    ∃ missing, (forPrisoner ctx number o).run s = .error (.rejected (.noLocation missing))
        (s.afterSearch (asked s.working number o)) ∧
      missing.Pairwise (· < ·) ∧ ∀ n, n ∈ missing ↔ LacksPrison s.working number o found n := by
  obtain ⟨hown, hwanted, n, hn⟩ := h
  obtain ⟨missing, hpresent, hmissing, hmem⟩ :=
    run_present_of_null (s := s.afterSearch (asked s.working number o)) hown
      (kept_ne_nil_iff.2 hwanted) ⟨n, lacksPrison_iff.1 hn⟩
  refine ⟨missing, (run_forPrisoner hs hctx hfound).trans hpresent, hmissing, fun n => ?_⟩
  rw [hmem, lacksPrison_iff, asked]

theorem run_of_not_isRefused (hg : s.working.IsTable) (h : ¬ IsRefused s.working number o found) :
    (∃ l, (forPrisoner ctx number o).run s = .ok l (s.afterSearch (asked s.working number o)) ∧
        Lists s.working number o found l) ∨
      ((∃ n ∈ asked s.working number o, ∃ p, found.get? n = some p ∧ ¬ p.IsOfTexts) ∧
        (forPrisoner ctx number o).run s =
          .error .wrongType (s.afterSearch (asked s.working number o))) := by
  have hlocated : o.otherPrisons = false → kept s.working number o ≠ [] →
      ∀ n ∈ asked s.working number o, (prison found n).isNull = false := by
    intro hown hne n hn
    rw [← Bool.not_eq_true, Json.isNull_iff]
    intro hnull
    exact h ⟨hown, kept_ne_nil_iff.1 hne, n, lacksPrison_iff.2 ⟨hn, hnull⟩⟩
  obtain ⟨p, hp⟩ := Option.isSome_iff_exists.1
    (Directory.isSome_of_search hfound List.mem_cons_self)
  obtain ⟨entries, hentries, hknown⟩ := exists_opposites_of_asked
    (s := s.afterSearch (asked s.working number o)) hfound
  have hrun := run_forPrisoner hs hctx hfound
  rw [run_present_of_located hlocated hp hentries] at hrun
  by_cases hsort : o.canSort entries = true
  · rw [if_pos hsort] at hrun
    exact .inl ⟨_, hrun, lists_of_opposites hg (Directory.isKeyed_of_search hfound) hp hentries⟩
  · rw [if_neg hsort] at hrun
    refine .inr ⟨?_, hrun⟩
    by_contra htexts
    refine hsort (ListOptions.canSort_of_texts fun e he => ?_)
    obtain ⟨n, hn, hdetails⟩ := hknown e he
    by_contra hno
    exact htexts ⟨n, hn, e.prisoner, hdetails, hno⟩

end Found

/-- As soon as the directory knows everybody, a listing that is not refused shows what it should, unless
some of the details are no texts, and these cannot be sorted. It never misses anybody. -/
theorem forPrisoner_lists_or_refuses {ctx : Context} {d : Directory} (hs : s.isBroken = false)
    (hg : s.working.IsTable) (hctx : ctx.directory = some d)
    (hd : d.Knows (IsBeside s.working number)) :
    ∃ found t, d.search (asked s.working number o) = .ok found ∧
      t = s.afterSearch (asked s.working number o) ∧
      (IsRefused s.working number o found →
        ∃ missing, (forPrisoner ctx number o).run s = .error (.rejected (.noLocation missing)) t ∧
          missing.Pairwise (· < ·) ∧ ∀ n, n ∈ missing ↔ LacksPrison s.working number o found n) ∧
      (¬ IsRefused s.working number o found →
        (∃ l, (forPrisoner ctx number o).run s = .ok l t ∧ Lists s.working number o found l) ∨
        ((∃ n ∈ asked s.working number o, ∃ p, found.get? n = some p ∧ ¬ p.IsOfTexts) ∧
          (forPrisoner ctx number o).run s = .error .wrongType t)) := by
  have hbeside : ∀ n ∈ asked s.working number o, IsBeside s.working number n := by
    intro n hn
    refine isBeside_of_mem (fun r hr => ?_) hn
    exact ⟨(mem_kept.1 hr).1, (mem_kept.1 hr).2.1⟩
  obtain ⟨found, hfound⟩ := hd _ hbeside
  exact ⟨found, _, hfound, rfl, run_of_isRefused hs hctx hfound,
    run_of_not_isRefused hs hctx hfound hg⟩

end Query

/-! ## A directory that always answers the same -/

theorem Directory.knows_of_constant {d : Directory}
    (h : ∀ asked, (d.reply asked).found (searchUrl d.url) = .ok found) :
    d.Knows fun n => (found.get? n).isSome = true :=
  fun _ hknown => exists_search (fun _ => h _) hknown

namespace Query

/-- Where one of three has no prison, a listing within the prison is refused and one with other prisons
has both records. -/
theorem forPrisoner_lists_or_refuses_couple :
    ∃ (d : Directory), (Merge.couple.IsTable ∧ d.Knows (IsBeside Merge.couple "A1")) ∧
      (∃ found t, (forPrisoner ⟨Moment.earliest, some d⟩ "A1" {}).run (Session.start Merge.couple) =
          .error (.rejected (.noLocation ["C3"])) t ∧
        LacksPrison Merge.couple "A1" {} found "C3") ∧
      ∃ found l t, (forPrisoner ⟨Moment.earliest, some d⟩ "A1" { otherPrisons := true }).run
          (Session.start Merge.couple) = .ok l t ∧
        l.entries.map (·.record) = Merge.couple.records ∧
        Lists Merge.couple "A1" { otherPrisons := true } found l := by
  let a : Prisoner := .plain "A1" "MDI"
  let b : Prisoner := .plain "B2" "MDI"
  let c : Prisoner := { Prisoner.plain "C3" "" with prisonId := .null }
  let d : Directory := .of [a, b, c]
  let ctx : Context := ⟨Moment.earliest, some d⟩
  let numbers : List String := ["A1", "A1", "B2", "A1", "C3"]
  let found : Found := [(.str "A1", a), (.str "B2", b), (.str "C3", c)]
  let entries : List Entry := [⟨Merge.plain 1 "A1" "B2", b⟩, ⟨Merge.plain 2 "A1" "C3", c⟩]
  let t : Session := (Session.start Merge.couple).afterSearch numbers
  have hg : Merge.couple.IsTable := Merge.isSound_couple.table
  have hreply : ∀ numbers, (d.reply numbers).found (searchUrl d.url) = .ok found := fun _ => rfl
  have hd : d.Knows (IsBeside Merge.couple "A1") := by
    intro numbers hnumbers
    refine Directory.knows_of_constant hreply numbers fun n hn => ?_
    rcases hnumbers n hn with rfl | ⟨r, hr, -, hinvolves⟩
    · rfl
    · simp only [Merge.couple, List.mem_cons, List.not_mem_nil, or_false] at hr
      rcases hr with rfl | rfl <;> rcases Record.involves_iff.1 hinvolves with rfl | rfl <;> rfl
  have hasked : askedNumbers numbers = ["A1", "B2", "C3"] := askedNumbers_of_sorted (by decide)
  have hfound : d.search numbers = .ok found :=
    Directory.search_eq_ok (List.cons_ne_nil _ _) (hreply _) (by decide)
  have hmissing : (requirePrisons found numbers).run t = .error (.rejected (.noLocation ["C3"])) t :=
    run_requirePrisons_of_missing (by rw [hasked]; rfl) (List.cons_ne_nil _ _)
  have hrefused : (forPrisoner ctx "A1" {}).run (Session.start Merge.couple) =
      .error (.rejected (.noLocation ["C3"])) t :=
    (run_forPrisoner rfl rfl hfound).trans (run_present_of_error rfl (List.cons_ne_nil _ _) hmissing)
  have hentries : (Merge.couple.records.mapM (opposite found "A1")).run t = .ok entries t := rfl
  have hsorted : ListOptions.apply { otherPrisons := true } entries = entries :=
    ListOptions.apply_eq (by simp [entries, Merge.plain]) (.refl _)
      (by simp [entries, Entry.Precedes, Entry.key, Merge.plain, ListOptions.field])
  have hlisted : (forPrisoner ctx "A1" { otherPrisons := true }).run (Session.start Merge.couple) =
      .ok ⟨a, entries⟩ t :=
    run_forPrisoner_of_located rfl rfl hfound (fun hown => Bool.noConfusion hown) rfl hentries rfl
      hsorted
  refine ⟨d, ⟨hg, hd⟩, ?_, ?_⟩
  · obtain ⟨found, _, -, -, hyes, hno⟩ :=
      forPrisoner_lists_or_refuses (s := Session.start Merge.couple) (o := {}) rfl hg
        (rfl : ctx.directory = some d) hd
    refine ⟨found, t, hrefused, ?_⟩
    by_cases hrefuse : IsRefused Merge.couple "A1" {} found
    · obtain ⟨missing, hrun, -, hmem⟩ := hyes hrefuse
      cases hrefused.symm.trans hrun
      exact (hmem "C3").1 (List.mem_singleton.2 rfl)
    · rcases hno hrefuse with ⟨l, hrun, -⟩ | ⟨-, hrun⟩ <;> cases hrefused.symm.trans hrun
  · obtain ⟨found, _, -, -, -, hno⟩ :=
      forPrisoner_lists_or_refuses (s := Session.start Merge.couple) (o := { otherPrisons := true })
        rfl hg (rfl : ctx.directory = some d) hd
    rcases hno fun h => Bool.noConfusion h.1 with ⟨l, hrun, hlists⟩ | ⟨-, hrun⟩
    · cases hlisted.symm.trans hrun
      exact ⟨found, _, t, hlisted, rfl, hlists⟩
    · cases hlisted.symm.trans hrun

end Query

end KeepApart
