import KeepApart.Proofs.Mirror

/-!
# The records among a group

What is listed among two prisoners is what the listing of either of them has on the other. The one asks
for a common prison, the other for that of its own prisoner, which comes to the same. Sorted by a time
both stand in one order. In a group it does not matter in which order people are named, or how often.
-/

namespace KeepApart

open KeepApart.Action

variable {s t : Session} {g : Register} {found : Found} {number : String} {o : ListOptions}
variable {numbers numbers' : List String} {r : Record} {rs : List Record} {a b : String}

/-! ## Order by a time -/

theorem Entry.key_eq_of_record {e e' : Entry} {field : SortField} (h : field.isTime = true)
    (hrecord : e.record = e'.record) : e.key field = e'.key field := by
  cases field with
  | whenCreated | whenUpdated | whenClosed => simp only [key, hrecord]
  | lastName | firstName | number | prisonId | prisonName | cell => cases h

def Record.Precedes (o : ListOptions) (r q : Record) : Prop :=
  ∃ a b : Entry, a.record = r ∧ b.record = q ∧ a.Precedes o b

/-- For a time it does not matter whose details are beside the records. -/
theorem Record.Precedes.asymm (h : o.field.isTime = true) {r q : Record} (hrq : r.Precedes o q) :
    ¬ q.Precedes o r := by
  rintro ⟨b', a', hb', ha', hba⟩
  obtain ⟨a, b, ha, hb, hab⟩ := hrq
  have hkey : a.key o.field = a'.key o.field := Entry.key_eq_of_record h (ha.trans ha'.symm)
  have hkey' : b.key o.field = b'.key o.field := Entry.key_eq_of_record h (hb.trans hb'.symm)
  refine hab.asymm ?_
  rwa [Entry.Precedes, hkey, hkey', ha, hb, ← ha', ← hb']

theorem Record.eq_of_perm_of_precedes {rs' : List Record} (h : o.field.isTime = true)
    (hperm : rs.Perm rs') (hrs : rs.Pairwise (Precedes o)) (hrs' : rs'.Pairwise (Precedes o)) :
    rs = rs' :=
  hperm.eq_of_pairwise (fun _ _ _ _ hrq hqr => absurd hqr (hrq.asymm h)) hrs hrs'

namespace Query

/-! ## Records among a group -/

def keptAmong (g : Register) (numbers : List String) (o : ListOptions) : List Record :=
  (g.among numbers).filter o.keeps

def withinPrison (found : Found) (o : ListOptions) (r : Record) : Bool :=
  o.otherPrisons || (prison found r.firstNumber).equals (prison found r.secondNumber)

theorem second_eq_ok {e : Entry} (h : (second found r).run s = .ok e t) :
    s = t ∧ e.record = r ∧ found.get? r.secondNumber = some e.prisoner := by
  simp only [second, bind_eq_ok, details_eq_ok, pure_eq_ok] at h
  obtain ⟨p, _, ⟨hp, rfl⟩, rfl, rfl⟩ := h
  exact ⟨rfl, rfl, hp⟩

/-- What is listed among a group are the sorted records of it that are within one prison. Nobody was
looked up when there are none. -/
theorem sorted_of_amongGroup {ctx : Context} (h : (amongGroup ctx numbers o).run s = .ok rs t) :
    ∃ found entries,
      (keptAmong s.working numbers.eraseDups o ≠ [] → ∃ d, ctx.directory = some d ∧
        d.search (sides (keptAmong s.working numbers.eraseDups o)) = .ok found) ∧
      entries.map (·.record) =
        (keptAmong s.working numbers.eraseDups o).filter (withinPrison found o) ∧
      rs = (o.apply entries).map (·.record) := by
  unfold amongGroup at h
  dsimp only at h
  simp only [bind_eq_ok, register_eq_ok, when_eq_ok] at h
  obtain ⟨u, hlength, g, _, ⟨-, rfl, rfl⟩, h⟩ := h
  obtain rfl : s = u := by
    split at hlength
    · exact absurd hlength reject_ne_ok
    · exact hlength
  rw [← keptAmong] at h
  by_cases hnone : (keptAmong s.working numbers.eraseDups o).isEmpty = true
  · rw [if_pos hnone, pure_eq_ok] at h
    obtain ⟨rfl, -⟩ := h
    have hnil := List.isEmpty_iff.1 hnone
    have hsorted : o.apply [] = [] := (o.apply_perm []).eq_nil
    exact ⟨[], [], fun hne => absurd hnil hne, by rw [hnil]; rfl, by rw [hsorted]; rfl⟩
  · rw [if_neg hnone] at h
    simp only [bind_eq_ok, lookUp_eq_ok, when_eq_ok, attempt_eq_ok, pure_eq_ok, filter_unless] at h
    obtain ⟨found, u, ⟨d, hctx, hfound, -⟩, u', -, entries, _, hentries, listed, _, ⟨hlisted, -⟩,
      rfl, -⟩ := h
    obtain rfl := o.eq_of_listed hlisted
    obtain ⟨-, hrecords, -⟩ := mapM_eq_ok second_eq_ok hentries
    exact ⟨found, entries, fun _ => ⟨d, hctx, hfound⟩, hrecords, rfl⟩

theorem run_amongGroup_of_located {ctx : Context} {d : Directory} {entries listed : List Entry}
    (hs : s.isBroken = false) (hctx : ctx.directory = some d)
    (htwo : ¬ numbers.eraseDups.length < 2)
    (hsome : (keptAmong s.working numbers.eraseDups o).isEmpty = false)
    (hfound : d.search (sides (keptAmong s.working numbers.eraseDups o)) = .ok found)
    (hlocated : ∀ n ∈ sides (keptAmong s.working numbers.eraseDups o),
      (prison found n).isNull = false)
    (hentries : (((keptAmong s.working numbers.eraseDups o).filter (withinPrison found o)).mapM
      (second found)).run (s.afterSearch (sides (keptAmong s.working numbers.eraseDups o))) =
        .ok entries (s.afterSearch (sides (keptAmong s.working numbers.eraseDups o))))
    (hsort : o.canSort entries = true) (hlisted : o.apply entries = listed) :
    (amongGroup ctx numbers o).run s = .ok (listed.map (·.record))
      (s.afterSearch (sides (keptAmong s.working numbers.eraseDups o))) := by
  unfold amongGroup
  dsimp only
  rw [if_neg htwo]
  simp only [bind_eq_ok, register_eq_ok]
  refine ⟨s.working, s, ⟨hs, rfl, rfl⟩, ?_⟩
  rw [← keptAmong, if_neg (by rw [hsome]; exact Bool.false_ne_true)]
  simp only [bind_eq_ok, lookUp_eq_ok, when_eq_ok, attempt_eq_ok, pure_eq_ok, filter_unless]
  refine ⟨found, _, ⟨d, hctx, hfound, rfl⟩, _, ?_, entries, _, hentries, _, _, ⟨?_, rfl⟩, rfl, rfl⟩
  · split
    · exact requirePrisons_eq_ok.2 ⟨hlocated, rfl⟩
    · rfl
  · rw [ListOptions.listed, if_pos hsort, hlisted]

theorem mem_keptAmong : r ∈ keptAmong g numbers o ↔
    r ∈ g.records ∧ (r.firstNumber ∈ numbers ∧ r.secondNumber ∈ numbers) ∧ o.keeps r = true := by
  rw [keptAmong, List.mem_filter, Register.among, List.mem_filter, Bool.and_eq_true,
    List.contains_iff_mem, List.contains_iff_mem, and_assoc]

/-! ## Two prisoners -/

theorem eraseDups_pair (hab : a ≠ b) : [a, b].eraseDups = [a, b] := by
  rw [List.eraseDups_cons, List.filter_cons_of_pos (by simpa using hab.symm)]
  rfl

theorem mem_pair_iff (hab : a ≠ b) (hdiffer : r.firstNumber ≠ r.secondNumber) :
    (r.firstNumber ∈ [a, b] ∧ r.secondNumber ∈ [a, b]) ↔
      r.involves a = true ∧ r.involves b = true := by
  simp only [List.mem_cons, List.not_mem_nil, or_false, Record.involves_iff]
  grind

theorem pair_of_involves (hab : a ≠ b) (ha : r.involves a = true) (hb : r.involves b = true) :
    r.pair = (a, b) ∨ r.pair = (b, a) := by
  rw [Record.involves_iff] at ha hb
  obtain rfl | rfl := ha
  · exact .inl (Prod.ext rfl (hb.resolve_left hab))
  · exact .inr (Prod.ext (hb.resolve_right hab) rfl)

/-- Being in one prison is being in that of one's own prisoner. -/
theorem withinPrison_iff {p q : Prisoner} (hsides : r.pair = (a, b) ∨ r.pair = (b, a))
    (hp : found.get? a = some p) (hq : found.get? b = some q) :
    withinPrison found o r = true ↔ o.otherPrisons = true ∨ p.prisonId.equals q.prisonId = true := by
  have hprison : prison found a = p.prisonId := prison_of_get? hp
  have hprison' : prison found b = q.prisonId := prison_of_get? hq
  rw [withinPrison, Bool.or_eq_true]
  rcases hsides with hpair | hpair
  · obtain ⟨hfirst, hsecond⟩ := Prod.mk.inj hpair
    rw [hfirst, hsecond, hprison, hprison']
  · obtain ⟨hfirst, hsecond⟩ := Prod.mk.inj hpair
    rw [hfirst, hsecond, hprison, hprison', Json.equals_comm]

variable {d : Directory} {found' : Found}

/-- On a record of both prisoners the two conditions on prisons come to the same. -/
theorem sharesPrison_eq_withinPrison (hab : a ≠ b) (hd : d.IsSteady)
    (hfound : d.search (a :: sides (kept g a o)) = .ok found)
    (hfound' : d.search (sides (keptAmong g [a, b] o)) = .ok found')
    (hr : r ∈ kept g a o) (hr' : r ∈ keptAmong g [a, b] o)
    (hb : r.involves b = true) : sharesPrison found a o r = withinPrison found' o r := by
  have ha : r.involves a = true := (mem_kept.1 hr).2.1
  have hasked : b ∈ a :: sides (kept g a o) := mem_asked hr hb
  have hsides : a ∈ sides (keptAmong g [a, b] o) := mem_sides.2 ⟨r, hr', ha⟩
  have hsides' : b ∈ sides (keptAmong g [a, b] o) := mem_sides.2 ⟨r, hr', hb⟩
  obtain ⟨p, hp⟩ := Option.isSome_iff_exists.1
    (Directory.isSome_of_search hfound List.mem_cons_self)
  obtain ⟨q, hq⟩ := Option.isSome_iff_exists.1 (Directory.isSome_of_search hfound hasked)
  have hp' : found'.get? a = some p := by
    rw [← hd _ _ _ _ hfound hfound' a List.mem_cons_self hsides, hp]
  have hq' : found'.get? b = some q := by
    rw [← hd _ _ _ _ hfound hfound' b hasked hsides', hq]
  have hpair := pair_of_involves hab ha hb
  rw [Bool.eq_iff_iff, sharesPrison_iff hpair hp hq, withinPrison_iff hpair hp' hq']

theorem filter_involves_eq (hpairs : ∀ r ∈ g.records, r.firstNumber ≠ r.secondNumber) (hab : a ≠ b)
    (hd : d.IsSteady) (hfound : d.search (a :: sides (kept g a o)) = .ok found)
    (hfound' : keptAmong g [a, b] o ≠ [] →
      d.search (sides (keptAmong g [a, b] o)) = .ok found') :
    ((kept g a o).filter (sharesPrison found a o)).filter (·.involves b) =
      (keptAmong g [a, b] o).filter (withinPrison found' o) := by
  have hkept : (kept g a o).filter (·.involves b) = keptAmong g [a, b] o := by
    unfold kept keptAmong Register.involving Register.among
    rw [List.filter_filter, List.filter_filter, List.filter_filter]
    refine List.filter_congr fun r hr => ?_
    have hmem := mem_pair_iff hab (hpairs r hr)
    rw [Bool.eq_iff_iff]
    simp only [Bool.and_eq_true, List.contains_iff_mem, hmem]
    tauto
  rw [List.filter_comm, hkept]
  refine List.filter_congr fun r hr => ?_
  have hr' : r ∈ (kept g a o).filter (·.involves b) := by rwa [hkept]
  obtain ⟨hown, hb⟩ := List.mem_filter.1 hr'
  exact sharesPrison_eq_withinPrison hab hd hfound (hfound' (List.ne_nil_of_mem hr)) hown hr hb

theorem pairwise_records_apply {records : List Record} {entries : List Entry}
    (hrecords : entries.map (·.record) = records)
    (hascending : records.Pairwise fun a b => a.id < b.id) :
    ((o.apply entries).map (·.record)).Pairwise (Record.Precedes o) := by
  rw [← hrecords, List.pairwise_map] at hascending
  rw [List.pairwise_map]
  exact (o.pairwise_apply hascending).imp fun h => ⟨_, _, rfl, rfl, h⟩

/-! ## The order in which people are named -/

theorem eraseDups_perm (h : ∀ n, n ∈ numbers ↔ n ∈ numbers') :
    numbers.eraseDups.Perm numbers'.eraseDups := by
  rw [List.perm_ext_iff_of_nodup (nodup_eraseDups _) (nodup_eraseDups _)]
  simpa only [List.mem_eraseDups] using h

theorem amongGroup_congr (ctx : Context) (o : ListOptions) (h : ∀ n, n ∈ numbers ↔ n ∈ numbers') :
    amongGroup ctx numbers o = amongGroup ctx numbers' o := by
  have hperm := eraseDups_perm h
  have hamong (g : Register) : g.among numbers.eraseDups = g.among numbers'.eraseDups := by
    unfold Register.among
    simp only [hperm.contains_eq]
  unfold amongGroup
  simp only [hperm.length_eq, hamong]

/-- Among two prisoners are listed just the records that the listing of one of them has on the other, in
the same order when they are sorted by a time. Who is named first, or how often, does not matter. -/
theorem group_listing_agrees {ctx : Context} {d : Directory} (hg : g.IsTable)
    (hpairs : ∀ r ∈ g.records, r.firstNumber ≠ r.secondNumber) (hctx : ctx.directory = some d)
    (hd : d.IsSteady) :
    (∀ (a b : String) (o : ListOptions) (s s' t t' : Session) (l : PrisonerListing)
      (rs : List Record), a ≠ b → s.working = g → s'.working = g →
      (forPrisoner ctx a o).run s = .ok l t → (amongGroup ctx [a, b] o).run s' = .ok rs t' →
        rs.Perm ((l.entries.map (·.record)).filter (·.involves b)) ∧
        (o.field.isTime = true → rs = (l.entries.map (·.record)).filter (·.involves b))) ∧
    ∀ (ctx : Context) (o : ListOptions) (numbers numbers' : List String),
      (∀ n, n ∈ numbers ↔ n ∈ numbers') → amongGroup ctx numbers o = amongGroup ctx numbers' o := by
  refine ⟨?_, fun ctx o _ _ h => amongGroup_congr ctx o h⟩
  intro a b o s s' t t' l rs hab hs hs' hown hgroup
  obtain ⟨_, found, entries, hctx', hfound, -, hrecords, hl⟩ := sorted_of_forPrisoner hown
  obtain rfl := Option.some.inj (hctx.symm.trans hctx')
  obtain ⟨found', entries', hfound', hrecords', rfl⟩ := sorted_of_amongGroup hgroup
  rw [hs] at hfound hrecords
  rw [hs', eraseDups_pair hab] at hfound' hrecords'
  have hsearch : keptAmong g [a, b] o ≠ [] → d.search (sides (keptAmong g [a, b] o)) = .ok found' := by
    intro hne
    obtain ⟨_, hctx'', hfound''⟩ := hfound' hne
    obtain rfl := Option.some.inj (hctx.symm.trans hctx'')
    exact hfound''
  have hsame := filter_involves_eq hpairs hab hd hfound hsearch
  have hsorted : (o.apply entries).Perm entries :=
    apply_perm_of_keeps hrecords fun r hr => (mem_kept.1 (List.mem_filter.1 hr).1).2.2
  have hsorted' : (o.apply entries').Perm entries' :=
    apply_perm_of_keeps hrecords' fun r hr => (mem_keptAmong.1 (List.mem_filter.1 hr).1).2.2
  have hperm : ((o.apply entries').map (·.record)).Perm
      ((l.entries.map (·.record)).filter (·.involves b)) := by
    rw [hl]
    refine (hsorted'.map _).trans ?_
    rw [hrecords', ← hsame, ← hrecords]
    exact ((hsorted.map _).filter _).symm
  refine ⟨hperm, fun htime => ?_⟩
  have hshown : (l.entries.map (·.record)).Pairwise (Record.Precedes o) := by
    rw [hl]
    exact pairwise_records_apply hrecords (hg.ascending_of_sublist (shown_sublist g a o found))
  have hamong : ((o.apply entries').map (·.record)).Pairwise (Record.Precedes o) :=
    pairwise_records_apply hrecords' (hg.ascending_of_sublist (List.filter_sublist.trans
      (List.filter_sublist.trans List.filter_sublist)))
  exact Record.eq_of_perm_of_precedes htime hperm hamong (hshown.sublist List.filter_sublist)

/-- Two records of one pair, of which the later one is listed first both times. -/
theorem group_listing_agrees_pair :
    ∃ (g : Register) (ctx : Context) (d : Directory) (l : PrisonerListing) (rs : List Record)
      (t t' : Session), (g.IsTable ∧ ∀ r ∈ g.records, r.firstNumber ≠ r.secondNumber) ∧
        (ctx.directory = some d ∧ d.IsSteady) ∧
        (forPrisoner ctx "A1" {}).run (Session.start g) = .ok l t ∧
        (amongGroup ctx ["A1", "B2"] {}).run (Session.start g) = .ok rs t' ∧
        amongGroup ctx ["B2", "A1", "B2"] {} = amongGroup ctx ["A1", "B2"] {} ∧
        l.entries.map (·.record.id) = [some 2, some 1, some 3] ∧
        rs.map (·.id) = [some 2, some 1] ∧
        rs = (l.entries.map (·.record)).filter (·.involves "B2") := by
  let r : Record := { Merge.plain 2 "B2" "A1" with whenCreated := ⟨1⟩ }
  let g : Register := ⟨[Merge.plain 1 "A1" "B2", r, Merge.plain 3 "A1" "C3"]⟩
  let p : Prisoner := .plain "A1" "MDI"
  let q : Prisoner := .plain "B2" "MDI"
  let d : Directory := .of [p, q, .plain "C3" "MDI"]
  let ctx : Context := ⟨Moment.earliest, some d⟩
  have hg : g.IsTable := by
    constructor <;> simp [g, r, Merge.plain, Register.ids, Column.isStorable]
  have hpairs : ∀ r ∈ g.records, r.firstNumber ≠ r.secondNumber := by decide
  have hd : d.IsSteady := Directory.isSteady_of_constant fun _ _ => rfl
  let c : Prisoner := .plain "C3" "MDI"
  let found : Found := [(.str "A1", p), (.str "B2", q), (.str "C3", c)]
  have hkeys : SortKey.moment ⟨1⟩ ≠ .moment Moment.earliest := by decide
  have hlater (other other' : Prisoner) (id : Int) (number : String) :
      Entry.Precedes {} ⟨r, other⟩ ⟨Merge.plain id "A1" number, other'⟩ := .inl ⟨rfl, hkeys⟩
  have htied : Entry.Precedes {} ⟨Merge.plain 1 "A1" "B2", q⟩ ⟨Merge.plain 3 "A1" "C3", c⟩ :=
    .inr ⟨rfl, by simp [Merge.plain]⟩
  have hown : (forPrisoner ctx "A1" {}).run (Session.start g) =
      .ok ⟨p, [⟨r, q⟩, ⟨Merge.plain 1 "A1" "B2", q⟩, ⟨Merge.plain 3 "A1" "C3", c⟩]⟩
        ((Session.start g).afterSearch ["A1", "A1", "B2", "B2", "A1", "A1", "C3"]) := by
    have hfound : d.search ["A1", "A1", "B2", "B2", "A1", "A1", "C3"] = .ok found :=
      Directory.search_eq_ok (List.cons_ne_nil _ _) rfl (by decide)
    refine run_forPrisoner_of_located rfl rfl hfound (fun _ _ => by decide) rfl rfl rfl
      (ListOptions.apply_eq ?_ (.swap _ _ _) ?_)
    · simp [Merge.plain, r]
    · simp [hlater, htied]
  have hsorted : ListOptions.apply {} [⟨Merge.plain 1 "A1" "B2", q⟩, ⟨r, p⟩] =
      [⟨r, p⟩, ⟨Merge.plain 1 "A1" "B2", q⟩] := by
    refine ListOptions.apply_eq ?_ (.swap _ _ _) ?_
    · simp [Merge.plain, r]
    · simp [hlater]
  have hgroup : (amongGroup ctx ["A1", "B2"] {}).run (Session.start g) =
      .ok [r, Merge.plain 1 "A1" "B2"] ((Session.start g).afterSearch ["A1", "B2", "B2", "A1"]) := by
    have hfound : d.search ["A1", "B2", "B2", "A1"] = .ok found :=
      Directory.search_eq_ok (List.cons_ne_nil _ _) rfl (by decide)
    exact run_amongGroup_of_located rfl rfl (by decide) rfl hfound (by decide) rfl rfl hsorted
  obtain ⟨hagree, hnames⟩ := group_listing_agrees hg hpairs (rfl : ctx.directory = some d) hd
  have hsame := hnames ctx {} ["B2", "A1", "B2"] ["A1", "B2"] (by simp)
  exact ⟨g, ctx, d, _, _, _, _, ⟨hg, hpairs⟩, ⟨rfl, hd⟩, hown, hgroup, hsame, rfl, rfl,
    (hagree _ _ _ _ _ _ _ _ _ (by decide) rfl rfl hown hgroup).2 rfl⟩

end Query

end KeepApart
