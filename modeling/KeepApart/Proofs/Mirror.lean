import KeepApart.Http.View
import KeepApart.Proofs.Listing.Outcome
import KeepApart.Proofs.RoundTrip

/-!
# A record from both its sides

Both prisoners on a record see it, or neither does. Where they see it, each sees it once, with the roles
or reasons of the two exchanged and everything else as it is for the other. The two views come from two
questions to the directory, so it has to say the same of a prisoner each time.
-/

namespace KeepApart

open KeepApart.Action

variable {α β : Type} {s t : Session} {g : Register} {r : Record} {o : ListOptions}

/-- The directory says the same of a prisoner, whoever else is asked for. -/
def Directory.IsSteady (d : Directory) : Prop :=
  ∀ numbers numbers' found found', d.search numbers = .ok found → d.search numbers' = .ok found' →
    ∀ n ∈ numbers, n ∈ numbers' → found.get? n = found'.get? n

/-- If it is shown at all, what has this id is shown once in each of two lists, by items that are
related. -/
structure ShownAlike (shown : Prop) (id : α → Option Int) (i : Option Int) (related : α → α → Prop)
    (items items' : List α) : Prop where
  once : shown → ∃ a b, items.filter (fun x => id x = i) = [a] ∧
    items'.filter (fun x => id x = i) = [b] ∧ related a b
  absent : ¬ shown → items.filter (fun x => id x = i) = [] ∧ items'.filter (fun x => id x = i) = []

theorem ShownAlike.presented {shown : Prop} {id : α → Option Int} {id' : β → Option Int}
    {i : Option Int} {related : α → α → Prop} {related' : β → β → Prop} {present present' : α → β → Prop}
    {items items' : List α} {views views' : List β}
    (h : ShownAlike shown id i related items items')
    (hviews : List.Forall₂ present items views) (hviews' : List.Forall₂ present' items' views')
    (hid : ∀ a v, present a v → id' v = id a) (hid' : ∀ a v, present' a v → id' v = id a)
    (hrelated : ∀ a b v w, related a b → present a v → present' b w → related' v w) :
    ShownAlike shown id' i related' views views' := by
  have hfilter : List.Forall₂ present (items.filter fun x => id x = i)
      (views.filter fun x => id' x = i) := by
    refine List.rel_filter ?_ hviews
    intro a v hav
    simp only [decide_eq_true_eq, hid a v hav]
  have hfilter' : List.Forall₂ present' (items'.filter fun x => id x = i)
      (views'.filter fun x => id' x = i) := by
    refine List.rel_filter ?_ hviews'
    intro a v hav
    simp only [decide_eq_true_eq, hid' a v hav]
  constructor
  · intro hshown
    obtain ⟨a, b, ha, hb, hab⟩ := h.once hshown
    rw [ha, List.forall₂_cons_left_iff] at hfilter
    rw [hb, List.forall₂_cons_left_iff] at hfilter'
    obtain ⟨v, _, hv, hnil, hviews⟩ := hfilter
    obtain ⟨w, _, hw, hnil', hviews'⟩ := hfilter'
    rw [List.forall₂_nil_left_iff] at hnil hnil'
    rw [hnil] at hviews
    rw [hnil'] at hviews'
    exact ⟨v, w, hviews, hviews', hrelated a b v w hab hv hw⟩
  · intro hhidden
    obtain ⟨ha, hb⟩ := h.absent hhidden
    rw [ha, List.forall₂_nil_left_iff] at hfilter
    rw [hb, List.forall₂_nil_left_iff] at hfilter'
    exact ⟨hfilter, hfilter'⟩

theorem forall₂_of_mapM {ε : Type} {f : α → Except ε β} {l : List α} {l' : List β}
    (h : l.mapM f = .ok l') : List.Forall₂ (fun a b => f a = .ok b) l l' := by
  induction l generalizing l' with
  | nil =>
      obtain rfl := Except.ok.inj h
      exact .nil
  | cons a l ih =>
      simp only [List.mapM_cons, except_bind_eq_ok] at h
      obtain ⟨b, hb, rest, hrest, h⟩ := h
      obtain rfl := Except.ok.inj h
      exact .cons hb (ih hrest)

/-! ## Entries -/

def ListOptions.ShowsToBoth (o : ListOptions) (r : Record) (first second : Prisoner) : Prop :=
  o.keeps r = true ∧ (o.otherPrisons = true ∨ first.prisonId.equals second.prisonId = true)

/-- These are entries of the record, the first one for its first prisoner, the other for its second. -/
structure Entry.Mirrors (r : Record) (a b : Entry) : Prop where
  records : a.record = r ∧ b.record = r
  numbers : a.prisoner.number = .str r.secondNumber ∧ b.prisoner.number = .str r.firstNumber

namespace Record

theorem other?_first (r : Record) : r.other? r.firstNumber = some r.secondNumber := if_pos rfl

theorem other?_second (h : r.firstNumber ≠ r.secondNumber) :
    r.other? r.secondNumber = some r.firstNumber := by
  rw [other?, if_neg (Ne.symm h), if_pos rfl]

end Record

namespace Query

variable {found : Found} {number other : String} {p q : Prisoner}

/-- From either side a record shares the prison when the prisons of both prisoners are equal. -/
theorem sharesPrison_iff (hsides : r.pair = (number, other) ∨ r.pair = (other, number))
    (hp : found.get? number = some p) (hq : found.get? other = some q) :
    sharesPrison found number o r = true ↔
      o.otherPrisons = true ∨ p.prisonId.equals q.prisonId = true := by
  have hprison : prison found number = p.prisonId := prison_of_get? hp
  have hprison' : prison found other = q.prisonId := prison_of_get? hq
  -- The own side is compared with itself, which a number that is none would not pass.
  have hself : p.prisonId.equals q.prisonId = true → p.prisonId.equals p.prisonId = true :=
    Json.equals_self
  rw [sharesPrison, Bool.or_eq_true, Bool.and_eq_true]
  refine or_congr_right ?_
  rcases hsides with hpair | hpair
  · obtain ⟨hfirst, hsecond⟩ := Prod.mk.inj hpair
    rw [hfirst, hsecond, hprison, hprison', Json.equals_comm q.prisonId]
    exact ⟨And.right, fun h => ⟨hself h, h⟩⟩
  · obtain ⟨hfirst, hsecond⟩ := Prod.mk.inj hpair
    rw [hfirst, hsecond, hprison, hprison', Json.equals_comm q.prisonId]
    exact ⟨And.left, fun h => ⟨h, hself h⟩⟩

variable {d : Directory} {found' : Found} {l m : PrisonerListing}

theorem mem_asked (hr : r ∈ kept g number o) (hother : r.involves other = true) :
    other ∈ number :: sides (kept g number o) :=
  List.mem_cons_of_mem _ (mem_sides.2 ⟨r, hr, hother⟩)

theorem entries_shownAlike (hg : g.IsTable) (hr : r ∈ g.records)
    (hdiffer : r.firstNumber ≠ r.secondNumber) (hd : d.IsSteady)
    (hfound : d.search (r.firstNumber :: sides (kept g r.firstNumber o)) = .ok found)
    (hfound' : d.search (r.secondNumber :: sides (kept g r.secondNumber o)) = .ok found')
    (hl : Shows g r.firstNumber o found l) (hm : Shows g r.secondNumber o found' m) :
    ShownAlike (o.ShowsToBoth r l.prisoner m.prisoner) (·.record.id) r.id (Entry.Mirrors r)
      l.entries m.entries := by
  have hfirst : r.involves r.firstNumber = true := Record.involves_iff.2 (.inl rfl)
  have hsecond : r.involves r.secondNumber = true := Record.involves_iff.2 (.inr rfl)
  by_cases hkeeps : o.keeps r = true
  · have hkept : r ∈ kept g r.firstNumber o := mem_kept.2 ⟨hr, hfirst, hkeeps⟩
    have hkept' : r ∈ kept g r.secondNumber o := mem_kept.2 ⟨hr, hsecond, hkeeps⟩
    -- Each of the two is asked for in both searches, so both give the same details.
    have hq : found.get? r.secondNumber = some m.prisoner := by
      rw [hd _ _ _ _ hfound hfound' _ (mem_asked hkept hsecond) List.mem_cons_self]
      exact hm.prisoner
    have hp : found'.get? r.firstNumber = some l.prisoner := by
      rw [← hd _ _ _ _ hfound hfound' _ List.mem_cons_self (mem_asked hkept' hfirst)]
      exact hl.prisoner
    have hshared := sharesPrison_iff (o := o) (.inl rfl) hl.prisoner hq
    have hshared' := sharesPrison_iff (o := o) (.inr rfl) hm.prisoner hp
    rw [Json.equals_comm] at hshared'
    constructor
    · rintro ⟨-, hprisons⟩
      obtain ⟨q, hq', hentry⟩ :=
        hl.filter_eq_singleton hg hkept (hshared.2 hprisons) r.other?_first
      obtain ⟨p, hp', hentry'⟩ :=
        hm.filter_eq_singleton hg hkept' (hshared'.2 hprisons) (Record.other?_second hdiffer)
      have hnumber := Found.number_of_get? (Directory.isKeyed_of_search hfound) hq'
      have hnumber' := Found.number_of_get? (Directory.isKeyed_of_search hfound') hp'
      exact ⟨_, _, hentry, hentry', ⟨rfl, rfl⟩, hnumber, hnumber'⟩
    · intro hhidden
      have hprisons : ¬ (o.otherPrisons = true ∨
          l.prisoner.prisonId.equals m.prisoner.prisonId = true) := fun h => hhidden ⟨hkeeps, h⟩
      exact ⟨hl.filter_eq_nil hg hr fun h => hprisons (hshared.1 h.2),
        hm.filter_eq_nil hg hr fun h => hprisons (hshared'.1 h.2)⟩
  · have hhidden (number : String) : r ∉ kept g number o := fun h => hkeeps (mem_kept.1 h).2.2
    constructor
    · rintro ⟨h, -⟩
      exact absurd h hkeeps
    · intro _
      exact ⟨hl.filter_eq_nil hg hr fun h => hhidden _ h.1,
        hm.filter_eq_nil hg hr fun h => hhidden _ h.1⟩

end Query

/-! ## Legacy items -/

structure LegacyItem.SeenFrom (r : Record) (i j : LegacyItem) : Prop where
  mirrors : i.Mirrors j
  reasons : (i.reason, i.counterpart.reason) = r.reason.legacyPair r.firstRole r.secondRole
  numbers : i.counterpart.number = .str r.secondNumber ∧ j.counterpart.number = .str r.firstNumber

theorem Legacy.item_seenFrom (hdiffer : r.firstNumber ≠ r.secondNumber) {a b : Entry}
    (h : a.Mirrors r b) :
    (Legacy.item r.firstNumber a).SeenFrom r (Legacy.item r.secondNumber b) := by
  obtain ⟨_, p⟩ := a
  obtain ⟨_, q⟩ := b
  obtain ⟨rfl, rfl⟩ := h.records
  exact ⟨item_mirrors hdiffer p q, reasons_first _, h.numbers⟩

/-- The legacy view keeps all open records, and all closed ones unless they are excluded. -/
theorem Legacy.showsToBoth_iff {currentPrisonOnly excludeInactive : Bool} {p q : Prisoner} :
    ListOptions.ShowsToBoth
        { wantOpen := true, wantClosed := !excludeInactive, otherPrisons := !currentPrisonOnly }
        r p q ↔
      (r.isOpen = true ∨ excludeInactive = false) ∧
        (currentPrisonOnly = false ∨ p.prisonId.equals q.prisonId = true) := by
  have hkeeps : ListOptions.keeps
      { wantOpen := true, wantClosed := !excludeInactive, otherPrisons := !currentPrisonOnly }
        r = true ↔ r.isOpen = true ∨ excludeInactive = false := by
    cases excludeInactive with
    | true => exact ⟨.inl, fun h => h.resolve_right nofun⟩
    | false => exact ⟨fun _ => .inr rfl, fun _ => rfl⟩
  rw [ListOptions.ShowsToBoth, hkeeps, Bool.not_eq_true']

/-! ## Listed items -/

namespace Http.View

/-- The fields in which the views of the two prisoners differ. -/
def sided : List String := ["role", "roleDescription", "otherPrisonerDetails"]

structure SeenFrom (r : Record) (v w : Json) : Prop where
  firstRole : v.get "role" = .str (code r.firstRole) ∧
    (w.get "otherPrisonerDetails").get "role" = .str (code r.firstRole)
  firstDescription : v.get "roleDescription" = .str (describe r.firstRole) ∧
    (w.get "otherPrisonerDetails").get "roleDescription" = .str (describe r.firstRole)
  secondRole : w.get "role" = .str (code r.secondRole) ∧
    (v.get "otherPrisonerDetails").get "role" = .str (code r.secondRole)
  secondDescription : w.get "roleDescription" = .str (describe r.secondRole) ∧
    (v.get "otherPrisonerDetails").get "roleDescription" = .str (describe r.secondRole)
  numbers : (v.get "otherPrisonerDetails").get "prisonerNumber" = .str r.secondNumber ∧
    (w.get "otherPrisonerDetails").get "prisonerNumber" = .str r.firstNumber
  rest : ∀ name ∉ sided, v.get? name = w.get? name

def id? (v : Json) : Option Int :=
  match v.get "id" with
  | .int n => some n
  | _ => none

def itemOf (r : Record) (own : Role) (details : List (String × Json)) : Json :=
  .obj ([("id", .ofInt? r.id)] ++ described "role" own ++ described "reason" r.reason
    ++ described "restrictionType" r.restriction ++ history r
    ++ [("otherPrisonerDetails", .obj details)])

variable {number : String} {e : Entry} {v w : Json}

theorem eq_of_entry (h : entry number e = .ok v) :
    ∃ names, person e.prisoner = .ok names ∧ v = itemOf e.record (roles number e.record).1
      ([("prisonerNumber", e.prisoner.number)] ++ described "role" (roles number e.record).2
        ++ names) := by
  unfold entry at h
  simp only [except_bind_eq_ok] at h
  obtain ⟨names, hnames, h⟩ := h
  exact ⟨names, hnames, (Except.ok.inj h).symm⟩

theorem id?_of_entry (h : entry number e = .ok v) : id? v = e.record.id := by
  obtain ⟨names, -, rfl⟩ := eq_of_entry h
  have hget : (itemOf e.record (roles number e.record).1
      ([("prisonerNumber", e.prisoner.number)] ++ described "role" (roles number e.record).2
        ++ names)).get "id" = .ofInt? e.record.id := rfl
  rw [id?, hget]
  cases e.record.id <;> rfl

/-- Apart from the role and the details, the item of a record is the same whatever these are. -/
theorem get?_itemOf {own other : Role} {details details' : List (String × Json)} {name : String}
    (h : name ∉ sided) : (itemOf r own details).get? name = (itemOf r other details').get? name := by
  simp only [sided, List.mem_cons, List.not_mem_nil, or_false, not_or] at h
  obtain ⟨hrole, hdescription, hdetails⟩ := h
  have hown (role : Role) : Json.lookup? (described "role" role) name = none := by
    have happend : "role" ++ "Description" = "roleDescription" := rfl
    rw [described, happend, Json.lookup?_cons, if_neg (Ne.symm hrole), Json.lookup?_cons,
      if_neg (Ne.symm hdescription)]
    rfl
  have hother (details : List (String × Json)) :
      Json.lookup? [("otherPrisonerDetails", .obj details)] name = none := by
    rw [Json.lookup?_cons, if_neg (Ne.symm hdetails)]
    rfl
  simp only [itemOf, Json.get?, Json.lookup?_append, hown, hother]

theorem entry_seenFrom (hdiffer : r.firstNumber ≠ r.secondNumber) {a b : Entry}
    (h : a.Mirrors r b) (hv : entry r.firstNumber a = .ok v) (hw : entry r.secondNumber b = .ok w) :
    SeenFrom r v w := by
  have hroles : roles r.firstNumber r = (r.firstRole, r.secondRole) := if_pos rfl
  have hroles' : roles r.secondNumber r = (r.secondRole, r.firstRole) := if_neg hdiffer
  obtain ⟨names, -, rfl⟩ := eq_of_entry hv
  obtain ⟨names', -, rfl⟩ := eq_of_entry hw
  obtain ⟨⟨hrecord, hrecord'⟩, hnumber, hnumber'⟩ := h
  rw [hrecord, hrecord', hroles, hroles']
  exact ⟨⟨rfl, rfl⟩, ⟨rfl, rfl⟩, ⟨rfl, rfl⟩, ⟨rfl, rfl⟩, ⟨hnumber, hnumber'⟩,
    fun name hname => get?_itemOf hname⟩

def CountsItems (v : Json) (items : List Json) : Prop :=
  ∃ opened closed : Nat, v.get "openCount" = .int opened ∧ v.get "closedCount" = .int closed ∧
    opened + closed = items.length

theorem items_of_listing {l : PrisonerListing} (h : listing number l = .ok v) :
    ∃ items, v.get "nonAssociations" = .arr items ∧ CountsItems v items ∧
      List.Forall₂ (fun e w => entry number e = .ok w) l.entries items := by
  simp only [listing, person, except_bind_eq_ok] at h
  obtain ⟨items, hitems, names, ⟨_, -, _, -, _, -, _, -, _, -, hnames⟩, h⟩ := h
  obtain rfl := Except.ok.inj hnames
  obtain rfl := Except.ok.inj h
  have hentries := forall₂_of_mapM hitems
  refine ⟨items, rfl, ⟨_, _, rfl, rfl, ?_⟩, hentries⟩
  have hclosed : l.entries.filter (·.record.isClosed) =
      l.entries.filter fun e => !e.record.isOpen := by
    simp only [Record.isOpen, Bool.not_not]
  rw [← hentries.length_eq, hclosed]
  exact (List.length_eq_length_filter_add fun e : Entry => e.record.isOpen).symm

end Http.View

/-! ## Both views -/

theorem listings_mirrored {ctx : Context} {d : Directory} {s s' t t' : Session}
    {l m : PrisonerListing} (hg : g.IsTable) (hr : r ∈ g.records)
    (hdiffer : r.firstNumber ≠ r.secondNumber) (hctx : ctx.directory = some d) (hd : d.IsSteady)
    (hs : s.working = g) (hs' : s'.working = g)
    (hl : (Query.forPrisoner ctx r.firstNumber o).run s = .ok l t)
    (hm : (Query.forPrisoner ctx r.secondNumber o).run s' = .ok m t') :
    ShownAlike (o.ShowsToBoth r l.prisoner m.prisoner) (·.record.id) r.id (Entry.Mirrors r)
      l.entries m.entries := by
  obtain ⟨d', found, hctx', hfound, hshows⟩ := Query.shows_of_forPrisoner hl
  obtain ⟨d'', found', hctx'', hfound', hshows'⟩ := Query.shows_of_forPrisoner hm
  obtain rfl := Option.some.inj (hctx.symm.trans hctx')
  obtain rfl := Option.some.inj (hctx.symm.trans hctx'')
  rw [hs] at hfound hshows
  rw [hs'] at hfound' hshows'
  exact Query.entries_shownAlike hg hr hdiffer hd hfound hfound' hshows hshows'

theorem views_mirrored {l m : PrisonerListing} {v w : Json} {shown : Prop}
    (hdiffer : r.firstNumber ≠ r.secondNumber)
    (h : ShownAlike shown (·.record.id) r.id (Entry.Mirrors r) l.entries m.entries)
    (hv : Http.View.listing r.firstNumber l = .ok v)
    (hw : Http.View.listing r.secondNumber m = .ok w) :
    ∃ items items', v.get "nonAssociations" = .arr items ∧ w.get "nonAssociations" = .arr items' ∧
      Http.View.CountsItems v items ∧ Http.View.CountsItems w items' ∧
      ShownAlike shown Http.View.id? r.id (Http.View.SeenFrom r) items items' := by
  obtain ⟨items, hitems, hcounts, hentries⟩ := Http.View.items_of_listing hv
  obtain ⟨items', hitems', hcounts', hentries'⟩ := Http.View.items_of_listing hw
  refine ⟨items, items', hitems, hitems', hcounts, hcounts', ?_⟩
  exact h.presented hentries hentries' (fun _ _ => Http.View.id?_of_entry)
    (fun _ _ => Http.View.id?_of_entry) fun _ _ _ _ hab ha hb =>
      Http.View.entry_seenFrom hdiffer hab ha hb

/-- Whatever a listing or a legacy view leaves out, both prisoners on a stored record see it or neither
does, each of them once and from their own side. Both see it when it is kept and, unless other prisons
are wanted, their prisons are equal. -/
theorem both_prisoners_see_it_mirrored {ctx : Context} {d : Directory} (hg : g.IsTable)
    (hr : r ∈ g.records) (hdiffer : r.firstNumber ≠ r.secondNumber)
    (hctx : ctx.directory = some d) (hd : d.IsSteady) :
    (∀ (o : ListOptions) (s s' t t' : Session) (l m : PrisonerListing),
      s.working = g → s'.working = g →
      (Query.forPrisoner ctx r.firstNumber o).run s = .ok l t →
      (Query.forPrisoner ctx r.secondNumber o).run s' = .ok m t' →
        ShownAlike (o.ShowsToBoth r l.prisoner m.prisoner) (·.record.id) r.id (Entry.Mirrors r)
          l.entries m.entries ∧
        ∀ v w, Http.View.listing r.firstNumber l = .ok v →
          Http.View.listing r.secondNumber m = .ok w →
          ∃ items items', v.get "nonAssociations" = .arr items ∧
            w.get "nonAssociations" = .arr items' ∧
            Http.View.CountsItems v items ∧ Http.View.CountsItems w items' ∧
            ShownAlike (o.ShowsToBoth r l.prisoner m.prisoner) Http.View.id? r.id
              (Http.View.SeenFrom r) items items') ∧
    ∀ (currentPrisonOnly excludeInactive : Bool) (s s' t t' : Session) (v w : LegacyView),
      s.working = g → s'.working = g →
      (Legacy.view ctx r.firstNumber currentPrisonOnly excludeInactive).run s = .ok v t →
      (Legacy.view ctx r.secondNumber currentPrisonOnly excludeInactive).run s' = .ok w t' →
        ShownAlike ((r.isOpen = true ∨ excludeInactive = false) ∧
            (currentPrisonOnly = false ∨ v.prisoner.prisonId.equals w.prisoner.prisonId = true))
          (·.id) r.id (LegacyItem.SeenFrom r) v.items w.items := by
  constructor
  · intro o s s' t t' l m hs hs' hl hm
    have halike := listings_mirrored hg hr hdiffer hctx hd hs hs' hl hm
    exact ⟨halike, fun v w hv hw => views_mirrored hdiffer halike hv hw⟩
  · intro currentPrisonOnly excludeInactive s s' t t' v w hs hs' hv hw
    simp only [Legacy.view, bind_eq_ok, pure_eq_ok] at hv hw
    obtain ⟨l, _, hl, rfl, rfl⟩ := hv
    obtain ⟨m, _, hm, rfl, rfl⟩ := hw
    have halike := listings_mirrored hg hr hdiffer hctx hd hs hs' hl hm
    rw [Legacy.showsToBoth_iff] at halike
    have hitems (number : String) (entries : List Entry) :
        List.Forall₂ (fun e i => i = Legacy.item number e) entries
          (entries.map (Legacy.item number)) :=
      List.forall₂_map_right_iff.2 (List.forall₂_same.2 fun _ _ => rfl)
    refine halike.presented (hitems _ _) (hitems _ _) ?_ ?_ ?_
    · rintro e _ rfl
      rfl
    · rintro e _ rfl
      rfl
    · rintro a b _ _ hab rfl rfl
      exact Legacy.item_seenFrom hdiffer hab

/-! ## A directory that always answers the same -/

theorem Directory.isSteady_of_constant {d : Directory}
    (h : ∀ asked asked', d.reply asked = d.reply asked') : d.IsSteady := by
  have hreply {numbers : List String} {found : Found} {n : String}
      (hfound : d.search numbers = .ok found) (hn : n ∈ numbers) :
      (d.reply []).found (searchUrl d.url) = .ok found := by
    have hasked : (askedNumbers numbers).isEmpty = false :=
      List.isEmpty_eq_false_iff.2 (List.ne_nil_of_mem (mem_askedNumbers.2 hn))
    unfold search at hfound
    dsimp only at hfound
    rw [hasked, if_neg Bool.false_ne_true, except_bind_eq_ok] at hfound
    obtain ⟨found', hfound', hknown⟩ := hfound
    split at hknown
    · obtain rfl := Except.ok.inj hknown
      rw [h [] (askedNumbers numbers)]
      exact hfound'
    · cases hknown
  intro numbers numbers' found found' hfound hfound' n hn hn'
  have heq := (hreply hfound hn).symm.trans (hreply hfound' hn')
  rw [Except.ok.inj heq]

/-- Two prisoners in one prison are listed with their roles exchanged. -/
theorem both_prisoners_see_it_mirrored_cellmates :
    ∃ (g : Register) (r : Record) (ctx : Context) (d : Directory) (l m : PrisonerListing)
      (t t' : Session) (v w : Json) (items items' : List Json) (i j : Json),
      (g.IsTable ∧ r ∈ g.records ∧ r.firstNumber ≠ r.secondNumber) ∧
        (ctx.directory = some d ∧ d.IsSteady) ∧
        (Query.forPrisoner ctx r.firstNumber {}).run (Session.start g) = .ok l t ∧
        (Query.forPrisoner ctx r.secondNumber {}).run (Session.start g) = .ok m t' ∧
        Http.View.listing r.firstNumber l = .ok v ∧ Http.View.listing r.secondNumber m = .ok w ∧
        v.get "nonAssociations" = .arr items ∧ w.get "nonAssociations" = .arr items' ∧
        items.filter (fun x => Http.View.id? x = r.id) = [i] ∧
        items'.filter (fun x => Http.View.id? x = r.id) = [j] ∧
        i.get "role" = .str "VICTIM" ∧ j.get "role" = .str "PERPETRATOR" := by
  let r : Record :=
    { Merge.plain 1 "A1" "B2" with firstRole := .victim, secondRole := .perpetrator }
  let p : Prisoner := .plain "A1" "MDI"
  let q : Prisoner := .plain "B2" "MDI"
  let d : Directory := .of [p, q, .plain "C3" "LEI"]
  let ctx : Context := ⟨Moment.earliest, some d⟩
  let g : Register := ⟨[r]⟩
  have hg : g.IsTable := by
    constructor <;> simp [g, r, Merge.plain, Register.ids, Column.isStorable]
  have hr : r ∈ g.records := .head _
  have hdiffer : r.firstNumber ≠ r.secondNumber := by decide
  have hd : d.IsSteady := Directory.isSteady_of_constant fun _ _ => rfl
  let found : Found := [(.str "A1", p), (.str "B2", q), (.str "C3", .plain "C3" "LEI")]
  have hsorted (other : Prisoner) : ListOptions.apply {} [⟨r, other⟩] = [⟨r, other⟩] :=
    ListOptions.apply_eq (List.pairwise_singleton _ _) (.refl _) (List.pairwise_singleton _ _)
  have hl : (Query.forPrisoner ctx "A1" {}).run (Session.start g) =
      .ok ⟨p, [⟨r, q⟩]⟩ ((Session.start g).afterSearch ["A1", "A1", "B2"]) := by
    have hfound : d.search ["A1", "A1", "B2"] = .ok found :=
      Directory.search_eq_ok (List.cons_ne_nil _ _) rfl (by decide)
    exact Query.run_forPrisoner_of_located rfl rfl hfound (fun _ _ => by decide) rfl rfl rfl (hsorted q)
  have hm : (Query.forPrisoner ctx "B2" {}).run (Session.start g) =
      .ok ⟨q, [⟨r, p⟩]⟩ ((Session.start g).afterSearch ["B2", "A1", "B2"]) := by
    have hfound : d.search ["B2", "A1", "B2"] = .ok found :=
      Directory.search_eq_ok (List.cons_ne_nil _ _) rfl (by decide)
    exact Query.run_forPrisoner_of_located rfl rfl hfound (fun _ _ => by decide) rfl rfl rfl (hsorted p)
  have hv : Http.View.listing "A1" ⟨p, [⟨r, q⟩]⟩ = .ok _ := rfl
  have hw : Http.View.listing "B2" ⟨q, [⟨r, p⟩]⟩ = .ok _ := rfl
  have hshown : ListOptions.ShowsToBoth {} r p q := ⟨rfl, .inr rfl⟩
  obtain ⟨-, hviews⟩ :=
    (both_prisoners_see_it_mirrored hg hr hdiffer rfl hd).1 {} _ _ _ _ _ _ rfl rfl hl hm
  obtain ⟨items, items', hitems, hitems', -, -, halike⟩ := hviews _ _ hv hw
  obtain ⟨i, j, hi, hj, hseen⟩ := halike.once hshown
  exact ⟨g, r, ctx, d, _, _, _, _, _, _, items, items', i, j, ⟨hg, hr, hdiffer⟩, ⟨rfl, hd⟩, hl, hm,
    hv, hw, hitems, hitems', hi, hj, hseen.firstRole.1, hseen.secondRole.1⟩

end KeepApart
