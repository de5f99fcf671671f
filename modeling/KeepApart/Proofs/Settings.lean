import KeepApart.Proofs.Draft
import KeepApart.Proofs.Yaml
import KeepApart.Settings

/-!
# Settings that were loaded

Settings that were loaded have passed every check. Each has the value that the file gives for it, or
else its default, and nothing else in the file counts. Their overview is a file again, and the settings
that are loaded from it agree with them wherever they are shown.
-/

namespace KeepApart

namespace Settings

open Yaml (Value)

variable {v w : Value} {s t : Settings}

/-! ## Checks -/

theorem isPositive_of_compareZero (hv : v.HasNoNaN) (h : compareZero v (· ≤ 0) = .ok false) :
    v.IsPositive := by
  cases hv with
  | bool b =>
      cases b with
      | true => rfl
      | false => exact absurd (Except.ok.inj h) (by decide)
  | int n =>
      have hsign := Except.ok.inj h
      by_contra hn
      by_cases hneg : n < 0
      · rw [if_pos hneg] at hsign
        exact absurd hsign (by decide)
      · obtain rfl : n = 0 := by
          change ¬ 0 < n at hn
          omega
        exact absurd hsign (by decide)
  | float hx => exact (Value.compare_zero hx).1.resolve_left (of_decide_eq_false (Except.ok.inj h))
  | null | str | surrogates | octets | date | moment | list | pair | set | mapping | again => cases h

theorem isNonnegative_of_compareZero (hv : v.HasNoNaN) (h : compareZero v (· < 0) = .ok false) :
    v.IsNonnegative := by
  cases hv with
  | bool b => trivial
  | int n =>
      have hsign := Except.ok.inj h
      by_contra hn
      have hneg : n < 0 := Int.not_le.1 hn
      rw [if_pos hneg] at hsign
      exact absurd hsign (by decide)
  | float hx => exact (Value.compare_zero hx).2.resolve_left (of_decide_eq_false (Except.ok.inj h))
  | null | str | surrogates | octets | date | moment | list | pair | set | mapping | again => cases h

/-- Past a check that refuses, the guard did not hold. -/
theorem guard_refuse_eq_ok {c : Prop} [Decidable c] {reason : String} {α : Type}
    {f : α → Except Fault Unit} {x : Except Fault Unit} :
    (if c then refuse reason >>= f else x) = .ok () ↔ ¬ c ∧ x = .ok () := by
  by_cases hc : c
  · simp [hc, refuse, bind, Except.bind]
  · simp [hc]

theorem refuse_eq_ok {c : Prop} [Decidable c] {reason : String} :
    (if c then refuse reason else pure ()) = (.ok () : Except Fault Unit) ↔ ¬ c := by
  by_cases hc : c
  · simp [hc, refuse]
  · simp [hc, pure, Except.pure]

theorem checkLevel_eq_ok (h : checkLevel v = .ok ()) : ∃ l ∈ levels, v = .str l := by
  unfold checkLevel at h
  split at h
  · rename_i hlevel
    cases v with
    | str l => exact ⟨l, List.contains_iff_mem.1 hlevel, rfl⟩
    | null | bool | int | float | surrogates | octets | date | moment | list | pair | set | mapping
    | again => cases hlevel
  · cases h

theorem checkUser_eq_ok (h : checkUser v = .ok ()) :
    Text.isBlankText v.display = false ∧ ∃ n, length v = .ok n ∧ n ≤ userLimit := by
  unfold checkUser at h
  dsimp only at h
  rw [guard_refuse_eq_ok, except_bind_eq_ok] at h
  obtain ⟨hblank, n, hlength, h⟩ := h
  exact ⟨Bool.eq_false_iff.2 hblank, n, hlength, Nat.not_lt.1 (refuse_eq_ok.1 h)⟩

theorem checkTimeout_eq_ok (hv : v.HasNoNaN) (h : checkTimeout v = .ok ()) : v.IsPositive := by
  obtain ⟨b, hcompare, h⟩ := except_bind_eq_ok.1 h
  obtain rfl : b = false := Bool.eq_false_iff.2 (refuse_eq_ok.1 h)
  exact isPositive_of_compareZero hv hcompare

theorem checkThresholds_eq_ok (hv : v.HasNoNaN) (hw : w.HasNoNaN)
    (h : checkThresholds v w = .ok ()) : v.IsNonnegative ∧ w.IsNonnegative := by
  obtain ⟨b, hcompare, h⟩ := except_bind_eq_ok.1 h
  dsimp only at h
  cases b with
  | true => cases h
  | false =>
      obtain ⟨c, hcompare', h⟩ := except_bind_eq_ok.1 h
      obtain rfl : c = false := Bool.eq_false_iff.2 (refuse_eq_ok.1 h)
      exact ⟨isNonnegative_of_compareZero hv hcompare, isNonnegative_of_compareZero hw hcompare'⟩

theorem checkPort_eq_ok (h : checkPort v = .ok ()) : v.IsPortNumber := by
  unfold checkPort at h
  split at h
  · rename_i hport
    cases v with
    | bool b => exact hport
    | int n =>
        simp only [isPort, Bool.and_eq_true, decide_eq_true_eq] at hport
        exact ⟨by omega, by omega⟩
    | null | float | str | surrogates | octets | date | moment | list | pair | set | mapping
    | again => cases hport
  · cases h

theorem check_eq_ok : s.check = .ok t ↔ s = t ∧ checkLevel (s.held .logLevel) = .ok () ∧
    checkUser (s.held .systemUser) = .ok () ∧ checkTimeout (s.held .searchTimeout) = .ok () ∧
    checkThresholds (s.held .slowThreshold) (s.held .warningThreshold) = .ok () ∧
    checkPort (s.held .port) = .ok () := by
  simp only [check, except_bind_eq_ok]
  constructor
  · rintro ⟨_, hlevel, _, huser, _, htimeout, _, hthresholds, _, hport, h⟩
    exact ⟨Except.ok.inj h, hlevel, huser, htimeout, hthresholds, hport⟩
  · rintro ⟨rfl, hlevel, huser, htimeout, hthresholds, hport⟩
    exact ⟨_, hlevel, _, huser, _, htimeout, _, hthresholds, _, hport, rfl⟩

structure IsValid (s : Settings) : Prop where
  level : ∃ l ∈ levels, s.held .logLevel = .str l
  port : (s.held .port).IsPortNumber
  userSpoken : Text.isBlankText (s.held .systemUser).display = false
  userShort : ∃ n, length (s.held .systemUser) = .ok n ∧ n ≤ 60
  timeout : (s.held .searchTimeout).IsPositive
  slow : (s.held .slowThreshold).IsNonnegative
  warning : (s.held .warningThreshold).IsNonnegative

theorem isValid_of_check (hs : ∀ k, (s.held k).HasNoNaN) (h : s.check = .ok t) : s.IsValid := by
  obtain ⟨-, hlevel, huser, htimeout, hthresholds, hport⟩ := check_eq_ok.1 h
  obtain ⟨hspoken, hshort⟩ := checkUser_eq_ok huser
  obtain ⟨hslow, hwarning⟩ := checkThresholds_eq_ok (hs _) (hs _) hthresholds
  exact ⟨checkLevel_eq_ok hlevel, checkPort_eq_ok hport, hspoken, hshort,
    checkTimeout_eq_ok (hs _) htimeout, hslow, hwarning⟩

/-! ## Loading -/

/-- Every setting has the value that the file gives, the log level in upper case, or else its
default. -/
structure IsGivenBy (s : Settings) (file : Value) : Prop where
  given : ∀ k v, given? file k = some v → s.held k = if k = .logLevel then upper v else v
  default : ∀ k, given? file k = none → s.held k = k.default

theorem upper_of_mem_levels (l : String) (hl : l ∈ levels) : upper (.str l) = .str l := by
  have hlevels : ∀ l ∈ levels, Text.upper l = l := by decide +kernel
  exact congrArg Value.str (hlevels l hl)

theorem isGivenBy_loaded (file : Value) : (⟨loaded file⟩ : Settings).IsGivenBy file := by
  constructor
  · intro k v hk
    simp only [loaded, hk, Option.getD_some]
  · intro k hk
    simp only [loaded, hk, Option.getD_none]
    split
    · rename_i hlevel
      rw [hlevel]
      exact upper_of_mem_levels "INFO" (by decide)
    · rfl

theorem given?_of_isNothing (h : v.isNothing = true) (k : Setting) : given? v k = none := by
  cases v with
  | mapping mark fields =>
      have hfields : fields = [] := by
        cases fields with
        | nil => rfl
        | cons f rest => cases h
      rw [hfields]
      rfl
  | null | bool | int | float | str | surrogates | octets | date | moment | list | pair | set | again =>
      rfl

/-- A file without content counts as an empty mapping. -/
theorem eq_of_ofContent (h : ofContent v = .ok s) :
    s = ⟨loaded (if v.isNothing then nothing else v)⟩ := by
  unfold ofContent at h
  generalize (if v.isNothing then nothing else v) = file at h ⊢
  dsimp only at h
  split at h
  · cases h
  · split at h
    · cases h
    · exact (Except.ok.inj h).symm

theorem isGivenBy_of_ofContent (h : ofContent v = .ok s) : s.IsGivenBy v := by
  rw [eq_of_ofContent h]
  split
  · rename_i hnothing
    refine ⟨?_, fun k _ => (isGivenBy_loaded nothing).default k rfl⟩
    intro k w hk
    rw [given?_of_isNothing hnothing] at hk
    cases hk
  · exact isGivenBy_loaded v

theorem hasNoNaN_default (k : Setting) : k.default.HasNoNaN := by
  cases k <;> constructor
  all_goals rfl

theorem hasNoNaN_upper (v : Value) : (upper v).HasNoNaN := by
  cases v <;> constructor

theorem IsGivenBy.hasNoNaN (hs : s.IsGivenBy v) (hv : v.HasNoNaN) (k : Setting) :
    (s.held k).HasNoNaN := by
  cases hk : given? v k with
  | none =>
      rw [hs.default k hk]
      exact hasNoNaN_default k
  | some w =>
      obtain ⟨home, hhome, hw⟩ := Option.bind_eq_some_iff.1 hk
      rw [hs.given k w hk]
      split
      · exact hasNoNaN_upper w
      · exact (hv.of_get? hhome).of_get? hw

/-! ## Loading again -/

theorem given?_overview (s : Settings) {k : Setting} (hk : k.isShown = true) :
    given? s.overview k = some (s.held k) := by
  cases k <;> first | rfl | cases hk

theorem ofContent_overview (s : Settings) : ofContent s.overview = .ok ⟨loaded s.overview⟩ := rfl

theorem loaded_overview (hs : ∃ l ∈ levels, s.held .logLevel = .str l) {k : Setting}
    (hk : k.isShown = true) : loaded s.overview k = s.held k := by
  have hloaded := (isGivenBy_loaded s.overview).given k _ (given?_overview s hk)
  refine hloaded.trans ?_
  split
  · rename_i hlevel
    obtain ⟨l, hl, hvalue⟩ := hs
    rw [hlevel, hvalue, upper_of_mem_levels l hl]
  · rfl

theorem overview_congr (h : ∀ k, k.isShown = true → s.held k = t.held k) :
    s.overview = t.overview := by
  unfold overview
  congr 1
  apply List.map_congr_left
  intro c _
  congr 2
  apply List.map_congr_left
  intro k hk
  have hshown := (List.mem_filter.1 hk).2
  rw [h k (Bool.and_eq_true_iff.1 hshown).2]

/-- The overview of settings that pass the checks is a file from which the same settings are loaded, as
far as they are shown. -/
theorem load_overview (h : s.check = .ok s) :
    ∃ t, load (.content s.overview) = .ok t ∧ ∀ k, k.isShown = true → t.held k = s.held k := by
  obtain ⟨-, hlevel, huser, htimeout, hthresholds, hport⟩ := check_eq_ok.1 h
  have hsame {k : Setting} (hk : k.isShown = true) : loaded s.overview k = s.held k :=
    loaded_overview (checkLevel_eq_ok hlevel) hk
  refine ⟨⟨loaded s.overview⟩, ?_, fun k hk => hsame hk⟩
  rw [load, ofContent_overview, except_bind_eq_ok]
  refine ⟨_, rfl, check_eq_ok.2 ⟨rfl, ?_⟩⟩
  simp only [hsame (k := .logLevel) rfl, hsame (k := .systemUser) rfl,
    hsame (k := .searchTimeout) rfl, hsame (k := .slowThreshold) rfl,
    hsame (k := .warningThreshold) rfl, hsame (k := .port) rfl]
  exact ⟨hlevel, huser, htimeout, hthresholds, hport⟩

end Settings

open Yaml (Value)

inductive SettingsSource.Holds : SettingsSource → Value → Prop
  | content (v : Value) : Holds (.content v) v
  | file {text : String} {v : Value} (read : Yaml.parse text = .ok v) : Holds (.file text) v

namespace Settings

variable {source : SettingsSource} {v : Value} {s : Settings}

theorem load_eq (hsource : source.Holds v) : load source = ofContent v >>= check := by
  cases hsource with
  | content v => rfl
  | file read => rw [load, read]

/-- Settings that are loaded from content without NaN are valid, and each is given by the content or has
its default. From their overview settings with the same overview are loaded, which agree with them on
everything that is shown. -/
theorem loaded_valid_given_and_reloaded (hsource : source.Holds v) (hv : v.HasNoNaN)
    (h : load source = .ok s) :
    s.IsValid ∧ s.IsGivenBy v ∧
      ∃ t, load (.content s.overview) = .ok t ∧ t.overview = s.overview ∧
        ∀ k, k.isShown = true → t.held k = s.held k := by
  rw [load_eq hsource, except_bind_eq_ok] at h
  obtain ⟨t, hcontent, hcheck⟩ := h
  obtain ⟨rfl, -⟩ := check_eq_ok.1 hcheck
  have hgiven : t.IsGivenBy v := isGivenBy_of_ofContent hcontent
  obtain ⟨u, hload, hsame⟩ := load_overview hcheck
  exact ⟨isValid_of_check (hgiven.hasNoNaN hv) hcheck, hgiven, u, hload, overview_congr hsame, hsame⟩

/-- The file gives a date for the host, a truth value for the port, the log level in lower case beside the
section itself, and zero as a limit; one section is named by a number. -/
theorem loaded_valid_given_and_reloaded_sparse :
    let v : Value := .mapping none [
      (.str "database", .mapping none [(.str "host", .date ⟨738885⟩), (.str "port", .bool true)]),
      (.str "logging", .mapping (some 5) [(.str "level", .str "debug"), (.str "colour", .again 5)]),
      (.str "monitoring", .mapping none [(.str "slow_query_threshold_ms", .int 0)]),
      (.int 7, .list none [])]
    ∃ s : Settings, (SettingsSource.content v).Holds v ∧ v.HasNoNaN ∧ load (.content v) = .ok s ∧
      s.held .host = .date ⟨738885⟩ ∧ s.held .logLevel = .str "DEBUG" ∧ s.IsValid ∧ s.IsGivenBy v ∧
        ∃ t, load (.content s.overview) = .ok t ∧ t.overview = s.overview ∧
          ∀ k, k.isShown = true → t.held k = s.held k := by
  intro v
  have hv : v.HasNoNaN := by
    refine .mapping none ?_ ?_
    · simp only [List.forall_mem_cons]
      exact ⟨.str _, .str _, .str _, .int 7, List.forall_mem_nil _⟩
    · simp only [List.forall_mem_cons]
      refine ⟨.mapping _ ?_ ?_, .mapping _ ?_ ?_, .mapping _ ?_ ?_, .list _ ?_, List.forall_mem_nil _⟩
      · exact List.forall_mem_cons.2 ⟨.str _, List.forall_mem_singleton.2 (.str _)⟩
      · exact List.forall_mem_cons.2 ⟨.date _, List.forall_mem_singleton.2 (.bool true)⟩
      · exact List.forall_mem_cons.2 ⟨.str _, List.forall_mem_singleton.2 (.str _)⟩
      · exact List.forall_mem_cons.2 ⟨.str _, List.forall_mem_singleton.2 (.again 5)⟩
      · exact List.forall_mem_singleton.2 (.str _)
      · exact List.forall_mem_singleton.2 (.int 0)
      · exact List.forall_mem_nil _
  have hlevel : loaded v .logLevel = .str "DEBUG" := by
    have hupper : Text.upper "debug" = "DEBUG" := by decide +kernel
    exact congrArg Value.str hupper
  have hchecked : checkLevel (loaded v .logLevel) = .ok () := by
    rw [hlevel]
    rfl
  have huser : checkUser (loaded v .systemUser) = .ok () := by
    have hdefault : loaded v .systemUser = .str "NON_ASSOCIATIONS_API" := rfl
    rw [hdefault]
    rfl
  have hcheck : check ⟨loaded v⟩ = .ok ⟨loaded v⟩ :=
    check_eq_ok.2 ⟨rfl, hchecked, huser, rfl, rfl, rfl⟩
  have hload : load (.content v) = .ok ⟨loaded v⟩ := except_bind_eq_ok.2 ⟨_, rfl, hcheck⟩
  exact ⟨⟨loaded v⟩, .content v, hv, hload, rfl, hlevel,
    loaded_valid_given_and_reloaded (.content v) hv hload⟩

end Settings

end KeepApart
