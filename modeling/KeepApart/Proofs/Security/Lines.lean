import KeepApart.Proofs.Http.Attribution
import KeepApart.Proofs.Security.Context
import KeepApart.Proofs.Security.Events

/-!
# How many lines an event takes

A reader of text breaks lines at more characters than the line feed. None of them is in what was made
tidy: the input, the user and the context. The other texts of an event are written as they were given, and
since control characters below U+0020 are escaped, three breaks are left that can come from them.
-/

namespace KeepApart

/-! ## Line breaks -/

namespace Text

def lineBreakRanges : List (Nat × Nat) :=
  [(0x0A, 0x0D), (0x1C, 0x1E), (0x85, 0x85), (0x2028, 0x2029)]

/-- Does a reader of text break lines at the character? -/
def isLineBreak (c : Char) : Bool :=
  inRanges lineBreakRanges c.toNat

variable {c : Char} {s : List Char}

theorem isLineBreak_iff : isLineBreak c = true ↔ (0x0A ≤ c.toNat ∧ c.toNat ≤ 0x0D) ∨
    (0x1C ≤ c.toNat ∧ c.toNat ≤ 0x1E) ∨ c = '\u0085' ∨ c = '\u2028' ∨ c = '\u2029' := by
  have hranges : isLineBreak c = true ↔ (0x0A ≤ c.toNat ∧ c.toNat ≤ 0x0D) ∨
      (0x1C ≤ c.toNat ∧ c.toNat ≤ 0x1E) ∨ (0x85 ≤ c.toNat ∧ c.toNat ≤ 0x85) ∨
      (0x2028 ≤ c.toNat ∧ c.toNat ≤ 0x2029) := by
    simp [isLineBreak, inRanges, lineBreakRanges]
  have hcode (d : Char) : c = d ↔ c.toNat = d.toNat := Char.toNat_inj.symm
  rw [hranges, hcode, hcode, hcode]
  change _ ↔ _ ∨ _ ∨ c.toNat = 0x85 ∨ c.toNat = 0x2028 ∨ c.toNat = 0x2029
  omega

theorem isPlain_of_isLineBreak (hc : isLineBreak c = true) : isPlain c = false := by
  rw [Bool.eq_false_iff, Ne, isPlain_iff]
  rcases isLineBreak_iff.1 hc with hc | hc | rfl | rfl | rfl
  · omega
  · omega
  all_goals decide

theorem isSeparator_of_isLineBreak (hc : isLineBreak c = true) : isSeparator c = true := by
  rcases isLineBreak_iff.1 hc with hc | hc | rfl | rfl | rfl
  · have hcontrol : isControl c = true := by simp [isControl]; omega
    rw [isSeparator, hcontrol, Bool.or_true]
  · have hcontrol : isControl c = true := by simp [isControl]; omega
    rw [isSeparator, hcontrol, Bool.or_true]
  all_goals decide

theorem IsTidy.not_mem_of_isLineBreak (hs : IsTidy s) (hc : isLineBreak c = true) : c ∉ s := by
  intro hmem
  obtain rfl : c = ' ' := hs.visible c hmem (isSeparator_of_isLineBreak hc)
  exact absurd hc (by decide)

/-- The breaks that are not escaped. -/
theorem le_toNat_iff_of_isLineBreak (hc : isLineBreak c = true) :
    0x20 ≤ c.toNat ↔ c ∈ ['\u0085', '\u2028', '\u2029'] := by
  simp only [List.mem_cons, List.not_mem_nil, or_false]
  constructor
  · intro hvisible
    rcases isLineBreak_iff.1 hc with hc | hc | hc
    · omega
    · omega
    · exact hc
  · rintro (rfl | rfl | rfl) <;> decide

end Text

open Json Text

variable {c : Char}

/-! ## What is clean -/

namespace Security

theorem not_holds_cleanContext_of (hc : isLineBreak c = true) {fields : List (String × Json)}
    (h : ∀ f ∈ fields, ¬ Holds c (cleanValue f.2)) : ¬ Holds c (.obj (cleanContext fields)) := by
  rw [holds_obj]
  rintro ⟨f, hf, hholds⟩
  obtain ⟨e, he, hname, hvalue⟩ := exists_of_mem_cleanContext hf
  rw [← hname, ← hvalue] at hholds
  rcases hholds with hmem | hholds
  · exact (isTidy_clip keyWidth e.1).not_mem_of_isLineBreak hc hmem
  · exact h e he hholds

theorem not_holds_cleanValue (hc : isLineBreak c = true) (v : Json) : ¬ Holds c (cleanValue v) := by
  induction v using parts_induction with
  | null | bool | int | float =>
      rw [cleanValue]
      rintro ⟨⟩
  | str | arr =>
      rw [cleanValue, holds_str]
      exact (isTidy_clip valueWidth _).not_mem_of_isLineBreak hc
  | surrogates codes =>
      have htidy : IsTidyText (cleanValue (.surrogates codes)) := isTidyText_cleanValue _
      rw [cleanValue] at htidy ⊢
      rcases ofCodes_clipCodes codes with hwhole | hhalf
      · rw [hwhole, holds_str]
        exact (isTidy_clip valueWidth _).not_mem_of_isLineBreak hc
      · rw [hhalf] at htidy ⊢
        rw [holds_surrogates]
        rintro ⟨code, hmem, hcode, rfl⟩
        exact htidy.2.not_mem_of_isLineBreak hc
          (List.mem_map.2 ⟨code, hmem, shownChar_of_whole hcode⟩)
  | obj fields ih =>
      rw [cleanValue]
      exact not_holds_cleanContext_of hc ih

theorem isTidy_clipInput (v : Json) : IsTidy (clipInput v).toList := by
  unfold clipInput
  split
  · exact isTidy_of_visible (List.forall_mem_nil _)
  · exact isTidy_clip inputWidth v.display

end Security

namespace SecurityEvent

variable {e : SecurityEvent}

def unchecked (e : SecurityEvent) : List String :=
  [e.timestamp, e.field, e.errorCode, e.source, e.requestId, e.address]

/-- All other parts of the event are plain or clean. -/
structure IsGuarded (e : SecurityEvent) : Prop where
  kind : e.kind.toList.all isPlain = true
  severity : e.severity.toList.all isPlain = true
  input : IsTidy e.input.toList
  user : IsTidy e.user.toList
  context : ∃ given, e.context = Security.cleanContext given

theorem all_isPlain_name (e : SecurityEvent) :
    ∀ f ∈ e.toFields, f.1.toList.all isPlain = true := by
  simp only [toFields, List.forall_mem_cons]
  decide

theorem IsGuarded.holds_iff (h : e.IsGuarded) (hc : isLineBreak c = true) :
    Holds c e.toJson ↔ ∃ s ∈ e.unchecked, c ∈ s.toList := by
  have hplain := isPlain_of_isLineBreak hc
  have hname : ∀ f ∈ e.toFields, c ∉ f.1.toList :=
    fun f hf => not_mem_of_all hplain (e.all_isPlain_name f hf)
  have hkind := not_mem_of_all hplain h.kind
  have hseverity := not_mem_of_all hplain h.severity
  have hinput := h.input.not_mem_of_isLineBreak hc
  have huser := h.user.not_mem_of_isLineBreak hc
  have hcontext : ¬ Holds c (.obj e.context) := by
    obtain ⟨given, hgiven⟩ := h.context
    rw [hgiven]
    exact Security.not_holds_cleanContext_of hc fun f _ => Security.not_holds_cleanValue hc f.2
  have hfields : Holds c e.toJson ↔ ∃ f ∈ e.toFields, Holds c f.2 := by
    rw [toJson, holds_obj]
    exact exists_congr fun f => and_congr_right fun hf => or_iff_right (hname f hf)
  rw [hfields]
  simp [toFields, unchecked, holds_str, hkind, hseverity, hinput, huser, hcontext]

theorem IsGuarded.mem_text (h : e.IsGuarded) (hc : isLineBreak c = true) :
    c ∈ e.text.toList ↔
      c ∈ ['\u0085', '\u2028', '\u2029'] ∧ ∃ s ∈ e.unchecked, c ∈ s.toList := by
  rw [mem_text_iff (isPlain_of_isLineBreak hc), h.holds_iff hc, and_comm,
    le_toNat_iff_of_isLineBreak hc]

end SecurityEvent

/-! ## Runs of the log -/

namespace SecurityLog

def Notice.given : Notice → List String
  | invalidInput field errorCode _ source _ => [field, errorCode, source]
  | badKey source _ => [source]
  | noActor source => [source]

def LogStep.given : LogStep → List String
  | begin drawn id _ address => drawn :: address :: id.toList
  | note time n => time :: n.given
  | clear => []

def after (steps : List LogStep) : SecurityLog :=
  steps.foldl LogStep.apply {}

/-- The text is plain, or a step gives it. -/
def IsGiven (steps : List LogStep) (s : String) : Prop :=
  s.toList.all isPlain = true ∨ ∃ step ∈ steps, s ∈ step.given

/-- What a log has after these steps: everything in it is guarded or was given. -/
structure Traced (steps : List LogStep) (log : SecurityLog) : Prop where
  id : IsGiven steps log.mark.id
  user : IsTidy log.mark.user.toList
  address : IsGiven steps log.mark.address
  events : ∀ e ∈ log.events, e.IsGuarded ∧ ∀ s ∈ e.unchecked, IsGiven steps s

variable {steps : List LogStep} {step : LogStep} {log : SecurityLog} {s : String}

theorem IsGiven.concat (h : IsGiven steps s) (step : LogStep) : IsGiven (steps ++ [step]) s := by
  refine h.imp_right ?_
  rintro ⟨earlier, hmem, hgiven⟩
  exact ⟨earlier, List.mem_append_left _ hmem, hgiven⟩

theorem isGiven_concat (hs : s ∈ step.given) : IsGiven (steps ++ [step]) s :=
  .inr ⟨step, List.mem_append_right _ List.mem_cons_self, hs⟩

theorem Traced.events_concat (h : Traced steps log) (step : LogStep) :
    ∀ e ∈ log.events, e.IsGuarded ∧ ∀ s ∈ e.unchecked, IsGiven (steps ++ [step]) s := by
  intro e he
  obtain ⟨hguarded, hgiven⟩ := h.events e he
  exact ⟨hguarded, fun s hs => (hgiven s hs).concat step⟩

theorem mark_begin (log : SecurityLog) (drawn : String) (id : Option String) (user address : String) :
    (log.begin drawn id user address).mark.id ∈ drawn :: id.toList := by
  cases id with
  | none => exact List.mem_cons_self
  | some s =>
      change (if s.isEmpty then drawn else s) ∈ [drawn, s]
      split <;> simp

theorem Traced.begin (h : Traced steps log) (drawn : String) (id : Option String)
    (user address : String) :
    Traced (steps ++ [.begin drawn id user address]) (log.begin drawn id user address) where
  id := by
    have hmem := mark_begin log drawn id user address
    exact isGiven_concat (by grind [LogStep.given])
  user := by
    change IsTidy (sanitize Security.userWidth user).toList
    rw [sanitize, String.toList_ofList]
    exact isTidy_sanitizeChars _ _
  address := isGiven_concat (List.mem_cons_of_mem drawn List.mem_cons_self)
  events := h.events_concat _

/-- What every notice writes: an event of a fixed kind with the texts of the notice. -/
theorem exists_write (log : SecurityLog) (time : String) (n : Notice) :
    ∃ kind field errorCode source input context,
      log.note time n = log.write time kind field errorCode source input context ∧
        kind.toList.all isPlain = true ∧
          ∀ s ∈ [field, errorCode, source], s.toList.all isPlain = true ∨ s ∈ n.given := by
  have hfixed {field errorCode : String} (source : String) (hfield : field.toList.all isPlain = true)
      (hcode : errorCode.toList.all isPlain = true) :
      ∀ s ∈ [field, errorCode, source], s.toList.all isPlain = true ∨ s ∈ [source] := by
    simp only [List.forall_mem_cons]
    exact ⟨.inl hfield, .inl hcode, .inr List.mem_cons_self, List.forall_mem_nil _⟩
  cases n with
  | invalidInput field errorCode input source context =>
      exact ⟨_, field, errorCode, source, input, context, rfl, by decide, fun s hs => .inr hs⟩
  | badKey source missing =>
      cases missing with
      | false => exact ⟨_, _, _, source, _, _, rfl, by decide, hfixed source (by decide) (by decide)⟩
      | true => exact ⟨_, _, _, source, _, _, rfl, by decide, hfixed source (by decide) (by decide)⟩
  | noActor source =>
      exact ⟨_, _, _, source, _, _, rfl, by decide, hfixed source (by decide) (by decide)⟩

theorem Traced.note (h : Traced steps log) (time : String) (n : Notice) :
    Traced (steps ++ [.note time n]) (log.note time n) := by
  obtain ⟨kind, field, errorCode, source, input, context, hwrite, hkind, htexts⟩ :=
    exists_write log time n
  have hgiven : ∀ s ∈ [field, errorCode, source], IsGiven (steps ++ [.note time n]) s := by
    intro s hs
    rcases htexts s hs with hplain | hmem
    · exact .inl hplain
    · exact isGiven_concat (List.mem_cons_of_mem time hmem)
  have htime : IsGiven (steps ++ [.note time n]) time := isGiven_concat List.mem_cons_self
  have hseverity : "WARNING".toList.all isPlain = true := by decide
  rw [hwrite]
  refine ⟨h.id.concat _, h.user, h.address.concat _, ?_⟩
  intro e he
  rcases List.mem_append.1 he with he | he
  · exact h.events_concat _ e he
  · obtain rfl := List.mem_singleton.1 he
    refine ⟨⟨hkind, hseverity, Security.isTidy_clipInput input, h.user, context, rfl⟩, ?_⟩
    simp only [List.forall_mem_cons] at hgiven
    simp only [SecurityEvent.unchecked, List.forall_mem_cons]
    exact ⟨htime, hgiven.1, hgiven.2.1, hgiven.2.2.1, h.id.concat _, h.address.concat _,
      List.forall_mem_nil _⟩

theorem Traced.clear (h : Traced steps log) : Traced (steps ++ [.clear]) log.clear where
  id := .inl rfl
  user := isTidy_of_visible (List.forall_mem_nil _)
  address := .inl rfl
  events := h.events_concat _

theorem traced_after (steps : List LogStep) : Traced steps (after steps) := by
  induction steps using List.reverseRecOn with
  | nil =>
      exact ⟨.inl rfl, isTidy_of_visible (List.forall_mem_nil _), .inl rfl, List.forall_mem_nil _⟩
  | append_singleton steps step ih =>
      rw [after, List.foldl_append]
      cases step with
      | begin drawn id user address => exact ih.begin drawn id user address
      | note time n => exact ih.note time n
      | clear => exact ih.clear

/-- Every notice adds one event. -/
theorem length_events_after (steps : List LogStep) :
    (after steps).events.length = steps.countP LogStep.isNote := by
  induction steps using List.reverseRecOn with
  | nil => rfl
  | append_singleton steps step ih =>
      rw [after, List.foldl_append, List.countP_append, ← ih]
      cases step with
      | begin drawn id user address => rfl
      | note time n =>
          obtain ⟨e, hnote, -⟩ := Trace.exists_note (after steps) time n
          change ((after steps).note time n).events.length = _
          rw [hnote, List.length_append]
          rfl
      | clear => rfl

/-- Every notice of a run has its event. No event has a line break but U+0085, U+2028 and U+2029, and
it has these where a text that is written as it was given has them: its time, field, code, source, request
id or address. A step of the run gave that text. -/
theorem line_breaks_in_text (steps : List LogStep) :
    (after steps).events.length = steps.countP LogStep.isNote ∧
      ∀ e ∈ (after steps).events, ∀ c, isLineBreak c = true →
        (c ∈ e.text.toList ↔
          c ∈ ['\u0085', '\u2028', '\u2029'] ∧ ∃ s ∈ e.unchecked, c ∈ s.toList) ∧
        ∀ s ∈ e.unchecked, c ∈ s.toList → ∃ step ∈ steps, s ∈ step.given := by
  refine ⟨length_events_after steps, ?_⟩
  intro e he c hc
  obtain ⟨hguarded, hgiven⟩ := (traced_after steps).events e he
  refine ⟨hguarded.mem_text hc, ?_⟩
  intro s hs hmem
  rcases hgiven s hs with hplain | hstep
  · exact absurd hmem (not_mem_of_all (isPlain_of_isLineBreak hc) hplain)
  · exact hstep

/-- A request names itself and its user with line breaks, and nobody is found to act. The one in its id
is in the text, that in the name of the user is not. -/
theorem line_breaks_in_text_id :
    let steps : List LogStep :=
      [.begin "" (some "r\u2028s") "U\u0085V" "10.0.0.1", .note "" (.noActor "/api")]
    ∃ e ∈ (after steps).events, isLineBreak '\u2028' = true ∧ isLineBreak '\u0085' = true ∧
      '\u2028' ∈ e.text.toList ∧ '\u0085' ∉ e.text.toList := by
  intro steps
  obtain ⟨e, hevents, hunchecked⟩ : ∃ e, (after steps).events = [e] ∧
      e.unchecked = ["", "X-User-Name", "USER_IN_CONTEXT_MISSING", "/api", "r\u2028s", "10.0.0.1"] :=
    ⟨_, rfl, rfl⟩
  have he : e ∈ (after steps).events := by
    rw [hevents]
    exact List.mem_cons_self
  have hseparator : isLineBreak '\u2028' = true := by decide
  have hnextLine : isLineBreak '\u0085' = true := by decide
  have hbreaks := (line_breaks_in_text steps).2 e he
  refine ⟨e, he, hseparator, hnextLine, ?_, ?_⟩
  · rw [(hbreaks _ hseparator).1, hunchecked]
    decide
  · rw [(hbreaks _ hnextLine).1, hunchecked]
    decide

/-- A call to a path with a line separator in it breaks the line of its event. -/
theorem line_broken :
    let steps : List LogStep := [.note "2024-06-01T12:00:00+00:00" (.noActor "/api/x\u2028y")]
    ∃ e ∈ (after steps).events, isLineBreak '\u2028' = true ∧ '\u2028' ∈ e.text.toList := by
  intro steps
  obtain ⟨e, hevents, hsource⟩ :
      ∃ e, (after steps).events = [e] ∧ e.source = "/api/x\u2028y" := ⟨_, rfl, rfl⟩
  have he : e ∈ (after steps).events := by
    rw [hevents]
    exact List.mem_cons_self
  have hseparator : isLineBreak '\u2028' = true := by decide
  have hguarded := ((traced_after steps).events e he).1
  refine ⟨e, he, hseparator, (hguarded.mem_text hseparator).2 ⟨by decide, e.source, ?_, ?_⟩⟩
  · simp [SecurityEvent.unchecked]
  · rw [hsource]
    decide

end SecurityLog

end KeepApart
