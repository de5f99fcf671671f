import KeepApart.Proofs.Json.Characters
import KeepApart.Proofs.Json.Reading
import KeepApart.Security.Event

/-!
# The text of an event

The text of an event is on one line as far as control characters below U+0020 go, and it can be read
back: an event whose context has neither fractions nor halves of surrogate pairs is known from its text.
-/

namespace KeepApart.SecurityEvent

open Json

variable {e e' : SecurityEvent} {limits : Limits}

theorem text_toList (e : SecurityEvent) : e.text.toList = renderChars [' '] e.toJson :=
  String.toList_ofList

theorem mem_text_iff {c : Char} (hc : Text.isPlain c = false) :
    c ∈ e.text.toList ↔ Holds c e.toJson ∧ 0x20 ≤ c.toNat := by
  have hgap : c ∉ [' '] := by
    rw [List.mem_singleton]
    exact Text.ne_of_isPlain hc (by decide)
  rw [text_toList, mem_renderChars hc hgap]

theorem visible_of_mem_text {c : Char} (hc : c ∈ e.text.toList) : 0x20 ≤ c.toNat := by
  cases hplain : Text.isPlain c with
  | true => exact (Text.isPlain_iff.1 hplain).1
  | false => exact ((mem_text_iff hplain).1 hc).2

theorem nodup_toFields (e : SecurityEvent) : (e.toFields.map Prod.fst).Nodup := by
  simp [toFields]

theorem isLegible_toJson (hroom : limits.isNested 0 = false)
    (h : IsLegible limits 1 (.obj e.context)) : IsLegible limits 0 e.toJson := by
  refine .obj hroom e.nodup_toFields ?_
  simp only [toFields, List.forall_mem_cons]
  exact ⟨.str _ _, .str _ _, .str _ _, .str _ _, .str _ _, .str _ _, .str _ _, .str _ _, .str _ _,
    .str _ _, h, List.forall_mem_nil _⟩

theorem toJson_injective (h : e.toJson = e'.toJson) : e = e' := by
  cases e
  cases e'
  simpa [toJson, toFields, and_assoc] using h

theorem isExact_toJson (h : IsExact (.obj e.context)) : IsExact e.toJson :=
  (isLegible_toJson rfl (h.isLegible 1)).isExact

/-- An event whose context keeps to the limits is written down with its text, and no other is. -/
theorem written_eq_ok (h : IsExact (.obj e.context)) {s : String} :
    e.written limits = .ok s ↔ IsLegible limits 0 e.toJson ∧ e.text = s := by
  rw [text, ← (isExact_toJson h).write_eq_ok, written]
  cases write limits e.toJson <;> simp [Except.mapError]

/-- An integer of more than 4300 digits in the context leaves an event without a text. -/
theorem not_written_of_long {name : String} {n : Int} (h : IsExact (.obj e.context))
    (hmem : (name, .int n) ∈ e.context) (hn : digitLimit < (Nat.toDigits 10 n.natAbs).length) :
    ∃ f, e.written .standard = .error f := by
  cases hwritten : e.written .standard with
  | error f => exact ⟨f, rfl⟩
  | ok s =>
      have hcontext : ("context", .obj e.context) ∈ e.toFields := by simp [toFields]
      cases ((written_eq_ok h).1 hwritten).1 with
      | obj _ _ hfields =>
          cases hfields _ hcontext with
          | obj _ _ hitems =>
              cases hitems _ hmem with
              | int _ hshort => exact absurd hn (of_decide_eq_false hshort)

/-- An event is written down just when it keeps to the limits of a writer, and without limits always. What
is written has no control characters below U+0020 and is read back as the event, within the limits and
without. No other event is written down as the same text, whatever its writer's limits. -/
theorem text_reads_back (limits : Limits) (e : SecurityEvent) (h : IsExact (.obj e.context)) :
    ((∃ s, e.written limits = .ok s) ↔ IsLegible limits 0 e.toJson) ∧
      (∃ s, e.written .unlimited = .ok s) ∧
      ∀ s, e.written limits = .ok s →
        (∀ c ∈ s.toList, 0x20 ≤ c.toNat) ∧
          readWithin limits s.toList = .ok e.toJson ∧ readWithin .unlimited s.toList = .ok e.toJson ∧
          ∀ others e', IsExact (.obj e'.context) → e'.written others = .ok s → e' = e := by
  have hread {e : SecurityEvent} {limits : Limits} (h : IsLegible limits 0 e.toJson) :
      readWithin limits e.text.toList = .ok e.toJson := by
    rw [text_toList]
    exact h.readWithin_render (List.forall_mem_singleton.2 (by decide))
  have hunlimited {e : SecurityEvent} (h : IsExact (.obj e.context)) :
      IsLegible .unlimited 0 e.toJson := (isExact_toJson h).isLegible 0
  refine ⟨?_, ⟨e.text, (written_eq_ok h).2 ⟨hunlimited h, rfl⟩⟩, ?_⟩
  · simp only [written_eq_ok h, exists_and_left, exists_eq', and_true]
  · intro s hs
    obtain ⟨hlegible, rfl⟩ := (written_eq_ok h).1 hs
    refine ⟨fun c => visible_of_mem_text, hread hlegible, hread (hunlimited h), ?_⟩
    intro others e' h' hs'
    have hsame := hread (hunlimited h')
    rw [((written_eq_ok h').1 hs').2, hread (hunlimited h)] at hsame
    exact toJson_injective (Except.ok.inj hsame.symm)

/-- An event with quotes, a backslash and control characters, whose context has an object in it. -/
theorem text_reads_back_nested :
    let e : SecurityEvent :=
      { timestamp := "", kind := "\"a\\b\n\"", severity := "\x00\x7f", source := "\u2028",
        context := [("é", .obj [("", .int (-5)), ("\x1f", .str "\t")]), ("none", .null)] }
    IsExact (.obj e.context) ∧ ∃ s, e.written .standard = .ok s ∧ read s.toList = .ok e.toJson := by
  intro e
  have hinner : IsLegible .standard 2 (.obj [("", .int (-5)), ("\x1f", .str "\t")]) := by
    refine .obj rfl (by decide) ?_
    simp only [List.forall_mem_cons]
    exact ⟨.int 3 (by decide), .str 3 _, List.forall_mem_nil _⟩
  have hlegible : IsLegible .standard 1 (.obj e.context) := by
    refine .obj rfl (by decide) ?_
    simp only [e, List.forall_mem_cons]
    exact ⟨hinner, .null 2, List.forall_mem_nil _⟩
  have hexact : IsExact (.obj e.context) := hlegible.isExact
  obtain ⟨hwritten, -, hreads⟩ := text_reads_back .standard e hexact
  obtain ⟨s, hs⟩ := hwritten.2 (isLegible_toJson rfl hlegible)
  exact ⟨hexact, s, hs, (hreads s hs).2.1⟩

end KeepApart.SecurityEvent
