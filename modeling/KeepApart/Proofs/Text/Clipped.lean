import Mathlib.Data.List.Chain
import KeepApart.Proofs.Text.Words

/-!
# Tidy texts

A sanitised text is tidy: the only blank in it is the space, no two of them are adjacent, none comes first,
and it has no control characters. A clipped text is tidy as well, its length has a bound even where its
mark is counted in, and to clip it once more changes nothing.
-/

namespace KeepApart.Text

variable {c : Char} {s t : List Char} {width : Nat}

structure IsTidy (s : List Char) : Prop where
  visible : ∀ c ∈ s, isSeparator c = true → c = ' '
  single : s.IsChain fun c d => ¬(c = ' ' ∧ d = ' ')
  first : s.head? ≠ some ' '

namespace IsTidy

theorem of_prefix (h : IsTidy t) (hs : s <+: t) : IsTidy s := by
  refine ⟨fun c hc => h.visible c (hs.subset hc), h.single.prefix hs, ?_⟩
  cases s with
  | nil => simp
  | cons c s =>
      obtain ⟨more, rfl⟩ := hs
      exact h.first

theorem append (hs : IsTidy s) (ht : IsTidy t) : IsTidy (s ++ t) := by
  refine ⟨?_, ?_, ?_⟩
  · intro c hc
    rcases List.mem_append.1 hc with hc | hc
    · exact hs.visible c hc
    · exact ht.visible c hc
  · refine hs.single.append ht.single ?_
    rintro c - d hd ⟨-, rfl⟩
    exact ht.first hd
  · cases s with
    | nil => exact ht.first
    | cons c s => exact hs.first

end IsTidy

theorem ne_space_of_visible (hc : isSeparator c = false) : c ≠ ' ' := by
  rintro rfl
  exact absurd hc (by decide)

theorem isTidy_of_visible (h : ∀ c ∈ s, isSeparator c = false) : IsTidy s where
  visible c hc hseparator := absurd hseparator (by simp [h c hc])
  single := by
    rw [List.isChain_iff_forall_rel_of_append_cons_cons]
    rintro c d before after rfl ⟨rfl, -⟩
    exact ne_space_of_visible (h ' ' (by simp)) rfl
  first hfirst := ne_space_of_visible (h ' ' (List.mem_of_head? hfirst)) rfl

theorem isTidy_concat_space (hne : s ≠ []) (h : ∀ c ∈ s, isSeparator c = false) :
    IsTidy (s ++ [' ']) where
  visible c hc hseparator := by
    rcases List.mem_append.1 hc with hc | hc
    · exact (isTidy_of_visible h).visible c hc hseparator
    · exact List.mem_singleton.1 hc
  single := by
    refine (isTidy_of_visible h).single.append (List.isChain_singleton ' ') ?_
    rintro c hc - - ⟨rfl, -⟩
    exact ne_space_of_visible (h ' ' (List.mem_of_getLast? hc)) rfl
  first := by
    rw [List.head?_append_of_ne_nil _ hne]
    exact (isTidy_of_visible h).first

theorem isTidy_intercalate {ws : List (List Char)} (hne : ∀ w ∈ ws, w ≠ [])
    (h : ∀ w ∈ ws, ∀ c ∈ w, isSeparator c = false) : IsTidy ([' '].intercalate ws) := by
  induction ws with
  | nil => exact isTidy_of_visible (List.forall_mem_nil _)
  | cons w ws ih =>
      rw [List.forall_mem_cons] at hne h
      cases ws with
      | nil => simpa using isTidy_of_visible h.1
      | cons v ws =>
          rw [List.intercalate_cons_cons]
          exact (isTidy_concat_space hne.1 h.1).append (ih hne.2 h.2)

theorem isTidy_sanitizeChars (limit : Int) (s : List Char) : IsTidy (sanitizeChars limit s) := by
  have htidy : IsTidy ([' '].intercalate (words s)) :=
    isTidy_intercalate (fun _ => ne_nil_of_mem_words) fun _ hw _ => visible_of_mem_words hw
  rw [sanitizeChars, trimChars_collapse]
  unfold sliceTo
  split
  · exact htidy.of_prefix (List.take_prefix _ _)
  · exact htidy.of_prefix (List.take_prefix _ _)

/-! ## Texts that stay as they are -/

theorem collapse_flatten_of_tidy {inRun : Bool} (h : ∀ c ∈ s, isSeparator c = true → c = ' ')
    (hsingle : s.IsChain fun c d => ¬(c = ' ' ∧ d = ' '))
    (hfirst : inRun = true → s.head? ≠ some ' ') : collapse inRun (flatten s) = s := by
  induction s generalizing inRun with
  | nil => rfl
  | cons c s ih =>
      rw [List.forall_mem_cons] at h
      rw [List.isChain_cons] at hsingle
      cases hc : isSeparator c with
      | true =>
          obtain rfl : c = ' ' := h.1 hc
          have hrun : inRun = false := by simpa using hfirst
          have hnext : s.head? ≠ some ' ' := fun hd => hsingle.1 ' ' hd ⟨rfl, rfl⟩
          rw [collapse_flatten_of_separator inRun hc, hrun, if_neg Bool.false_ne_true,
            ih h.2 hsingle.2 fun _ => hnext]
      | false =>
          have hrest : collapse false (flatten s) = s := ih h.2 hsingle.2 fun hrun => nomatch hrun
          rw [collapse_flatten_of_visible inRun hc, hrest]

theorem trimChars_of_tidy (h : IsTidy s) (hlast : s.getLast? ≠ some ' ') : trimChars s = s := by
  have hblank {c : Char} (hc : c ∈ s) (hb : isBlank c = true) : c = ' ' :=
    h.visible c hc (Bool.or_eq_true_iff.2 (.inl hb))
  have hfront : s.dropWhile isBlank = s := by
    cases s with
    | nil => rfl
    | cons c s =>
        refine List.dropWhile_cons_of_neg fun hb => h.first ?_
        rw [hblank List.mem_cons_self hb]
        rfl
  change (s.dropWhile isBlank).rdropWhile isBlank = s
  rw [hfront, List.rdropWhile_eq_self_iff]
  intro hne hb
  apply hlast
  rw [List.getLast?_eq_getLast_of_ne_nil hne, hblank (List.getLast_mem hne) hb]

theorem sliceTo_natCast (limit : Nat) (s : List Char) : sliceTo limit s = s.take limit := by
  rw [sliceTo, if_pos (Int.natCast_nonneg limit), Int.toNat_natCast]

theorem sanitizeChars_of_tidy (limit : Nat) (h : IsTidy s) (hlast : s.getLast? ≠ some ' ')
    (hlength : s.length ≤ limit) : sanitizeChars limit s = s := by
  have hcollapse : collapse false (flatten s) = s :=
    collapse_flatten_of_tidy h.visible h.single fun hrun => nomatch hrun
  rw [sanitizeChars, hcollapse, trimChars_of_tidy h hlast, sliceTo_natCast,
    List.take_of_length_le hlength]

/-- Unless something was cut off, no space stands at the end of a sanitised text. -/
theorem getLast?_sanitizeChars (limit : Nat) (h : (sanitizeChars limit s).length < limit) :
    (sanitizeChars limit s).getLast? ≠ some ' ' := by
  rw [sanitizeChars, sliceTo_natCast] at h ⊢
  rw [List.take_of_length_le (by rw [List.length_take] at h; omega)]
  change (List.rdropWhile isBlank _).getLast? ≠ _
  intro hlast
  have hne := List.ne_nil_of_mem (List.mem_of_getLast? hlast)
  have hvisible := List.rdropWhile_last_not _ _ hne
  rw [List.getLast?_eq_getLast_of_ne_nil hne] at hlast
  rw [Option.some.inj hlast] at hvisible
  exact hvisible (by decide)

/-! ## Clipping -/

theorem isTidy_truncationMark : IsTidy truncationMark := by
  have hvisible : truncationMark.all (fun c => !isSeparator c) = true := by decide
  apply isTidy_of_visible
  simpa using hvisible

theorem clipChars_of_le (h : (sanitizeChars sanitizeLimit s).length ≤ width) :
    clipChars width s = sanitizeChars sanitizeLimit s :=
  if_neg (Nat.not_lt.2 h)

theorem clipChars_of_lt (h : width < (sanitizeChars sanitizeLimit s).length) :
    clipChars width s = (sanitizeChars sanitizeLimit s).take width ++ truncationMark :=
  if_pos h

theorem isTidy_clipChars (width : Nat) (s : List Char) : IsTidy (clipChars width s) := by
  have htidy := isTidy_sanitizeChars sanitizeLimit s
  rcases Nat.lt_or_ge width (sanitizeChars sanitizeLimit s).length with h | h
  · rw [clipChars_of_lt h]
    exact (htidy.of_prefix (List.take_prefix _ _)).append isTidy_truncationMark
  · rwa [clipChars_of_le h]

/-- The mark of a cut comes on top of the width. -/
theorem length_clipChars_le (width : Nat) (s : List Char) :
    (clipChars width s).length ≤ width + truncationMark.length := by
  rcases Nat.lt_or_ge width (sanitizeChars sanitizeLimit s).length with h | h
  · rw [clipChars_of_lt h, List.length_append, List.length_take]
    omega
  · rw [clipChars_of_le h]
    omega

/-- A text that was clipped is not clipped again, although with its mark it may be wider than `width`. -/
theorem clipChars_clipChars (hwidth : width + truncationMark.length ≤ 500) (s : List Char) :
    clipChars width (clipChars width s) = clipChars width s := by
  have hmark : 0 < truncationMark.length := by decide
  rcases Nat.lt_or_ge width (sanitizeChars sanitizeLimit s).length with h | h
  · have hcut := clipChars_of_lt h
    have hlength : ((sanitizeChars sanitizeLimit s).take width).length = width := by
      rw [List.length_take, Nat.min_eq_left h.le]
    have hlast : (clipChars width s).getLast? ≠ some ' ' := by
      have hend : truncationMark.getLast? = some ')' := by decide
      rw [hcut, List.getLast?_append, hend]
      exact fun heq => absurd (Option.some.inj heq) (by decide)
    have hsame : sanitizeChars sanitizeLimit (clipChars width s) = clipChars width s := by
      apply sanitizeChars_of_tidy 500 (isTidy_clipChars width s) hlast
      rw [hcut, List.length_append, hlength]
      exact hwidth
    rw [clipChars_of_lt (by rw [hsame, hcut, List.length_append, hlength]; omega), hsame, hcut,
      List.take_left' hlength]
  · have hkept := clipChars_of_le h
    have hsame : sanitizeChars sanitizeLimit (clipChars width s) = clipChars width s := by
      have hlast := getLast?_sanitizeChars 500 (Nat.lt_of_le_of_lt h (by omega))
      rw [hkept]
      exact sanitizeChars_of_tidy 500 (isTidy_sanitizeChars _ s) hlast (h.trans (by omega))
    rw [clipChars_of_le (by rw [hsame, hkept]; exact h), hsame]

theorem isTidy_clip (width : Nat) (s : String) : IsTidy (clip width s).toList := by
  rw [clip, String.toList_ofList]
  exact isTidy_clipChars width s.toList

theorem length_clip_le (width : Nat) (s : String) : (clip width s).length ≤ width + 14 := by
  rw [clip, String.length_ofList]
  exact length_clipChars_le width s.toList

theorem clip_clip (hwidth : width ≤ 486) (s : String) : clip width (clip width s) = clip width s := by
  have hroom : width + truncationMark.length ≤ 500 := Nat.add_le_add_right hwidth 14
  rw [clip, clip, String.toList_ofList, clipChars_clipChars hroom]

end KeepApart.Text
