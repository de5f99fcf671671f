import Mathlib.Data.List.DropRight
import KeepApart.Text.Sanitized

/-!
# Sanitised texts are their words

Replacing control characters, collapsing runs of blanks and trimming both ends leave the words of a text,
joined by single spaces, and nothing else. Only the cut that comes last drops visible characters.
-/

namespace KeepApart.Text

variable {c d : Char} {s : List Char}

/-! ## Words -/

theorem words_of_separator (hc : isSeparator c = true) : words (c :: s) = words s := by
  simp [words, hc]

/-- A word ends before a separator and at the end of the text. -/
theorem words_end (hc : isSeparator c = false) (hs : ∀ d ∈ s.head?, isSeparator d = true) :
    words (c :: s) = [c] :: words s := by
  cases s with
  | nil => simp [words, hc]
  | cons d s => simp [words, hc, hs d rfl]

/-- A word goes on as long as no separator comes. -/
theorem words_extend (hc : isSeparator c = false) (hd : isSeparator d = false) :
    ∃ w ws, words (d :: s) = w :: ws ∧ words (c :: d :: s) = (c :: w) :: ws := by
  have hne : words (d :: s) ≠ [] := by
    rw [words.eq_def]
    grind
  obtain ⟨w, ws, hws⟩ := List.exists_cons_of_ne_nil hne
  refine ⟨w, ws, hws, ?_⟩
  rw [words.eq_def]
  simp [hc, hd, hws]

/-- Induction on a text by what its first character does to the words: it is a separator, it is a word
of its own, or it goes in front of the first word. -/
@[elab_as_elim]
theorem words_induction {motive : List Char → Prop} (nil : motive [])
    (separator : ∀ c s, isSeparator c = true → words (c :: s) = words s → motive s → motive (c :: s))
    (last : ∀ c s, isSeparator c = false → (∀ d ∈ s.head?, isSeparator d = true) →
      words (c :: s) = [c] :: words s → motive s → motive (c :: s))
    (inner : ∀ c d s w ws, isSeparator c = false → isSeparator d = false →
      words (d :: s) = w :: ws → words (c :: d :: s) = (c :: w) :: ws → motive (d :: s) →
        motive (c :: d :: s))
    (s : List Char) : motive s := by
  induction s with
  | nil => exact nil
  | cons c s ih =>
      cases hc : isSeparator c with
      | true => exact separator c s hc (words_of_separator hc) ih
      | false =>
          by_cases hs : ∀ d ∈ s.head?, isSeparator d = true
          · exact last c s hc hs (words_end hc hs) ih
          · cases s with
            | nil => simp at hs
            | cons d s =>
                have hd : isSeparator d = false := by simpa using hs
                obtain ⟨w, ws, hws, hextended⟩ := words_extend (s := s) hc hd
                exact inner c d s w ws hc hd hws hextended ih

theorem words_eq_filter_splitOnP (s : List Char) :
    words s = (s.splitOnP isSeparator).filter (· ≠ []) := by
  induction s using words_induction with
  | nil => rfl
  | separator c s hc hwords ih =>
      rw [List.splitOnP_cons_eq_if_modifyHead, if_pos hc, hwords, ih]
      rfl
  | last c s hc hs hwords ih =>
      rw [List.splitOnP_cons_eq_if_modifyHead, hc, if_neg Bool.false_ne_true, hwords, ih]
      cases s with
      | nil => rfl
      | cons d s =>
          rw [List.splitOnP_cons_eq_if_modifyHead, if_pos (hs d rfl)]
          rfl
  | inner c d s w ws hc hd hws hwords ih =>
      obtain ⟨part, parts, hparts⟩ :=
        List.exists_cons_of_ne_nil (List.splitOnP_ne_nil isSeparator s)
      have hsplit : (d :: s).splitOnP isSeparator = (d :: part) :: parts := by
        rw [List.splitOnP_cons_eq_if_modifyHead, hd, if_neg Bool.false_ne_true, hparts]
        rfl
      rw [hws, hsplit] at ih
      obtain ⟨rfl, rfl⟩ := List.cons.inj ih
      rw [List.splitOnP_cons_eq_if_modifyHead, hc, if_neg Bool.false_ne_true, hsplit, hwords]
      rfl

theorem flatten_words (s : List Char) : (words s).flatten = s.filter (!isSeparator ·) := by
  induction s using words_induction with
  | nil => rfl
  | separator c s hc hwords ih => simp [hwords, hc, ih]
  | last c s hc _ hwords ih => simp [hwords, hc, ih]
  | inner c d s w ws hc _ hws hwords ih =>
      rw [hws] at ih
      simp [hwords, hc, ← ih]

theorem ne_nil_of_mem_words {w : List Char} (hw : w ∈ words s) : w ≠ [] := by
  rw [words_eq_filter_splitOnP] at hw
  simpa using List.of_mem_filter hw

theorem visible_of_mem_words {w : List Char} (hw : w ∈ words s) (hc : c ∈ w) :
    isSeparator c = false := by
  have hmem : c ∈ s.filter (!isSeparator ·) := flatten_words s ▸ List.mem_flatten_of_mem hw hc
  simpa using List.of_mem_filter hmem

/-! ## Trimming at the end -/

theorem rdropWhile_cons_of_neg {p : Char → Bool} (hc : p c = false) :
    (c :: s).rdropWhile p = c :: s.rdropWhile p := by
  rw [List.rdropWhile, List.reverse_cons, List.dropWhile_append]
  split
  · rename_i hempty
    have hall : s.rdropWhile p = [] := by simpa [List.rdropWhile] using hempty
    simp [hall, hc]
  · rw [List.reverse_append]
    rfl

theorem rdropWhile_cons_of_pos {p : Char → Bool} (hc : p c = true) :
    (c :: s).rdropWhile p = if s.rdropWhile p = [] then [] else c :: s.rdropWhile p := by
  rw [List.rdropWhile, List.reverse_cons, List.dropWhile_append]
  by_cases hall : s.rdropWhile p = []
  · have hempty : s.reverse.dropWhile p = [] := by simpa [List.rdropWhile] using hall
    rw [if_pos hall, hempty]
    simp [hc]
  · have hempty : (s.reverse.dropWhile p).isEmpty = false := by simpa [List.rdropWhile] using hall
    rw [if_neg hall, hempty, if_neg Bool.false_ne_true, List.reverse_append]
    rfl

/-! ## What is left of a text -/

theorem isBlank_flattened (c : Char) :
    isBlank (if isControl c then ' ' else c) = isSeparator c := by
  unfold isSeparator
  cases isControl c
  · simp
  · simp
    decide

theorem collapse_flatten_of_separator (inRun : Bool) (hc : isSeparator c = true) :
    collapse inRun (flatten (c :: s)) =
      if inRun then collapse true (flatten s) else ' ' :: collapse true (flatten s) := by
  have hblank := (isBlank_flattened c).trans hc
  simp only [flatten, List.map_cons, collapse, hblank, if_true]

theorem collapse_flatten_of_visible (inRun : Bool) (hc : isSeparator c = false) :
    collapse inRun (flatten (c :: s)) = c :: collapse false (flatten s) := by
  have hcontrol : isControl c = false := (Bool.or_eq_false_iff.1 hc).2
  have hblank : isBlank c = false := (Bool.or_eq_false_iff.1 hc).1
  simp [flatten, collapse, hcontrol, hblank]

/-- Whether the text begins within a run of blanks makes no difference once its front is trimmed. -/
theorem dropWhile_collapse (inRun : Bool) (s : List Char) :
    (collapse inRun (flatten s)).dropWhile isBlank = collapse true (flatten s) := by
  have hspace : isBlank ' ' = true := by decide
  induction s generalizing inRun with
  | nil => rfl
  | cons c s ih =>
      cases hc : isSeparator c with
      | true =>
          rw [collapse_flatten_of_separator inRun hc, collapse_flatten_of_separator true hc, if_pos rfl]
          cases inRun with
          | true => exact ih true
          | false =>
              rw [if_neg Bool.false_ne_true, List.dropWhile_cons_of_pos hspace]
              exact ih true
      | false =>
          have hblank : isBlank c = false := (Bool.or_eq_false_iff.1 hc).1
          rw [collapse_flatten_of_visible inRun hc, collapse_flatten_of_visible true hc,
            List.dropWhile_cons_of_neg (by simp [hblank])]

def spaced (ws : List (List Char)) : List Char :=
  ws.flatMap (' ' :: ·)

theorem rdropWhile_collapse (s : List Char) :
    (' ' :: collapse true (flatten s)).rdropWhile isBlank = spaced (words s) := by
  have hspace : isBlank ' ' = true := by decide
  induction s using words_induction with
  | nil => rfl
  | separator c s hc hwords ih => rw [collapse_flatten_of_separator true hc, if_pos rfl, ih, hwords]
  | last c s hc hs hwords ih =>
      have hblank : isBlank c = false := (Bool.or_eq_false_iff.1 hc).1
      -- In front of a separator, and at the end, a run that has begun counts as a space.
      have hrest : (collapse false (flatten s)).rdropWhile isBlank = spaced (words s) := by
        rw [← ih]
        cases s with
        | nil => rfl
        | cons d s =>
            rw [collapse_flatten_of_separator false (hs d rfl),
              collapse_flatten_of_separator true (hs d rfl)]
            rfl
      rw [collapse_flatten_of_visible true hc, rdropWhile_cons_of_pos hspace,
        rdropWhile_cons_of_neg hblank, hrest, hwords]
      simp [spaced]
  | inner c d s w ws hc hd hws hwords ih =>
      have hblank : isBlank c = false := (Bool.or_eq_false_iff.1 hc).1
      have hblank' : isBlank d = false := (Bool.or_eq_false_iff.1 hd).1
      rw [collapse_flatten_of_visible true hd, rdropWhile_cons_of_pos hspace,
        rdropWhile_cons_of_neg hblank', hws] at ih
      rw [collapse_flatten_of_visible true hc, collapse_flatten_of_visible false hd,
        rdropWhile_cons_of_pos hspace, rdropWhile_cons_of_neg hblank, rdropWhile_cons_of_neg hblank',
        hwords]
      simp_all [spaced]

theorem spaced_cons (w : List Char) (ws : List (List Char)) :
    spaced (w :: ws) = ' ' :: (w ++ spaced ws) := rfl

theorem intercalate_cons (w : List Char) (ws : List (List Char)) :
    [' '].intercalate (w :: ws) = w ++ spaced ws := by
  induction ws generalizing w with
  | nil => simp [spaced]
  | cons v ws ih => rw [List.intercalate_cons_cons, ih, spaced_cons, List.append_assoc]; rfl

/-- Before it is cut a sanitised text is made of the words. -/
theorem trimChars_collapse (s : List Char) :
    trimChars (collapse false (flatten s)) = [' '].intercalate (words s) := by
  change ((collapse false (flatten s)).dropWhile isBlank).rdropWhile isBlank = _
  have hwords := rdropWhile_collapse s
  rw [rdropWhile_cons_of_pos (by decide)] at hwords
  rw [dropWhile_collapse]
  cases hs : words s with
  | nil =>
      rw [hs] at hwords
      simpa [spaced] using hwords
  | cons w ws =>
      rw [hs, spaced_cons, ← intercalate_cons] at hwords
      split at hwords
      · cases hwords
      · exact (List.cons.inj hwords).2

theorem filter_intercalate (ws : List (List Char)) :
    ([' '].intercalate ws).filter (!isSeparator ·) = ws.flatten.filter (!isSeparator ·) := by
  have hspace : isSeparator ' ' = true := by decide
  have hspaced (ws : List (List Char)) :
      (spaced ws).filter (!isSeparator ·) = ws.flatten.filter (!isSeparator ·) := by
    induction ws with
    | nil => rfl
    | cons w ws ih => simp [spaced_cons, hspace, ih]
  cases ws with
  | nil => rfl
  | cons w ws => rw [intercalate_cons, List.filter_append, hspaced, List.flatten_cons, List.filter_append]

/-- A sanitised text is cut off the words of the text, joined by single spaces. The words are its longest
runs without a separator, so that before the cut all visible characters are there, in their order. -/
theorem sanitize_eq_words (limit : Int) (s : String) :
    (sanitize limit s).toList = sliceTo limit ([' '].intercalate (words s.toList)) ∧
      words s.toList = (s.toList.splitOnP isSeparator).filter (· ≠ []) ∧
      ([' '].intercalate (words s.toList)).filter (!isSeparator ·) =
        s.toList.filter (!isSeparator ·) := by
  refine ⟨?_, words_eq_filter_splitOnP s.toList, ?_⟩
  · rw [sanitize, String.toList_ofList, sanitizeChars, trimChars_collapse]
  · rw [filter_intercalate, flatten_words, List.filter_filter]
    simp only [Bool.and_self]

/-- A limit that counts from the end, and no character that is left of the controls. -/
example : sanitize (-2) "\u0001 ab\u2028\u200bc\td \n" = "ab \u200bc" := by decide

end KeepApart.Text
