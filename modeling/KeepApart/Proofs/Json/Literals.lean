import Mathlib.Data.List.Basic
import KeepApart.Json.Parser
import KeepApart.Json.Printer
import KeepApart.Proofs.Digits

/-!
# Reading texts and numbers that were written

A text is read back from between its quotes, and what is read has no half of a surrogate pair. An integer
is read back if it is not too long and nothing that goes on with a number follows it.
-/

namespace KeepApart.Json

variable {start : Nat} {seen : List Nat} {s rest tail : List Char} {c : Char} {limits : Limits}

/-! ## Texts -/

theorem hexValue?_hexDigit : ∀ d < 16, hexValue? (Text.hexDigit d) = some d := by decide

/-- Four hexadecimal digits are read as the number that they were written for. -/
theorem exists_hex {n : Nat} (hn : n < 65536) :
    ∃ a b c d, Text.hex 4 n = [a, b, c, d] ∧ unit? a b c d = some n := by
  refine ⟨_, _, _, _, rfl, ?_⟩
  have hdigit (k : Nat) : hexValue? (Text.hexDigit (k % 16)) = some (k % 16) :=
    hexValue?_hexDigit _ (Nat.mod_lt k (by decide))
  simp only [unit?, hdigit, Option.bind_eq_bind, Option.bind_some, Option.pure_def]
  congr 1
  omega

theorem unescapeLetter?_of_escapeLetter? {l : Char} (hl : escapeLetter? c = some l) :
    unescapeLetter? l = some c := by
  unfold escapeLetter? at hl
  split at hl <;> cases hl <;> rfl

theorem readUnits_letter {l : Char} (hl : unescapeLetter? l = some c) :
    readUnits start seen ('\\' :: l :: tail) = readUnits start (c.toNat :: seen) tail := by
  have hu : l ≠ 'u' := by
    rintro rfl
    cases hl
  rw [readUnits.eq_def]
  grind

theorem readUnits_unit {a b c d : Char} {u : Nat} (hu : unit? a b c d = some u) (htail : tail ≠ []) :
    readUnits start seen ('\\' :: 'u' :: a :: b :: c :: d :: tail) =
      readUnits start (u :: seen) tail := by
  rw [readUnits, hu]
  simp [htail]

theorem readUnits_visible (hquote : c ≠ '"') (hslash : c ≠ '\\') (hc : 0x20 ≤ c.toNat) :
    readUnits start seen (c :: tail) = readUnits start (c.toNat :: seen) tail := by
  rw [readUnits, if_neg (Nat.not_lt.2 hc)]
  · exact hquote
  · exact fun heq _ => hslash heq
  · exact fun _ _ _ _ _ heq _ => hslash heq
  · exact fun _ _ heq _ => hslash heq

theorem readUnits_escapeChar (start : Nat) (seen : List Nat) (c : Char) (htail : tail ≠ []) :
    readUnits start seen (escapeChar c ++ tail) = readUnits start (c.toNat :: seen) tail := by
  unfold escapeChar
  split
  · rename_i l hl
    exact readUnits_letter (unescapeLetter?_of_escapeLetter? hl)
  · rename_i hnone
    split
    · rename_i hcontrol
      obtain ⟨a, b, d, e, hhex, hunit⟩ := exists_hex (show c.toNat < 65536 by omega)
      rw [hhex]
      exact readUnits_unit hunit htail
    · rename_i hvisible
      apply readUnits_visible
      · rintro rfl
        cases hnone
      · rintro rfl
        cases hnone
      · omega

theorem readUnits_text (start : Nat) (seen : List Nat) (s rest : List Char) :
    readUnits start seen (s.flatMap escapeChar ++ '"' :: rest) =
      .ok (seen.reverse ++ s.map Char.toNat, rest) := by
  induction s generalizing seen with
  | nil => simp [readUnits]
  | cons c s ih =>
      rw [List.flatMap_cons, List.append_assoc, readUnits_escapeChar start seen c (by simp), ih]
      simp

/-- No character is half of a surrogate pair. -/
theorem isSurrogate_toNat (c : Char) : isSurrogate c.toNat = false := by
  have hvalid := c.valid
  simp only [isSurrogate, Bool.and_eq_false_iff, decide_eq_false_iff_not]
  rcases hvalid with h | h
  · exact .inl (by change ¬ 0xD800 ≤ c.val.toNat; omega)
  · exact .inr (by change ¬ c.val.toNat ≤ 0xDFFF; omega)

theorem joinUnits_of_whole {units : List Nat} (h : ∀ u ∈ units, isSurrogate u = false) :
    joinUnits units = units := by
  fun_induction joinUnits units with
  | case1 | case2 => rfl
  | case3 u v rest hpair ih =>
      have hu := h u List.mem_cons_self
      simp only [isHighUnit, isSurrogate, Bool.and_eq_true, Bool.and_eq_false_iff, decide_eq_true_eq,
        decide_eq_false_iff_not] at hpair hu
      omega
  | case4 u v rest _ ih => rw [ih fun w hw => h w (List.mem_cons_of_mem u hw)]

theorem readCodes_text (s rest : List Char) :
    readCodes (s.flatMap escapeChar ++ '"' :: rest) = .ok (s.map Char.toNat, rest) := by
  have hwhole : ∀ u ∈ s.map Char.toNat, isSurrogate u = false := by
    intro u hu
    obtain ⟨c, -, rfl⟩ := List.mem_map.1 hu
    exact isSurrogate_toNat c
  rw [readCodes, readUnits_text]
  change Except.ok (joinUnits (s.map Char.toNat), rest) = _
  rw [joinUnits_of_whole hwhole]

theorem ofCodes_toNat (s : String) : ofCodes (s.toList.map Char.toNat) = .str s := by
  have hany : (s.toList.map Char.toNat).any isSurrogate = false := by
    simp [isSurrogate_toNat]
  have hback : Char.ofNat ∘ Char.toNat = id := funext Char.ofNat_toNat
  rw [ofCodes, hany, if_neg Bool.false_ne_true, List.map_map, hback, List.map_id, String.ofList_toList]

/-! ## Numbers -/

/-- Nothing that goes on with a number, a name or a text. -/
def Ends (rest : List Char) : Prop :=
  ∀ c ∈ rest.head?, c = ',' ∨ c = ']' ∨ c = '}'

theorem Ends.takeWhile_append (hrest : Ends rest) (hs : ∀ c ∈ s, c.isDigit = true) :
    (s ++ rest).takeWhile isAsciiDigit = s := by
  have hnone : rest.takeWhile isAsciiDigit = [] := by
    cases rest with
    | nil => rfl
    | cons c rest =>
        apply List.takeWhile_cons_of_neg
        rcases hrest c rfl with rfl | rfl | rfl <;> decide
  rw [List.takeWhile_append_of_pos (p := isAsciiDigit) hs, hnone, List.append_nil]

theorem Ends.readFraction (hrest : Ends rest) : readFraction rest = ([], rest) := by
  cases rest with
  | nil => rfl
  | cons c rest => rcases hrest c rfl with rfl | rfl | rfl <;> rfl

theorem Ends.readExponent (hrest : Ends rest) : readExponent rest = (none, rest) := by
  cases rest with
  | nil => rfl
  | cons c rest => rcases hrest c rfl with rfl | rfl | rfl <;> rfl

theorem digitsValue_toDigits (n : Nat) : digitsValue (Nat.toDigits 10 n) = n := by
  have hvalue (s : List Char) (n : Nat) :
      s.foldl (fun n c => n * 10 + (c.toNat - 48)) n = Nat.ofDigitChars 10 s n := by
    induction s generalizing n with
    | nil => rfl
    | cons c s ih => rw [List.foldl_cons, ih, Nat.ofDigitChars_cons, Nat.mul_comm 10 n]; rfl
  rw [digitsValue, hvalue, Nat.ofDigitChars_ten_toDigits]

theorem Ends.leadingDigits (hrest : Ends rest) (k : Nat) :
    leadingDigits (Nat.toDigits 10 k ++ rest) = Nat.toDigits 10 k := by
  rcases Schema.toDigits_cases k with hzero | ⟨c, more, hdigits, hc⟩
  · rw [hzero]
    rfl
  · have htake := hrest.takeWhile_append fun c => Schema.isDigit_of_mem (n := k)
    rw [hdigits] at htake ⊢
    unfold Json.leadingDigits
    split
    · rename_i heq
      exact absurd (List.cons.inj heq).1 hc
    · exact htake

theorem readNumber_digits (k : Nat) (hrest : Ends rest)
    (hk : limits.isLong (Nat.toDigits 10 k).length = false) :
    readNumber limits (Nat.toDigits 10 k ++ rest) = .ok (.int k, rest) ∧
      readNumber limits ('-' :: (Nat.toDigits 10 k ++ rest)) = .ok (.int (-k), rest) := by
  have hempty : (Nat.toDigits 10 k).isEmpty = false := by simp [Nat.toDigits_ne_nil]
  have hsign : ((Nat.toDigits 10 k ++ rest).head? == some '-') = false := by
    rw [List.head?_append_of_ne_nil _ Nat.toDigits_ne_nil, beq_eq_false_iff_ne]
    intro hhead
    exact absurd (Schema.isDigit_of_mem (List.mem_of_head? hhead)) (by decide)
  constructor
  · simp only [readNumber, hsign, Bool.false_eq_true, if_false, hrest.leadingDigits, hempty,
      List.drop_left, hrest.readFraction, hrest.readExponent, List.isEmpty_nil, Option.isNone_none,
      Bool.and_self, if_true, hk, digitsValue_toDigits]
  · simp only [readNumber, List.head?_cons, BEq.rfl, if_true, List.drop_succ_cons, List.drop_zero,
      hrest.leadingDigits, hempty, Bool.false_eq_true, if_false, List.drop_left,
      hrest.readFraction, hrest.readExponent, List.isEmpty_nil, Option.isNone_none, Bool.and_self, hk,
      digitsValue_toDigits]

/-- Names begin with letters, so what begins with a digit, perhaps behind a sign, is read as a number. -/
theorem readWord_of_digit {d : Char} (hd : d.isDigit = true) (more : List Char) :
    readWord limits (d :: more) = readNumber limits (d :: more) ∧
      readWord limits ('-' :: d :: more) = readNumber limits ('-' :: d :: more) := by
  constructor
  · rw [readWord]
    all_goals exact fun _ heq => absurd hd (by cases heq; decide)
  · rw [readWord]
    all_goals exact fun _ heq => absurd hd (by cases heq <;> decide)

theorem readWord_written (n : Int) (hrest : Ends rest)
    (hn : limits.isLong (Nat.toDigits 10 n.natAbs).length = false) :
    readWord limits (Schema.written n ++ rest) = .ok (.int n, rest) := by
  obtain ⟨d, more, hdigits⟩ := List.exists_cons_of_ne_nil (Nat.toDigits_ne_nil (b := 10) (n := n.natAbs))
  have hd : d.isDigit = true := Schema.isDigit_of_mem (hdigits ▸ List.mem_cons_self)
  obtain ⟨hplain, hnegative⟩ := readNumber_digits n.natAbs hrest hn
  rw [hdigits] at hplain hnegative
  cases n with
  | ofNat k =>
      rw [Schema.written, show Nat.toDigits 10 k = d :: more from hdigits]
      exact (readWord_of_digit hd _).1.trans hplain
  | negSucc k =>
      rw [Schema.written, show Nat.toDigits 10 (k + 1) = d :: more from hdigits]
      exact (readWord_of_digit hd _).2.trans hnegative

end KeepApart.Json
