import Mathlib.Data.List.TakeWhile
import Mathlib.Tactic.Common
import KeepApart.Proofs.Schema
import KeepApart.Schema.Number

/-!
# Integers as they are written out

The text into which an integer is written out has nothing in it that may be passed over, so it is
accepted as the integer. Only the length of a text sets a limit.
-/

namespace KeepApart.Schema

open Checked

variable {cs : List Char} {c : Char} {n : Nat}

/-! ## What digits are not -/

theorem isWhite_of_isDigit (hc : c.isDigit = true) : Text.isWhite c = false := by
  have hrange : 48 ≤ c.toNat ∧ c.toNat ≤ 57 := Char.isDigit_iff_toNat.1 hc
  have hblank : Text.isBlank c = false := by
    simp only [Text.isBlank, Text.inRanges, Text.blankRanges, List.any_cons, List.any_nil,
      Bool.or_false, Bool.or_eq_false_iff, Bool.and_eq_false_iff, decide_eq_false_iff_not]
    omega
  rw [Text.isWhite, hblank, Bool.false_and]

theorem dropWhile_eq_self {p : Char → Bool} (h : ∀ c ∈ cs, p c = false) : cs.dropWhile p = cs := by
  cases cs with
  | nil => rfl
  | cons c cs =>
      apply List.dropWhile_cons_of_neg
      simp [h c List.mem_cons_self]

theorem trimBy_eq_self {drop : Char → Bool} (h : ∀ c ∈ cs, drop c = false) :
    Text.trimBy drop cs = cs := by
  have hreverse : ∀ c ∈ cs.reverse, drop c = false := fun c hc => h c (List.mem_reverse.1 hc)
  rw [Text.trimBy, dropWhile_eq_self h, dropWhile_eq_self hreverse, List.reverse_reverse]

theorem dropZeroFraction_eq_self (h : '.' ∉ cs) : dropZeroFraction cs = cs := by
  have hnone : cs.dropWhile (· != '.') = [] := by
    rw [List.dropWhile_eq_nil_iff]
    intro c hc
    rw [bne_iff_ne]
    rintro rfl
    exact h hc
  rw [dropZeroFraction, hnone]
  rfl

theorem dropUnderscores_eq_self (h : '_' ∉ cs) : dropUnderscores cs = some cs := by
  fun_induction dropUnderscores cs with
  | case1 | case3 => rfl
  | case2 | case4 | case5 => simp at h
  | case6 c rest _ _ _ ih =>
      rw [ih fun hmem => h (List.mem_cons_of_mem c hmem)]
      rfl

/-! ## The value of digits -/

theorem le_and_le_of_isDigit (hc : c.isDigit = true) : '0' ≤ c ∧ c ≤ '9' := by
  simpa [Char.isDigit, Char.le_def] using hc

theorem asciiNat?_eq_ofDigitChars (hne : cs ≠ []) (h : ∀ c ∈ cs, c.isDigit = true) :
    Text.asciiNat? cs = some (Nat.ofDigitChars 10 cs 0) := by
  have hfold (n : Nat) (cs : List Char) (h : ∀ c ∈ cs, c.isDigit = true) :
      cs.foldlM (fun n c => (Text.asciiDigit? c).map fun d => n * 10 + d) n =
        some (Nat.ofDigitChars 10 cs n) := by
    induction cs generalizing n with
    | nil => rfl
    | cons c cs ih =>
        have hdigit : Text.asciiDigit? c = some (c.toNat - '0'.toNat) :=
          if_pos (le_and_le_of_isDigit (h c List.mem_cons_self))
        rw [List.foldlM_cons, hdigit, Nat.ofDigitChars_cons, Nat.mul_comm 10 n,
          ← ih _ fun c' hc' => h c' (List.mem_cons_of_mem _ hc')]
        rfl
  have hempty : cs.isEmpty = false := by simpa using hne
  rw [Text.asciiNat?, hempty, if_neg Bool.false_ne_true]
  exact hfold 0 cs h

theorem isDigit_of_mem (hc : c ∈ Nat.toDigits 10 n) : c.isDigit = true :=
  Nat.isDigit_of_mem_toDigits (by decide) (by decide) hc

theorem toDigits_ne_cons (hc : c.isDigit = false) : Nat.toDigits 10 n ≠ c :: cs := by
  intro heq
  rw [isDigit_of_mem (heq ▸ List.mem_cons_self)] at hc
  cases hc

/-- The digits of a number start with a zero only if the number is zero. -/
theorem toDigits_cases (n : Nat) : Nat.toDigits 10 n = ['0'] ∨
    ∃ c rest, Nat.toDigits 10 n = c :: rest ∧ c ≠ '0' := by
  induction n using Nat.strongRecOn with
  | ind n ih =>
      rw [Nat.toDigits_eq_if (by decide)]
      split
      · by_cases hzero : n = 0
        · rw [hzero]
          exact .inl rfl
        · exact .inr ⟨_, [], rfl, mt Nat.digitChar_eq_zero.1 hzero⟩
      · rename_i hlarge
        rcases ih (n / 10) (by omega) with hzero | ⟨c, rest, hdigits, hc⟩
        · have hvalue : Nat.ofDigitChars 10 (Nat.toDigits 10 (n / 10)) 0 = 0 := by
            rw [hzero]
            rfl
          rw [Nat.ofDigitChars_ten_toDigits] at hvalue
          omega
        · rw [hdigits]
          exact .inr ⟨c, _, rfl, hc⟩

/-! ## Integers -/

theorem dropLeadingZeros_toDigits :
    dropLeadingZeros (Nat.toDigits 10 n) = some (Nat.toDigits 10 n) := by
  rcases toDigits_cases n with hzero | ⟨c, rest, hdigits, hc⟩
  · rw [hzero]
    rfl
  · have hmem : c ∈ Nat.toDigits 10 n := hdigits ▸ List.mem_cons_self
    have hrange : 48 ≤ c.toNat ∧ c.toNat ≤ 57 := Char.isDigit_iff_toNat.1 (isDigit_of_mem hmem)
    have hpositive : '1' ≤ c := by
      have hne : c.toNat ≠ '0'.toNat := mt Char.toNat_inj.1 hc
      change c.toNat ≠ 48 at hne
      rw [Char.le_def, UInt32.le_iff_toNat_le]
      change 49 ≤ c.toNat
      omega
    rw [hdigits, dropLeadingZeros]
    · simp [hpositive, (le_and_le_of_isDigit (isDigit_of_mem hmem)).2]
    · exact hc

theorem bareDigits?_toDigits : bareDigits? (Nat.toDigits 10 n) = some (Nat.toDigits 10 n) := by
  have hpoint : '.' ∉ Nat.toDigits 10 n := fun hc => absurd (isDigit_of_mem hc) (by decide)
  rw [bareDigits?, dropLeadingZeros_toDigits, Option.bind_some, dropZeroFraction_eq_self hpoint,
    dropUnderscores_eq_self Nat.underscore_not_in_toDigits]

theorem plainNat?_toDigits : plainNat? (Nat.toDigits 10 n) = some n := by
  have hhead : ((Nat.toDigits 10 n).head? == some '0' && Nat.toDigits 10 n != ['0']) = false := by
    rcases toDigits_cases n with hzero | ⟨c, rest, hdigits, hc⟩
    · rw [hzero]
      rfl
    · simp [hdigits, hc]
  rw [plainNat?, hhead, if_neg Bool.false_ne_true,
    asciiNat?_eq_ofDigitChars Nat.toDigits_ne_nil fun c => isDigit_of_mem, Nat.ofDigitChars_ten_toDigits]

def written : Int → List Char
  | .ofNat n => Nat.toDigits 10 n
  | .negSucc n => '-' :: Nat.toDigits 10 (n + 1)

theorem toList_toString (n : Int) : (toString n).toList = written n := by
  rw [Int.toString_eq_repr]
  cases n with
  | ofNat n => exact Nat.toList_repr
  | negSucc n =>
      change ("-" ++ (n + 1).repr).toList = _
      rw [String.toList_append, Nat.toList_repr]
      rfl

theorem bareInteger?_toString (n : Int) : bareInteger? (toString n) = some (written n) := by
  have hwhite : ∀ c ∈ written n, Text.isWhite c = false := by
    intro c hc
    cases n with
    | ofNat n => exact isWhite_of_isDigit (isDigit_of_mem hc)
    | negSucc n =>
        rcases List.mem_cons.1 hc with rfl | hc
        · decide
        · exact isWhite_of_isDigit (isDigit_of_mem hc)
  rw [bareInteger?, toList_toString, trimBy_eq_self hwhite]
  cases n with
  | ofNat n =>
      dsimp only [written]
      split
      · rename_i heq
        exact absurd heq (toDigits_ne_cons (by decide))
      · rename_i heq
        exact absurd heq (toDigits_ne_cons (by decide))
      · exact bareDigits?_toDigits
  | negSucc n =>
      change (bareDigits? (Nat.toDigits 10 (n + 1))).map ('-' :: ·) = _
      rw [bareDigits?_toDigits]
      rfl

theorem integerOfBare?_written (n : Int) : integerOfBare? (written n) = some n := by
  cases n with
  | ofNat n =>
      dsimp only [written]
      unfold integerOfBare?
      split
      · rename_i heq
        exact absurd heq (toDigits_ne_cons (by decide))
      · rw [plainNat?_toDigits]
        rfl
  | negSucc n =>
      simp only [written, integerOfBare?, plainNat?_toDigits]
      rfl

theorem length_written_le {n : Int} (hn : fitsWord n = true) : (written n).length ≤ bareLimit := by
  have hdigits {k : Nat} (hk : k ≤ 9223372036854775808) : (Nat.toDigits 10 k).length ≤ 20 := by
    apply (Nat.length_toDigits_le_iff (by decide) (by decide)).2
    omega
  have hlimit : 21 ≤ bareLimit := by decide
  have habs : n.natAbs ≤ 9223372036854775808 := by
    simp only [fitsWord, Bool.and_eq_true, decide_eq_true_eq] at hn
    omega
  cases n with
  | ofNat n =>
      have hlength : (written (.ofNat n)).length ≤ 20 := hdigits habs
      omega
  | negSucc n =>
      have hlength : (written (.negSucc n)).length ≤ 20 + 1 := Nat.succ_le_succ (hdigits habs)
      omega

/-- What is written out for an integer of 64 bits is accepted as the integer. -/
theorem integer_toString {n : Int} (hn : fitsWord n = true) :
    integer (.str (toString n)) = accepted n := by
  change integerOfText _ _ = _
  rw [integerOfText, bareInteger?_toString]
  dsimp only
  rw [if_neg (Nat.not_lt.2 (length_written_le hn)), integerOfBare?_written]

end KeepApart.Schema
