import Mathlib.Tactic.Common
import KeepApart.Schema.PrisonerNumber

/-!
# What checks accept

For every way to make one check of others there is one equivalence that says what it accepts. A form is
taken apart by rewriting with these.
-/

namespace KeepApart.Schema

namespace Checked

variable {α β : Type} {x : Checked α} {a : α} {b : β}

theorem pure_eq_accepted {a' : α} : (pure a : Checked α) = accepted a' ↔ a = a' := by
  change accepted a = accepted a' ↔ _
  rw [accepted.injEq]

theorem map_eq_accepted {f : α → β} : f <$> x = accepted b ↔ ∃ a, x = accepted a ∧ f a = b := by
  change map f x = accepted b ↔ _
  cases x <;> simp [map]

theorem seq_eq_accepted {f : Checked (α → β)} :
    f <*> x = accepted b ↔ ∃ g a, f = accepted g ∧ x = accepted a ∧ g a = b := by
  change seq f (fun _ => x) = accepted b ↔ _
  cases f <;> cases x <;> simp [seq]

theorem andThen_eq_accepted {next : α → Checked β} :
    x.andThen next = accepted b ↔ ∃ a, x = accepted a ∧ next a = accepted b := by
  cases x <;> simp [andThen]

theorem under_eq_accepted {part : String} : x.under part = accepted a ↔ x = accepted a := by
  cases x <;> simp [under]

theorem refuse_ne_accepted {message : String} {v : Json} : refuse message v ≠ accepted a := nofun

end Checked

open Checked

variable {α : Type} {check : Check α} {fields : List (String × Json)} {field : String} {v : Json}
variable {a : α} {s : String}

theorem required_eq_accepted : required fields field check = accepted a ↔
    ∃ v, field? fields field = some v ∧ check v = accepted a := by
  unfold required
  cases field? fields field <;> simp [under_eq_accepted]

theorem exists_of_optional (h : optional fields field (nullable check) none = accepted (some a)) :
    ∃ v, check v = accepted a := by
  unfold optional at h
  split at h
  · rename_i v _
    rw [under_eq_accepted] at h
    unfold nullable at h
    split at h
    · cases h
    · obtain ⟨a', hcheck, ha⟩ := map_eq_accepted.1 h
      obtain rfl := Option.some.inj ha
      exact ⟨v, hcheck⟩
  · cases h

theorem text_eq_accepted : text v = accepted s ↔ v = .str s := by
  cases v <;> simp [text, refuse_ne_accepted]

theorem filledText_eq_accepted : filledText v = accepted s ↔ v = .str s ∧ s ≠ "" := by
  simp only [filledText, andThen_eq_accepted, text_eq_accepted]
  constructor
  · rintro ⟨t, rfl, h⟩
    split at h
    · exact absurd h refuse_ne_accepted
    · rename_i hne
      cases h
      exact ⟨rfl, mt String.isEmpty_iff.2 hne⟩
  · rintro ⟨rfl, hne⟩
    exact ⟨s, rfl, if_neg (mt String.isEmpty_iff.1 hne)⟩

theorem name_eq_accepted :
    name v = accepted s ↔ v = .str s ∧ s ≠ "" ∧ s.length ≤ nameLimit := by
  simp only [name, andThen_eq_accepted, text_eq_accepted]
  constructor
  · rintro ⟨t, rfl, h⟩
    split at h
    · exact absurd h refuse_ne_accepted
    · rename_i hlong
      obtain ⟨heq, hne⟩ := filledText_eq_accepted.1 h
      cases heq
      exact ⟨rfl, hne, Nat.not_lt.1 hlong⟩
  · rintro ⟨rfl, hne, hlong⟩
    refine ⟨s, rfl, ?_⟩
    rw [if_neg (Nat.not_lt.2 hlong)]
    exact filledText_eq_accepted.2 ⟨rfl, hne⟩

theorem prisonerNumber_eq_accepted :
    prisonerNumber v = accepted s ↔ v = .str s ∧ isPrisonerNumber s = true := by
  simp only [prisonerNumber, andThen_eq_accepted, text_eq_accepted]
  constructor
  · rintro ⟨t, rfl, h⟩
    split at h
    · cases h
      exact ⟨rfl, ‹_›⟩
    · exact absurd h refuse_ne_accepted
  · rintro ⟨rfl, hs⟩
    exact ⟨s, rfl, if_pos hs⟩

theorem isPrisonerNumber_of_required (h : required fields field prisonerNumber = accepted s) :
    isPrisonerNumber s = true := by
  obtain ⟨v, -, hv⟩ := required_eq_accepted.1 h
  exact (prisonerNumber_eq_accepted.1 hv).2

end KeepApart.Schema
