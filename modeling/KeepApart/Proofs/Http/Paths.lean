import KeepApart.Http.Form
import KeepApart.Proofs.Digits

/-!
# Paths that name a record

The path made with the id of a record is that of reading the record, and the id is read off it again.
-/

namespace KeepApart.Http

open Schema Schema.Checked

namespace Destination

/-- The first route with the method that the path fits is taken. -/
theorem of_eq_found {method path : String} {r : Route} {parameters : List String}
    (hr : Route.all.find? (fun r => r.methods.contains method &&
      (Route.parameters? r.path (segments path)).isSome) = some r)
    (hparameters : Route.parameters? r.path (segments path) = some parameters) :
    Destination.of method path = .found (r.endpoint parameters) := by
  have hfits (r : Route) : ((Route.parameters? r.path (segments path)).map fun ps => (r, ps)).any
        (fun r => r.1.methods.contains method) =
      (r.methods.contains method && (Route.parameters? r.path (segments path)).isSome) := by
    cases Route.parameters? r.path (segments path) <;> simp
  have hfind : (fitting path).find? (fun r => r.1.methods.contains method) = some (r, parameters) := by
    rw [fitting, List.find?_filterMap, funext hfits, hr, Option.bind_some, hparameters]
    rfl
  unfold Destination.of
  dsimp only
  rw [hfind]

section Record

variable {id : String} (hslash : '/' ∉ id.toList)
include hslash

theorem segments_record :
    segments ("/api/v1/non-associations/" ++ id) = ["api", "v1", "non-associations", id] := by
  have hpath : ("/api/v1/non-associations/" ++ id).toList = ['/'].intercalate
      ["".toList, "api".toList, "v1".toList, "non-associations".toList, id.toList] := by
    simp [List.intercalate]
  rw [segments, Text.splitOn, hpath, List.splitOn_intercalate]
  · simp
  · simp [hslash]
  · simp

theorem of_record (hne : id ≠ "") :
    Destination.of "GET" ("/api/v1/non-associations/" ++ id) = .found (.operation (.find id)) := by
  have hempty : id.isEmpty = false := by simpa using hne
  have hparameters : Route.parameters? Route.all[7].path
      (segments ("/api/v1/non-associations/" ++ id)) = some [id] := by
    rw [segments_record hslash]
    change (if id.isEmpty then none else some [id]) = _
    rw [hempty]
    rfl
  refine of_eq_found (r := Route.all[7]) ?_ hparameters
  rw [List.find?_eq_some_iff_append]
  refine ⟨?_, Route.all.take 7, Route.all.drop 8, rfl, ?_⟩
  · rw [hparameters]
    rfl
  -- The one route before it that the path may fit does not have the method.
  · rw [segments_record hslash, ← List.all_eq_true]
    rfl

end Record

end Destination

theorem slash_not_mem_toString (n : Int) : '/' ∉ (toString n).toList := by
  have hdigits (n : Nat) : '/' ∉ Nat.toDigits 10 n :=
    fun hslash => absurd (isDigit_of_mem hslash) (by decide)
  rw [toList_toString]
  cases n with
  | ofNat n => exact hdigits n
  | negSucc n => exact List.not_mem_cons_of_ne_of_not_mem (by decide) (hdigits (n + 1))

theorem toString_ne_empty (n : Int) : toString n ≠ "" := by
  intro hempty
  have hlist : written n = [] := by rw [← toList_toString, hempty, String.toList_empty]
  cases n with
  | ofNat n => exact Nat.toDigits_ne_nil hlist
  | negSucc n => cases hlist

theorem recordId_toString {n : Int} (hn : fitsWord n = true) :
    Form.recordId (toString n) = accepted n := by
  rw [Form.recordId, integer_toString hn]
  rfl

end KeepApart.Http
