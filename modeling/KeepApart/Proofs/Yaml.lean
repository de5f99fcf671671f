import Mathlib.Tactic.Common
import KeepApart.Yaml.Value

/-!
# Numbers in a settings file

A number that is not a NaN can be compared with zero. A value without NaN has none in its fields, where
the value itself may stand for a mark.
-/

namespace KeepApart.Yaml.Value

inductive HasNoNaN : Value → Prop
  | null : HasNoNaN .null
  | bool (b : Bool) : HasNoNaN (.bool b)
  | int (n : Int) : HasNoNaN (.int n)
  | float {x : Float} : x.isNaN = false → HasNoNaN (.float x)
  | str (s : String) : HasNoNaN (.str s)
  | surrogates (codes : List Nat) : HasNoNaN (.surrogates codes)
  | octets (bytes : List UInt8) : HasNoNaN (.octets bytes)
  | date (d : Date) : HasNoNaN (.date d)
  | moment (t : Moment) (offset : Option Int) : HasNoNaN (.moment t offset)
  | list (mark : Option Nat) {items : List Value} : (∀ v ∈ items, HasNoNaN v) →
    HasNoNaN (.list mark items)
  | pair {first second : Value} : HasNoNaN first → HasNoNaN second → HasNoNaN (.pair first second)
  | set {items : List Value} : (∀ v ∈ items, HasNoNaN v) → HasNoNaN (.set items)
  | mapping (mark : Option Nat) {fields : List (Value × Value)} :
    (∀ f ∈ fields, HasNoNaN f.1) → (∀ f ∈ fields, HasNoNaN f.2) → HasNoNaN (.mapping mark fields)
  | again (mark : Nat) : HasNoNaN (.again mark)

/-- A number greater than zero, where truth values count as one and zero. -/
def IsPositive : Value → Prop
  | .int n => 0 < n
  | .bool b => b = true
  | .float x => 0 < x
  | _ => False

def IsNonnegative : Value → Prop
  | .int n => 0 ≤ n
  | .bool _ => True
  | .float x => 0 ≤ x
  | _ => False

def IsPortNumber : Value → Prop
  | .int n => 1 ≤ n ∧ n ≤ 65535
  | .bool b => b = true
  | _ => False

variable {v w whole : Value} {mark : Nat}

theorem eq_str_of_json {s : String} (h : v.json = .str s) : v = .str s := by
  cases v <;> rw [json] at h <;> cases h
  rfl

theorem mem_resolveItems {items : List Value} (h : w ∈ resolveItems mark whole items) :
    ∃ v ∈ items, resolve mark whole v = w := by
  induction items with
  | nil => cases h
  | cons v rest ih =>
      rcases List.mem_cons.1 h with rfl | h
      · exact ⟨v, List.mem_cons_self, rfl⟩
      · obtain ⟨u, hu, hw⟩ := ih h
        exact ⟨u, List.mem_cons_of_mem v hu, hw⟩

theorem mem_resolveFields {fields : List (Value × Value)} {e : Value × Value}
    (h : e ∈ resolveFields mark whole fields) :
    ∃ f ∈ fields, f.1 = e.1 ∧ resolve mark whole f.2 = e.2 := by
  induction fields with
  | nil => cases h
  | cons f rest ih =>
      rcases List.mem_cons.1 h with rfl | h
      · exact ⟨f, List.mem_cons_self, rfl, rfl⟩
      · obtain ⟨g, hg, he⟩ := ih h
        exact ⟨g, List.mem_cons_of_mem f hg, he⟩

/-- What stands for the mark brings no NaN with it. -/
theorem HasNoNaN.resolve (hv : v.HasNoNaN) (hwhole : whole.HasNoNaN) :
    (Value.resolve mark whole v).HasNoNaN := by
  induction hv with
  | again m =>
      rw [Value.resolve]
      split
      · exact hwhole
      · exact .again m
  | list m _ ih =>
      rw [Value.resolve]
      split
      · exact .list m ‹_›
      · refine .list m fun w hw => ?_
        obtain ⟨v, hv, rfl⟩ := mem_resolveItems hw
        exact ih v hv
  | pair _ _ ihFirst ihSecond =>
      rw [Value.resolve]
      exact .pair ihFirst ihSecond
  | set _ ih =>
      rw [Value.resolve]
      refine .set fun w hw => ?_
      obtain ⟨v, hv, rfl⟩ := mem_resolveItems hw
      exact ih v hv
  | mapping m hnames hvalues _ ih =>
      rw [Value.resolve]
      split
      · exact .mapping m hnames hvalues
      · refine .mapping m (fun e he => ?_) fun e he => ?_
        · obtain ⟨f, hf, hname, -⟩ := mem_resolveFields he
          exact hname ▸ hnames f hf
        · obtain ⟨f, hf, -, hvalue⟩ := mem_resolveFields he
          exact hvalue ▸ ih f hf
  | null => exact .null
  | bool b => exact .bool b
  | int n => exact .int n
  | float hx => exact .float hx
  | str s => exact .str s
  | surrogates codes => exact .surrogates codes
  | octets bytes => exact .octets bytes
  | date d => exact .date d
  | moment t offset => exact .moment t offset

theorem HasNoNaN.of_get? {name : String} (hv : v.HasNoNaN) (h : v.get? name = some w) :
    w.HasNoNaN := by
  have hwhole := hv
  cases hv with
  | mapping mark _ hvalues =>
      obtain ⟨f, hf, rfl⟩ := Option.map_eq_some_iff.1 h
      have hvalue := hvalues f (List.mem_of_find?_eq_some hf)
      cases mark with
      | none => exact hvalue
      | some m => exact hvalue.resolve hwhole
  | null | bool | int | float | str | surrogates | octets | date | moment | list | pair | set | again =>
      cases h

open Float.Model (UnpackedFloat)

/-- A double that is not a NaN can be compared with zero. -/
theorem compare_zero {x : Float} (hx : x.isNaN = false) :
    (x ≤ 0 ∨ 0 < x) ∧ (x < 0 ∨ 0 ≤ x) := by
  change x.toModel.unpack.isNaN = false at hx
  change (decide (x.toModel.unpack.le (.zero .positive) = true) = true ∨
      decide (UnpackedFloat.lt (.zero .positive) x.toModel.unpack = true) = true) ∧
    (decide (x.toModel.unpack.lt (.zero .positive) = true) = true ∨
      decide (UnpackedFloat.le (.zero .positive) x.toModel.unpack = true) = true)
  revert hx
  cases x.toModel.unpack with
  | notANumber => exact fun hx => absurd hx (by decide)
  | zero sign => exact fun _ => ⟨.inl rfl, .inr rfl⟩
  | infinity sign | finite sign =>
      cases sign with
      | positive => exact fun _ => ⟨.inr rfl, .inr rfl⟩
      | negative => exact fun _ => ⟨.inl rfl, .inl rfl⟩

end KeepApart.Yaml.Value
