import Dataset.Proofs.Number.Order
import Dataset.Store.Cell

/-!
# The order of values

Values of all classes stand in one order: no value comes before the numbers, these before the texts, and
texts before blobs. Numbers of both classes are compared by what they are, so one integer and one real
number may be equal in this order, and texts and blobs are compared by their bytes.

* `Cell.number`, `Cell.chars`, `Cell.bytes`: what a value is compared by in its class;
* **`Cell.cmp_eq`**: the order looks at the class first and then at these; hence it is total and
  transitive, and every value is equal to itself;
* `Cell.eq_of_cmp_int`: no two integers are as large as one value.
-/

namespace Dataset.Store

open Number (Double)

namespace Cell

/-! ## 1. What is compared -/

/-- What a number is compared by; the same for all values that are no numbers. -/
def number : Cell → Double
  | int n => Double.ofInteger n
  | real r => r
  | _ => Double.zero

/-- What a text is compared by; the same for all values that are no texts. -/
def chars : Cell → String
  | text s => s
  | _ => ""

/-- What a blob is compared by; the same for all values that are no blobs. -/
def bytes : Cell → List UInt8
  | blob b => b
  | _ => []

/-! ## 2. The order -/

/-- Values of two classes stand in the order of the classes. -/
theorem cmp_of_apart {a b : Cell} (apart : a.rank ≠ b.rank) : a.cmp b = compare a.rank b.rank := by
  cases a <;> cases b <;> first | rfl | exact absurd rfl apart

/-- Values of one class stand in the order of that class. -/
theorem cmp_of_alike {a b : Cell} (alike : a.rank = b.rank) :
    a.cmp b = (a.number.cmp b.number).then
      ((compare a.chars b.chars).then (compare a.bytes b.bytes)) := by
  have same (r : Double) : r.cmp r = .eq := Std.ReflCmp.compare_self
  have swapped (m : Int) (r : Double) : ((Double.ofInteger m).cmp r).swap = r.cmp (Double.ofInteger m) :=
    Std.OrientedCmp.eq_swap.symm
  cases a <;> cases b <;> cases alike
  case int.int m n => simp [cmp, number, chars, bytes, Double.cmp_ofInteger]
  case real.int r n => simp [cmp, number, chars, bytes, Double.cmpInt_eq, swapped]
  all_goals simp [cmp, number, chars, bytes, Double.cmpInt_eq, same]

/-- **Values stand in the order of their classes, and those of one class in its order.** -/
theorem cmp_eq (a b : Cell) :
    a.cmp b = (compare a.rank b.rank).then ((a.number.cmp b.number).then
      ((compare a.chars b.chars).then (compare a.bytes b.bytes))) := by
  by_cases alike : a.rank = b.rank
  · rw [cmp_of_alike alike, alike, Std.ReflOrd.compare_self]
    rfl
  · rw [cmp_of_apart alike]
    rcases Nat.lt_or_gt_of_ne alike with less | more
    · rw [compare_lt_iff_lt.2 less]
      rfl
    · rw [compare_gt_iff_gt.2 more]
      rfl

/-- The order is total and transitive. -/
instance : Std.TransCmp cmp := by
  have numbers : Std.TransCmp fun a b : Cell => a.number.cmp b.number :=
    { eq_swap := Std.OrientedCmp.eq_swap, isLE_trans := Std.TransCmp.isLE_trans }
  have lex : cmp = compareLex (compareOn rank) (compareLex (fun a b => a.number.cmp b.number)
      (compareLex (compareOn chars) (compareOn bytes))) := funext₂ cmp_eq
  rw [lex]
  infer_instance

/-- Integers that are as large as one value are equal. -/
theorem eq_of_cmp_int {m n : Int} {c : Cell} (hm : (int m).cmp c = .eq) (hn : (int n).cmp c = .eq) :
    m = n := by
  have same : (int m).cmp (int n) = .eq := Std.TransCmp.eq_trans hm (Std.OrientedCmp.eq_symm hn)
  exact Std.compare_eq_iff_eq.1 same

end Cell

end Dataset.Store
