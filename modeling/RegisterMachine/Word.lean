set_option autoImplicit false

namespace RegisterMachine

abbrev Word := Int32

namespace Word

def least : Int := -2147483648

def greatest : Int := 2147483647

def ofInt? (i : Int) : Option Word :=
  if least ≤ i ∧ i ≤ greatest then some (Int32.ofInt i) else none

def index? (w : Word) : Option Nat :=
  if 0 ≤ w.toInt then some w.toInt.toNat else none

theorem least_le_to_int (w : Word) : least ≤ w.toInt := by
  simpa [least] using Int32.le_toInt w

theorem to_int_le_greatest (w : Word) : w.toInt ≤ greatest := by
  have bound := Int32.toInt_lt w
  simp only [greatest]
  omega

theorem to_int_of_int (i : Int) (low : least ≤ i) (high : i ≤ greatest) :
    (Int32.ofInt i).toInt = i := by
  simp only [least, greatest] at low high
  rw [Int32.toInt_ofInt, Int.bmod_eq_of_le] <;> simp [Int32.size] <;> omega

theorem of_int_to_int (w : Word) : ofInt? w.toInt = some w := by
  rw [ofInt?, if_pos ⟨least_le_to_int w, to_int_le_greatest w⟩, Int32.ofInt_toInt]

theorem of_int_some_iff (i : Int) (w : Word) : ofInt? i = some w ↔ w.toInt = i := by
  refine ⟨?_, ?_⟩
  · intro found
    by_cases range : least ≤ i ∧ i ≤ greatest
    · rw [ofInt?, if_pos range, Option.some.injEq] at found
      rw [← found, to_int_of_int i range.1 range.2]
    · rw [ofInt?, if_neg range] at found
      cases found
  · intro same
    subst same
    exact of_int_to_int w

theorem index_some_iff (w : Word) (n : Nat) : index? w = some n ↔ w.toInt = n := by
  by_cases start : 0 ≤ w.toInt
  · rw [index?, if_pos start, Option.some.injEq]
    omega
  · rw [index?, if_neg start]
    simp only [reduceCtorEq, false_iff]
    omega

theorem index_none_iff (w : Word) : index? w = none ↔ w.toInt < 0 := by
  by_cases start : 0 ≤ w.toInt
  · rw [index?, if_pos start]
    simp only [reduceCtorEq, false_iff]
    omega
  · rw [index?, if_neg start]
    simp only [true_iff]
    omega

end Word

end RegisterMachine
