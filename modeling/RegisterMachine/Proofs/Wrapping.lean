import Mathlib.Data.Int.ModEq
import RegisterMachine.Word

set_option autoImplicit false

namespace RegisterMachine.Word

def Represents (w : Word) (i : Int) : Prop := w.toInt ≡ i [ZMOD 2 ^ 32]

theorem represents_of_bmod (w : Word) (i : Int) (reduced : w.toInt = i.bmod (2 ^ 32)) :
    w.Represents i := by
  rw [Represents, reduced]
  exact Int.bmod_emod

theorem of_int_represents (i : Int) : Represents (Int32.ofInt i) i :=
  represents_of_bmod _ i Int32.toInt_ofInt

theorem represents_unique (v w : Word) (i : Int) (first : v.Represents i)
    (second : w.Represents i) : v = w := by
  have congruent : v.toInt ≡ w.toInt [ZMOD 2 ^ 32] := first.trans second.symm
  have least := least_le_to_int v
  have greatest := to_int_le_greatest v
  have least' := least_le_to_int w
  have greatest' := to_int_le_greatest w
  simp only [Int.ModEq, Word.least, Word.greatest] at *
  apply Int32.toInt_inj.mp
  omega

theorem represents_iff (w : Word) (i : Int) : w.Represents i ↔ w = Int32.ofInt i := by
  refine ⟨?_, ?_⟩
  · intro represents
    exact represents_unique w _ i represents (of_int_represents i)
  · intro same
    subst same
    exact of_int_represents i

theorem represents_exactly (w : Word) (i : Int) (represents : w.Represents i)
    (low : least ≤ i) (high : i ≤ greatest) : w.toInt = i := by
  rw [(represents_iff w i).mp represents, to_int_of_int i low high]

theorem represented_once (i : Int) : ∃! w : Word, w.Represents i :=
  ⟨Int32.ofInt i, of_int_represents i, fun w represents => (represents_iff w i).mp represents⟩

theorem add_represents (v w : Word) : (v + w).Represents (v.toInt + w.toInt) :=
  represents_of_bmod _ _ (Int32.toInt_add v w)

theorem sub_represents (v w : Word) : (v - w).Represents (v.toInt - w.toInt) :=
  represents_of_bmod _ _ (Int32.toInt_sub v w)

theorem mul_represents (v w : Word) : (v * w).Represents (v.toInt * w.toInt) :=
  represents_of_bmod _ _ (Int32.toInt_mul v w)

theorem div_represents (v w : Word) : (v / w).Represents (v.toInt.tdiv w.toInt) :=
  represents_of_bmod _ _ (Int32.toInt_div v w)

-- Words that do not go below zero add up to no less than each of them, unless the sum wraps; then
-- it is negative.
theorem add_forward (v w : Word) (left : 0 ≤ v.toInt) (right : 0 ≤ w.toInt) :
    (v + w).toInt < 0 ∨ w.toInt ≤ (v + w).toInt := by
  have congruent := add_represents v w
  have greatest := to_int_le_greatest v
  have greatest' := to_int_le_greatest w
  have least := least_le_to_int (v + w)
  simp only [Represents, Int.ModEq, Word.least, Word.greatest] at *
  omega

theorem add_beyond (v w : Word) (beyond : greatest < v.toInt + w.toInt) : (v + w).toInt < 0 := by
  have congruent := add_represents v w
  have first := to_int_le_greatest v
  have second := to_int_le_greatest w
  have last := to_int_le_greatest (v + w)
  simp only [Represents, Int.ModEq, Word.greatest] at *
  omega

end RegisterMachine.Word
