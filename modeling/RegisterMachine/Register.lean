import RegisterMachine.Word

set_option autoImplicit false

namespace RegisterMachine

abbrev Register := Fin 8

namespace Register

def count : Nat := 8

def first : Register := ⟨0, by decide⟩

def programCounter : Register := ⟨7, by decide⟩

def toWord (r : Register) : Word := Int32.ofNat r.val

def ofWord? (w : Word) : Option Register :=
  match w.index? with
  | some i => if inside : i < 8 then some ⟨i, inside⟩ else none
  | none => none

theorem to_int_to_word (r : Register) : r.toWord.toInt = r.val := by
  revert r
  decide

theorem of_word_some_iff (w : Word) (r : Register) : ofWord? w = some r ↔ w = r.toWord := by
  rw [← Int32.toInt_inj, to_int_to_word]
  unfold ofWord?
  cases found : w.index? with
  | none =>
      rw [Word.index_none_iff] at found
      simp only [reduceCtorEq, false_iff]
      omega
  | some i =>
      rw [Word.index_some_iff] at found
      by_cases inside : i < 8
      · simp only [inside, ↓reduceDIte, Option.some.injEq, Fin.ext_iff]
        omega
      · simp only [inside, ↓reduceDIte, reduceCtorEq, false_iff]
        have := r.isLt
        omega

@[simp] theorem of_word_to_word (r : Register) : ofWord? r.toWord = some r :=
  (of_word_some_iff _ _).mpr rfl

end Register

end RegisterMachine
