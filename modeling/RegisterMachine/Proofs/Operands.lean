import RegisterMachine.Instruction

set_option autoImplicit false

namespace RegisterMachine

def Word.NamesRegister (w : Word) : Prop := 0 ≤ w.toInt ∧ w.toInt < 8

def Instruction.NamesRegisters (i : Instruction) : Prop :=
  i.operands.r.NamesRegister ∧ i.operands.t.NamesRegister ∧
    (i.opcode.format = .registers → i.operands.s.NamesRegister)

theorem Register.word_names_register (r : Register) : r.toWord.NamesRegister := by
  have bound := r.isLt
  rw [Word.NamesRegister, Register.to_int_to_word]
  omega

theorem Word.names_register_iff (w : Word) : w.NamesRegister ↔ ∃ r : Register, r.toWord = w := by
  refine ⟨?_, ?_⟩
  · intro named
    obtain ⟨start, bound⟩ := named
    refine ⟨⟨w.toInt.toNat, by omega⟩, ?_⟩
    rw [← Int32.toInt_inj, Register.to_int_to_word]
    exact Int.toNat_of_nonneg start
  · intro named
    obtain ⟨r, rfl⟩ := named
    exact r.word_names_register

theorem Register.check_ok_iff (w : Word) (r : Register) : Register.check w = .ok r ↔ r.toWord = w := by
  rw [eq_comm (a := r.toWord), ← Register.of_word_some_iff, Register.check]
  cases Register.ofWord? w <;> simp

theorem Opcode.on_offset_format (op : OffsetOp) : (onOffset op).format ≠ .registers := by
  cases op <;> simp [format]

theorem Instruction.names_registers (i : Instruction) : i.NamesRegisters := by
  cases i with
  | registers op r s t =>
      exact ⟨r.word_names_register, t.word_names_register, fun _ => s.word_names_register⟩
  | offset op r s t =>
      refine ⟨r.word_names_register, t.word_names_register, fun format => ?_⟩
      exact absurd format (Opcode.on_offset_format op)

theorem except_bind_ok_iff {ε α β : Type} (first : Except ε α) (next : α → Except ε β) (b : β) :
    first >>= next = .ok b ↔ ∃ a, first = .ok a ∧ next a = .ok b := by
  cases first with
  | error e => simp [bind, Except.bind]
  | ok a => simp [bind, Except.bind]

theorem except_bind_error_iff {ε α β : Type} (first : Except ε α) (next : α → Except ε β) (e : ε) :
    first >>= next = .error e ↔ first = .error e ∨ ∃ a, first = .ok a ∧ next a = .error e := by
  cases first with
  | error e => simp [bind, Except.bind]
  | ok a => simp [bind, Except.bind]

theorem map_error_ok_iff {ε δ α : Type} (result : Except ε α) (change : ε → δ) (a : α) :
    result.mapError change = .ok a ↔ result = .ok a := by
  cases result with
  | error e =>
      refine ⟨?_, ?_⟩ <;> intro same <;> cases same
  | ok value =>
      refine ⟨?_, ?_⟩ <;> intro same <;> cases same <;> rfl

theorem map_error_error_iff {ε δ α : Type} (result : Except ε α) (change : ε → δ) (d : δ) :
    result.mapError change = .error d ↔ ∃ e, result = .error e ∧ change e = d := by
  cases result with
  | error e =>
      change Except.error (change e) = .error d ↔ _
      simp
  | ok value =>
      refine ⟨?_, ?_⟩
      · intro same
        cases same
      · intro found
        obtain ⟨_, same, -⟩ := found
        cases same

namespace Instruction

theorem check_operands_ok_iff (op : Opcode) (triple : Operands) (i : Instruction) :
    checkOperands op triple = .ok i ↔ i.opcode = op ∧ i.operands = triple := by
  obtain ⟨r, s, t⟩ := triple
  refine ⟨?_, ?_⟩
  · intro checked
    cases op with
    | onRegisters op =>
        simp only [checkOperands, except_bind_ok_iff, Register.check_ok_iff] at checked
        obtain ⟨_, rfl, _, rfl, _, rfl, same⟩ := checked
        cases same
        exact ⟨rfl, rfl⟩
    | onOffset op =>
        simp only [checkOperands, except_bind_ok_iff, Register.check_ok_iff] at checked
        obtain ⟨_, rfl, _, rfl, same⟩ := checked
        cases same
        exact ⟨rfl, rfl⟩
  · intro made
    obtain ⟨rfl, same⟩ := made
    rw [← same]
    exact (map_error_ok_iff _ _ i).mp (of_operands_operands i)

theorem check_error (w : Word) (e : OperandError) (failed : Register.check w = .error e) :
    ¬ w.NamesRegister ∧ e = .badRegister w := by
  rw [Word.names_register_iff]
  unfold Register.check at failed
  split at failed
  · cases failed
  · rename_i none
    cases failed
    refine ⟨?_, rfl⟩
    intro named
    obtain ⟨r, rfl⟩ := named
    rw [Register.of_word_to_word] at none
    cases none

theorem check_operands_error (op : Opcode) (triple : Operands) (e : OperandError)
    (failed : checkOperands op triple = .error e) :
    ∃ w, (w = triple.r ∨ w = triple.s ∨ w = triple.t) ∧ ¬ w.NamesRegister ∧ e = .badRegister w := by
  obtain ⟨r, s, t⟩ := triple
  cases op with
  | onRegisters op =>
      simp only [checkOperands, except_bind_error_iff, pure, Except.pure, reduceCtorEq, and_false,
        exists_false, or_false] at failed
      rcases failed with first | ⟨_, -, second | ⟨_, -, third⟩⟩
      · exact ⟨r, .inl rfl, check_error r e first⟩
      · exact ⟨s, .inr (.inl rfl), check_error s e second⟩
      · exact ⟨t, .inr (.inr rfl), check_error t e third⟩
  | onOffset op =>
      simp only [checkOperands, except_bind_error_iff, pure, Except.pure, reduceCtorEq, and_false,
        exists_false, or_false] at failed
      rcases failed with first | ⟨_, -, third⟩
      · exact ⟨r, .inl rfl, check_error r e first⟩
      · exact ⟨t, .inr (.inr rfl), check_error t e third⟩

theorem of_operands_ok_iff (op : Opcode) (triple : Operands) (i : Instruction) :
    ofOperands op triple = .ok i ↔ i.opcode = op ∧ i.operands = triple := by
  rw [ofOperands, map_error_ok_iff, check_operands_ok_iff]

theorem of_operands_error (op : Opcode) (triple : Operands) (e : DecodeError)
    (failed : ofOperands op triple = .error e) :
    ∃ w, (w = triple.r ∨ w = triple.s ∨ w = triple.t) ∧ ¬ w.NamesRegister ∧
      e = .invalidArguments op (String.ofList (op.writeOperands triple)) (.badRegister w) := by
  obtain ⟨reason, checked, rfl⟩ := (map_error_error_iff _ _ e).mp failed
  obtain ⟨w, inside, foreign, rfl⟩ := check_operands_error op triple reason checked
  exact ⟨w, inside, foreign, rfl⟩

end Instruction

end RegisterMachine
