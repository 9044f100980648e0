import RegisterMachine.Proofs.Grammar

set_option autoImplicit false

namespace RegisterMachine

open Numeral Text

theorem mnemonic_nonempty (op : Opcode) : op.mnemonic.toList ≠ [] := by
  have all : ∀ op ∈ Opcode.all, op.mnemonic.toList ≠ [] := by decide
  exact all op (Opcode.mem_all op)

theorem mnemonic_alphanumeric (op : Opcode) : ∀ c ∈ op.mnemonic.toList, c.isAlphanum = true := by
  have all : ∀ op ∈ Opcode.all, op.mnemonic.toList.all Char.isAlphanum = true := by decide
  exact List.all_eq_true.mp (all op (Opcode.mem_all op))

theorem mnemonic_solid (op : Opcode) : Solid op.mnemonic.toList := by
  intro c inside
  apply is_blank_of_alphanum
  exact mnemonic_alphanumeric op c inside

theorem written_word_solid (w : Word) : Solid w.write := literal_solid _ _ w.write_literal

theorem written_word_no_comma (w : Word) : ',' ∉ w.write := comma_not_in_literal _ _ w.write_literal

theorem written_operands_solid (op : Opcode) (operands : Operands) :
    Solid (op.writeOperands operands) := by
  obtain ⟨r, s, t⟩ := operands
  have first := written_word_solid r
  have second := written_word_solid s
  have third := written_word_solid t
  have delimiters : isBlank ',' = false ∧ isBlank '(' = false ∧ isBlank ')' = false := by decide
  cases op with
  | onRegisters op =>
      simp only [Solid, Opcode.writeOperands, List.forall_mem_append, List.forall_mem_cons]
      exact ⟨⟨first, delimiters.1, second⟩, delimiters.1, third⟩
  | onOffset op =>
      simp only [Solid, Opcode.writeOperands, List.forall_mem_append, List.forall_mem_cons,
        List.not_mem_nil, false_imp_iff, implies_true, and_true]
      exact ⟨⟨⟨first, delimiters.1, second⟩, delimiters.2.1, third⟩, delimiters.2.2⟩

theorem written_operands_nonempty (op : Opcode) (operands : Operands) :
    op.writeOperands operands ≠ [] := by
  obtain ⟨r, s, t⟩ := operands
  cases op <;> simp [Opcode.writeOperands]

theorem written_tokens (op : Opcode) (operands : Operands) :
    tokens (op.write operands) = [op.mnemonic.toList, op.writeOperands operands] := by
  have column : op.write operands = [] ++ (op.mnemonic.toList ++
      (List.replicate (4 - op.mnemonic.toList.length + 1) ' ' ++
        (op.writeOperands operands ++ []))) := by
    simp [Opcode.write, List.rightpad, List.replicate_succ']
  have blanks : Blank (List.replicate (4 - op.mnemonic.toList.length + 1) ' ') := by
    intro c inside
    rw [List.eq_of_mem_replicate inside]
    decide
  have nothing : Blank [] := by simp [Blank]
  rw [tokens_pair_iff, column]
  exact .intro _ _ _ (mnemonic_nonempty op) (mnemonic_solid op)
    (written_operands_nonempty op operands) (written_operands_solid op operands) nothing blanks
    (by simp) nothing

namespace Instruction

theorem read_integer_written (w : Word) : readInteger w.write = .ok w := by
  rw [readInteger, Word.read_write]

theorem read_register_written (w : Word) : readRegister w.write = Register.check w := by
  rw [readRegister, read_integer_written]
  rfl

theorem read_operands_written (op : Opcode) (operands : Operands) :
    readOperands op (op.writeOperands operands) = checkOperands op operands := by
  obtain ⟨r, s, t⟩ := operands
  have firstFree := written_word_no_comma r
  cases op with
  | onRegisters op =>
      have split : fields ',' (Opcode.writeOperands (.onRegisters op) ⟨r, s, t⟩) =
          [r.write, s.write, t.write] :=
        (fields_triple_iff _ _ _ _).mpr
          ⟨by simp [Opcode.writeOperands], firstFree, written_word_no_comma s, written_word_no_comma t⟩
      simp only [readOperands, readRegisters, split, read_register_written]
      rfl
  | onOffset op =>
      have split : OffsetParts.ofText? (Opcode.writeOperands (.onOffset op) ⟨r, s, t⟩) =
          some ⟨r.write, s.write, t.write, []⟩ :=
        (OffsetParts.of_text_some_iff _ _).mpr
          ⟨by simp [Opcode.writeOperands, OffsetParts.text], firstFree,
            open_not_in_literal _ _ s.write_literal, close_not_in_literal _ _ t.write_literal⟩
      simp only [readOperands, readOffset, split, read_register_written, read_integer_written]
      rfl

theorem of_line_written (op : Opcode) (operands : Operands) :
    ofLine (op.write operands) = ofOperands op operands := by
  have name := (Opcode.of_mnemonic_some_iff op.mnemonic op).mpr rfl
  simp only [ofLine, written_tokens, ofTokens, String.ofList_toList, name, read_operands_written]
  rfl

theorem decode_text (i : Instruction) : decode i.text = .ok i := by
  rw [decode, text, String.toList_ofList, write, of_line_written]
  exact of_operands_operands i

-- Neither constructor is the trivial one: what is accepted has the given operation and operands, and
-- what is rejected is rejected for one of the given operands.
theorem decoding_agrees_with_construction :
    (∀ (op : Opcode) (triple : Operands),
        decode (String.ofList (op.write triple)) = ofOperands op triple ∧
          (∀ i, ofOperands op triple = .ok i ↔ i.opcode = op ∧ i.operands = triple) ∧
          ∀ e, ofOperands op triple = .error e →
            ∃ w, (w = triple.r ∨ w = triple.s ∨ w = triple.t) ∧ ¬ w.NamesRegister ∧
              e = .invalidArguments op (String.ofList (op.writeOperands triple)) (.badRegister w)) ∧
      ∀ (line : String) (i : Instruction), decode line = .ok i →
        ofOperands i.opcode i.operands = .ok i ∧ decode i.text = .ok i := by
  refine ⟨?_, ?_⟩
  · intro op triple
    refine ⟨?_, of_operands_ok_iff op triple, of_operands_error op triple⟩
    rw [decode, String.toList_ofList]
    exact of_line_written op triple
  · intro line i _
    exact ⟨of_operands_operands i, decode_text i⟩

theorem decoding_agrees_off_the_written_form :
    (∃ i, decode "\tLDA  007,-0(+3)) " = .ok i ∧ ofOperands i.opcode i.operands = .ok i ∧
        decode i.text = .ok i) ∧
      ∃ e, ofOperands (.onOffset .load) ⟨8, -2147483648, -1⟩ = .error e ∧
        ∃ w, (w = 8 ∨ w = -2147483648 ∨ w = -1) ∧ ¬ w.NamesRegister ∧
          e = .invalidArguments (.onOffset .load) "8,-2147483648(-1)" (.badRegister w) := by
  have accepted : decode "\tLDA  007,-0(+3)) " =
      .ok (.offset .loadAddress Register.programCounter 0 ⟨3, by decide⟩) := rfl
  have rejected : ofOperands (.onOffset .load) ⟨8, -2147483648, -1⟩ =
      .error (.invalidArguments (.onOffset .load) "8,-2147483648(-1)" (.badRegister 8)) := rfl
  exact ⟨⟨_, accepted, decoding_agrees_with_construction.2 _ _ accepted⟩,
    ⟨_, rejected, (decoding_agrees_with_construction.1 _ _).2.2 _ rejected⟩⟩

end Instruction

end RegisterMachine
