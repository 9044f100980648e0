import RegisterMachine.Instruction.Decode
import RegisterMachine.Proofs.Literal
import RegisterMachine.Proofs.Operands
import RegisterMachine.Proofs.Tokens

set_option autoImplicit false

namespace RegisterMachine

open Numeral Text

inductive OperandText (op : Opcode) : Operands → List Char → Prop
  | registers (r s t : Word) (first second third : List Char) (format : op.format = .registers)
      (firstLiteral : Literal first r.toInt) (secondLiteral : Literal second s.toInt)
      (thirdLiteral : Literal third t.toInt) (firstNames : r.NamesRegister)
      (secondNames : s.NamesRegister) (thirdNames : t.NamesRegister) :
      OperandText op ⟨r, s, t⟩ (first ++ ',' :: (second ++ ',' :: third))
  | offset (r s t : Word) (first second third suffix : List Char) (format : op.format ≠ .registers)
      (firstLiteral : Literal first r.toInt) (secondLiteral : Literal second s.toInt)
      (thirdLiteral : Literal third t.toInt) (firstNames : r.NamesRegister)
      (thirdNames : t.NamesRegister) :
      OperandText op ⟨r, s, t⟩ (first ++ ',' :: (second ++ '(' :: (third ++ ')' :: suffix)))

def InstructionLine (op : Opcode) (triple : Operands) (line : List Char) : Prop :=
  ∃ text, TwoTokens op.mnemonic.toList text line ∧ OperandText op triple text

theorem operand_text_instruction (op : Opcode) (operands : Operands) (text : List Char)
    (valid : OperandText op operands text) :
    ∃ i : Instruction, i.opcode = op ∧ i.operands = operands := by
  cases valid with
  | registers r s t _ _ _ format _ _ _ firstNames secondNames thirdNames =>
      obtain ⟨r, rfl⟩ := (Word.names_register_iff _).mp firstNames
      obtain ⟨s, rfl⟩ := (Word.names_register_iff _).mp secondNames
      obtain ⟨t, rfl⟩ := (Word.names_register_iff _).mp thirdNames
      cases op with
      | onRegisters op => exact ⟨.registers op r s t, rfl, rfl⟩
      | onOffset op => exact absurd format (Opcode.on_offset_format op)
  | offset r s t _ _ _ _ format _ _ _ firstNames thirdNames =>
      obtain ⟨r, rfl⟩ := (Word.names_register_iff _).mp firstNames
      obtain ⟨t, rfl⟩ := (Word.names_register_iff _).mp thirdNames
      cases op with
      | onRegisters op => exact absurd rfl format
      | onOffset op => exact ⟨.offset op r s t, rfl, rfl⟩

theorem fields_triple_iff (text first second third : List Char) :
    fields ',' text = [first, second, third] ↔
      text = first ++ ',' :: (second ++ ',' :: third) ∧
        ',' ∉ first ∧ ',' ∉ second ∧ ',' ∉ third := by
  refine ⟨?_, ?_⟩
  · intro split
    have joined := intercalate_fields ',' text
    have absent := not_mem_of_mem_fields ',' text
    rw [split] at joined absent
    refine ⟨?_, absent first (by simp), absent second (by simp), absent third (by simp)⟩
    simpa [List.intercalate_cons_cons] using joined.symm
  · intro joined
    obtain ⟨rfl, firstFree, secondFree, thirdFree⟩ := joined
    rw [fields_append ',' first _ firstFree, fields_append ',' second _ secondFree,
      fields_of_not_mem ',' third thirdFree]

namespace Instruction

theorem read_integer_ok_iff (field : List Char) (w : Word) :
    readInteger field = .ok w ↔ Literal field w.toInt := by
  rw [← Word.read_iff_literal, readInteger]
  cases Word.read? field <;> simp

theorem read_register_ok_iff (field : List Char) (r : Register) :
    readRegister field = .ok r ↔ Literal field r.toWord.toInt := by
  simp only [readRegister, except_bind_ok_iff, read_integer_ok_iff, Register.check_ok_iff]
  refine ⟨?_, ?_⟩
  · intro found
    obtain ⟨w, literal, rfl⟩ := found
    exact literal
  · intro literal
    exact ⟨r.toWord, literal, rfl⟩

theorem read_registers_ok_iff (op : RegisterOp) (text : List Char) (i : Instruction) :
    readRegisters op text = .ok i ↔
      ∃ r s t first second third, i = .registers op r s t ∧
        fields ',' text = [first, second, third] ∧ Literal first r.toWord.toInt ∧
        Literal second s.toWord.toInt ∧ Literal third t.toWord.toInt := by
  unfold readRegisters
  split
  · rename_i first second third split
    simp only [split, except_bind_ok_iff, read_register_ok_iff, pure, Except.pure, Except.ok.injEq,
      List.cons.injEq, and_true]
    refine ⟨?_, ?_⟩
    · intro read
      obtain ⟨r, firstRead, s, secondRead, t, thirdRead, rfl⟩ := read
      exact ⟨r, s, t, first, second, third, rfl, ⟨rfl, rfl, rfl⟩, firstRead, secondRead, thirdRead⟩
    · intro found
      obtain ⟨r, s, t, _, _, _, rfl, ⟨rfl, rfl, rfl⟩, firstRead, secondRead, thirdRead⟩ := found
      exact ⟨r, firstRead, s, secondRead, t, thirdRead, rfl⟩
  · rename_i other
    simp only [reduceCtorEq, false_iff]
    intro found
    obtain ⟨_, _, _, first, second, third, -, split, -⟩ := found
    exact other first second third split

theorem read_offset_ok_iff (op : OffsetOp) (text : List Char) (i : Instruction) :
    readOffset op text = .ok i ↔
      ∃ r s t parts, i = .offset op r s t ∧ OffsetParts.ofText? text = some parts ∧
        Literal parts.r r.toWord.toInt ∧ Literal parts.s s.toInt ∧
        Literal parts.t t.toWord.toInt := by
  unfold readOffset
  split
  · rename_i parts split
    simp only [split, except_bind_ok_iff, read_register_ok_iff, read_integer_ok_iff, pure,
      Except.pure, Except.ok.injEq, Option.some.injEq]
    refine ⟨?_, ?_⟩
    · intro read
      obtain ⟨r, firstRead, s, secondRead, t, thirdRead, rfl⟩ := read
      exact ⟨r, s, t, parts, rfl, rfl, firstRead, secondRead, thirdRead⟩
    · intro found
      obtain ⟨r, s, t, _, rfl, rfl, firstRead, secondRead, thirdRead⟩ := found
      exact ⟨r, firstRead, s, secondRead, t, thirdRead, rfl⟩
  · rename_i missing
    simp [missing]

-- A literal has no delimiter in it, so the delimiters that the cuts find are those of the grammar.
theorem registers_text_iff (op : RegisterOp) (triple : Operands) (text : List Char) :
    OperandText (.onRegisters op) triple text ↔
      ∃ first second third, fields ',' text = [first, second, third] ∧
        Literal first triple.r.toInt ∧ Literal second triple.s.toInt ∧
        Literal third triple.t.toInt ∧
        triple.r.NamesRegister ∧ triple.s.NamesRegister ∧ triple.t.NamesRegister := by
  simp only [fields_triple_iff]
  refine ⟨?_, ?_⟩
  · intro valid
    cases valid with
    | registers r s t first second third _ firstLiteral secondLiteral thirdLiteral firstNames
        secondNames thirdNames =>
        exact ⟨first, second, third,
          ⟨rfl, comma_not_in_literal _ _ firstLiteral, comma_not_in_literal _ _ secondLiteral,
            comma_not_in_literal _ _ thirdLiteral⟩,
          firstLiteral, secondLiteral, thirdLiteral, firstNames, secondNames, thirdNames⟩
    | offset _ _ _ _ _ _ _ format => exact absurd rfl format
  · intro found
    obtain ⟨first, second, third, ⟨rfl, -⟩, firstLiteral, secondLiteral, thirdLiteral, firstNames,
      secondNames, thirdNames⟩ := found
    exact .registers _ _ _ first second third rfl firstLiteral secondLiteral thirdLiteral
      firstNames secondNames thirdNames

theorem offset_text_iff (op : OffsetOp) (triple : Operands) (text : List Char) :
    OperandText (.onOffset op) triple text ↔
      ∃ parts, OffsetParts.ofText? text = some parts ∧ Literal parts.r triple.r.toInt ∧
        Literal parts.s triple.s.toInt ∧ Literal parts.t triple.t.toInt ∧
        triple.r.NamesRegister ∧ triple.t.NamesRegister := by
  simp only [OffsetParts.of_text_some_iff]
  refine ⟨?_, ?_⟩
  · intro valid
    cases valid with
    | registers _ _ _ _ _ _ format => exact absurd format (Opcode.on_offset_format op)
    | offset r s t first second third suffix _ firstLiteral secondLiteral thirdLiteral firstNames
        thirdNames =>
        exact ⟨⟨first, second, third, suffix⟩,
          ⟨rfl, comma_not_in_literal _ _ firstLiteral, open_not_in_literal _ _ secondLiteral,
            close_not_in_literal _ _ thirdLiteral⟩,
          firstLiteral, secondLiteral, thirdLiteral, firstNames, thirdNames⟩
  · intro found
    obtain ⟨parts, ⟨rfl, -⟩, firstLiteral, secondLiteral, thirdLiteral, firstNames, thirdNames⟩ := found
    exact .offset _ _ _ parts.r parts.s parts.t parts.rest (Opcode.on_offset_format op)
      firstLiteral secondLiteral thirdLiteral firstNames thirdNames

theorem read_operands_ok_iff (op : Opcode) (text : List Char) (i : Instruction) :
    readOperands op text = .ok i ↔ i.opcode = op ∧ OperandText op i.operands text := by
  cases op with
  | onRegisters op =>
      rw [readOperands, read_registers_ok_iff, registers_text_iff]
      refine ⟨?_, ?_⟩
      · intro found
        obtain ⟨r, s, t, first, second, third, rfl, split, firstRead, secondRead, thirdRead⟩ := found
        exact ⟨rfl, first, second, third, split, firstRead, secondRead, thirdRead,
          r.word_names_register, s.word_names_register, t.word_names_register⟩
      · intro found
        obtain ⟨same, first, second, third, split, firstRead, secondRead, thirdRead, -⟩ := found
        cases i with
        | registers other r s t =>
            cases same
            exact ⟨r, s, t, first, second, third, rfl, split, firstRead, secondRead, thirdRead⟩
        | offset => cases same
  | onOffset op =>
      rw [readOperands, read_offset_ok_iff, offset_text_iff]
      refine ⟨?_, ?_⟩
      · intro found
        obtain ⟨r, s, t, parts, rfl, split, firstRead, secondRead, thirdRead⟩ := found
        exact ⟨rfl, parts, split, firstRead, secondRead, thirdRead, r.word_names_register,
          t.word_names_register⟩
      · intro found
        obtain ⟨same, parts, split, firstRead, secondRead, thirdRead, -⟩ := found
        cases i with
        | registers => cases same
        | offset other r s t =>
            cases same
            exact ⟨r, s, t, parts, rfl, split, firstRead, secondRead, thirdRead⟩

theorem of_tokens_ok_iff (tokens : List (List Char)) (i : Instruction) :
    ofTokens tokens = .ok i ↔
      ∃ text, tokens = [i.opcode.mnemonic.toList, text] ∧
        OperandText i.opcode i.operands text := by
  unfold ofTokens
  split
  · rename_i mnemonic text
    simp only [List.cons.injEq, and_true]
    cases found : Opcode.ofMnemonic? (String.ofList mnemonic) with
    | none =>
        have foreign := (Opcode.of_mnemonic_none_iff _).mp found i.opcode
        simp only [reduceCtorEq, false_iff]
        intro found
        obtain ⟨_, ⟨rfl, -⟩, -⟩ := found
        exact foreign String.ofList_toList.symm
    | some op =>
        have name := (Opcode.of_mnemonic_some_iff _ _).mp found
        simp only [map_error_ok_iff, read_operands_ok_iff]
        refine ⟨?_, ?_⟩
        · intro accepted
          obtain ⟨rfl, valid⟩ := accepted
          exact ⟨text, ⟨by rw [name, String.toList_ofList], rfl⟩, valid⟩
        · intro found
          obtain ⟨_, ⟨rfl, rfl⟩, valid⟩ := found
          rw [String.ofList_toList] at name
          have same := Opcode.mnemonic_injective op i.opcode name
          exact ⟨same.symm, same ▸ valid⟩
  · rename_i other
    simp only [reduceCtorEq, false_iff]
    intro found
    obtain ⟨text, split, -⟩ := found
    exact other _ _ split

theorem of_line_ok_iff (line : List Char) (i : Instruction) :
    ofLine line = .ok i ↔ InstructionLine i.opcode i.operands line := by
  simp only [ofLine, of_tokens_ok_iff, tokens_pair_iff, InstructionLine]

-- Lines of the grammar whose operands name no register do not exist, so nothing is lost by asking
-- for an instruction.
theorem decode_accepts_exactly_the_grammar (line : String) (op : Opcode) (triple : Operands) :
    (∃ i, decode line = .ok i ∧ i.opcode = op ∧ i.operands = triple) ↔
      InstructionLine op triple line.toList := by
  simp only [decode, of_line_ok_iff]
  refine ⟨?_, ?_⟩
  · intro decoded
    obtain ⟨i, accepted, rfl, rfl⟩ := decoded
    exact accepted
  · intro accepted
    obtain ⟨text, tokens, valid⟩ := accepted
    obtain ⟨i, rfl, rfl⟩ := operand_text_instruction op triple text valid
    exact ⟨i, ⟨text, tokens, valid⟩, rfl, rfl⟩

example : decode "\u00a0JEQ\t+7,-0(000000000003)(," =
    .ok (.offset (.jump .zero) Register.programCounter 0 ⟨3, by decide⟩) := rfl

end Instruction

end RegisterMachine
