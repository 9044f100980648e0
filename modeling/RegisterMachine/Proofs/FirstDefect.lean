import RegisterMachine.Proofs.Layout

set_option autoImplicit false

namespace RegisterMachine

open Numeral Text

inductive FieldKind where
  | register
  | integer
deriving DecidableEq, Repr

inductive FieldDefect : FieldKind → List Char → OperandError → Prop
  | notAnInteger (kind : FieldKind) (field : List Char)
      (foreign : ∀ w : Word, ¬ Literal field w.toInt) :
      FieldDefect kind field (.notAnInteger (String.ofList field))
  | badRegister (field : List Char) (w : Word) (literal : Literal field w.toInt)
      (foreign : ¬ w.NamesRegister) : FieldDefect .register field (.badRegister w)

def Leftmost (fields : List (FieldKind × List Char)) (reason : OperandError) : Prop :=
  ∃ before kind field after, fields = before ++ (kind, field) :: after ∧
    (∀ earlier ∈ before, ∀ e, ¬ FieldDefect earlier.1 earlier.2 e) ∧ FieldDefect kind field reason

inductive Misshapen (op : Opcode) (text : List Char) : Prop
  | commas (format : op.format = .registers) (count : text.count ',' ≠ 2)
  | noComma (format : op.format ≠ .registers) (missing : ',' ∉ text)
  | notOpened (before after : List Char) (format : op.format ≠ .registers)
      (split : text = before ++ ',' :: after) (first : ',' ∉ before) (missing : '(' ∉ after)
  | notClosed (before between after : List Char) (format : op.format ≠ .registers)
      (split : text = before ++ ',' :: (between ++ '(' :: after)) (first : ',' ∉ before)
      (second : '(' ∉ between) (missing : ')' ∉ after)

inductive FieldsOf (op : Opcode) : List Char → List (FieldKind × List Char) → Prop
  | registers (r s t : List Char) (format : op.format = .registers) (first : ',' ∉ r)
      (second : ',' ∉ s) (third : ',' ∉ t) :
      FieldsOf op (r ++ ',' :: (s ++ ',' :: t)) [(.register, r), (.register, s), (.register, t)]
  | offset (r s t rest : List Char) (format : op.format ≠ .registers) (first : ',' ∉ r)
      (second : '(' ∉ s) (third : ')' ∉ t) :
      FieldsOf op (r ++ ',' :: (s ++ '(' :: (t ++ ')' :: rest)))
        [(.register, r), (.integer, s), (.register, t)]

inductive OperandDefect (op : Opcode) (text : List Char) : OperandError → Prop
  | misshapen (shape : Misshapen op text) : OperandDefect op text (.malformed op.template)
  | field (fields : List (FieldKind × List Char)) (reason : OperandError)
      (cut : FieldsOf op text fields) (leftmost : Leftmost fields reason) :
      OperandDefect op text reason

theorem not_leftmost_nil (e : OperandError) : ¬ Leftmost [] e := by
  intro leftmost
  obtain ⟨_, _, _, _, split, -⟩ := leftmost
  simp at split

theorem leftmost_cons_iff (kind : FieldKind) (field : List Char)
    (later : List (FieldKind × List Char)) (e : OperandError) :
    Leftmost ((kind, field) :: later) e ↔
      FieldDefect kind field e ∨ (∀ other, ¬ FieldDefect kind field other) ∧ Leftmost later e := by
  refine ⟨?_, ?_⟩
  · intro leftmost
    obtain ⟨before, found, text, after, split, sound, defect⟩ := leftmost
    cases before with
    | nil =>
        cases split
        exact .inl defect
    | cons head before =>
        cases split
        obtain ⟨first, onward⟩ := List.forall_mem_cons.mp sound
        exact .inr ⟨first, before, found, text, after, rfl, onward, defect⟩
  · intro defective
    rcases defective with defect | ⟨sound, before, found, text, after, rfl, onward, defect⟩
    · exact ⟨[], kind, field, later, rfl, by simp, defect⟩
    · exact ⟨(kind, field) :: before, found, text, after, rfl,
        List.forall_mem_cons.mpr ⟨sound, onward⟩, defect⟩

theorem Text.fields_length (d : Char) (text : List Char) :
    (fields d text).length = text.count d + 1 := by
  induction text with
  | nil => rfl
  | cons c rest ih =>
      rw [fields]
      by_cases same : c = d
      · subst same
        rw [if_pos rfl, List.length_cons, ih, List.count_cons_self]
      · rw [if_neg same, List.count_cons_of_ne same, ← ih]
        cases split : fields d rest with
        | nil => exact absurd split (fields_ne_nil d rest)
        | cons first later => rfl

theorem fields_of_registers_iff (op : RegisterOp) (text : List Char)
    (found : List (FieldKind × List Char)) :
    FieldsOf (.onRegisters op) text found ↔ ∃ r s t, fields ',' text = [r, s, t] ∧
      found = [(.register, r), (.register, s), (.register, t)] := by
  simp only [fields_triple_iff]
  refine ⟨?_, ?_⟩
  · intro cut
    cases cut with
    | registers r s t _ first second third => exact ⟨r, s, t, ⟨rfl, first, second, third⟩, rfl⟩
    | offset _ _ _ _ format => exact absurd rfl format
  · intro cut
    obtain ⟨r, s, t, ⟨rfl, first, second, third⟩, rfl⟩ := cut
    exact .registers r s t rfl first second third

theorem fields_of_offset_iff (op : OffsetOp) (text : List Char)
    (found : List (FieldKind × List Char)) :
    FieldsOf (.onOffset op) text found ↔ ∃ parts, Instruction.OffsetParts.ofText? text = some parts ∧
      found = [(.register, parts.r), (.integer, parts.s), (.register, parts.t)] := by
  simp only [Instruction.OffsetParts.of_text_some_iff]
  refine ⟨?_, ?_⟩
  · intro cut
    cases cut with
    | registers _ _ _ format => exact absurd format (Opcode.on_offset_format op)
    | offset r s t rest _ first second third =>
        exact ⟨⟨r, s, t, rest⟩, ⟨rfl, first, second, third⟩, rfl⟩
  · intro cut
    obtain ⟨parts, ⟨rfl, first, second, third⟩, rfl⟩ := cut
    exact .offset _ _ _ _ (Opcode.on_offset_format op) first second third

theorem misshapen_registers_iff (op : RegisterOp) (text : List Char) :
    Misshapen (.onRegisters op) text ↔ ∀ r s t, fields ',' text ≠ [r, s, t] := by
  have count := fields_length ',' text
  refine ⟨?_, ?_⟩
  · intro misshapen r s t split
    cases misshapen with
    | commas _ other =>
        rw [split, List.length_cons, List.length_cons, List.length_singleton] at count
        omega
    | noComma format | notOpened _ _ format | notClosed _ _ _ format => exact absurd rfl format
  · intro unsplit
    refine .commas rfl ?_
    intro two
    rw [two] at count
    obtain ⟨r, s, t, split⟩ := List.length_eq_three.mp count
    exact unsplit r s t split

theorem misshapen_offset_iff (op : OffsetOp) (text : List Char) :
    Misshapen (.onOffset op) text ↔ Instruction.OffsetParts.ofText? text = none := by
  refine ⟨?_, ?_⟩
  · intro misshapen
    cases misshapen with
    | commas format => exact absurd format (Opcode.on_offset_format op)
    | noComma _ missing =>
        simp only [Instruction.OffsetParts.ofText?, (cut_none_iff _ _).mpr missing]
    | notOpened before after _ split first missing =>
        simp only [Instruction.OffsetParts.ofText?, (cut_some_iff _ _ _ _).mpr ⟨split, first⟩,
          (cut_none_iff _ _).mpr missing]
    | notClosed before between after _ split first second missing =>
        simp only [Instruction.OffsetParts.ofText?, (cut_some_iff _ _ _ _).mpr ⟨split, first⟩,
          (cut_some_iff _ _ _ _).mpr ⟨rfl, second⟩, (cut_none_iff _ _).mpr missing]
  · intro uncut
    have format := Opcode.on_offset_format op
    unfold Instruction.OffsetParts.ofText? at uncut
    split at uncut
    · rename_i missing
      exact .noComma format ((cut_none_iff _ _).mp missing)
    · rename_i before after atComma
      obtain ⟨split, first⟩ := (cut_some_iff _ _ _ _).mp atComma
      split at uncut
      · rename_i missing
        exact .notOpened before after format split first ((cut_none_iff _ _).mp missing)
      · rename_i between later atOpen
        obtain ⟨rfl, second⟩ := (cut_some_iff _ _ _ _).mp atOpen
        split at uncut
        · rename_i missing
          exact .notClosed before between later format split first second
            ((cut_none_iff _ _).mp missing)
        · cases uncut

-- A text is cut into its fields in one way, or it is misshapen.
theorem fields_unique (op : Opcode) (text : List Char) (found other : List (FieldKind × List Char))
    (cut : FieldsOf op text found) (again : FieldsOf op text other) : found = other := by
  cases op with
  | onRegisters op =>
      obtain ⟨r, s, t, split, rfl⟩ := (fields_of_registers_iff op text found).mp cut
      obtain ⟨r', s', t', split', rfl⟩ := (fields_of_registers_iff op text other).mp again
      rw [split] at split'
      cases split'
      rfl
  | onOffset op =>
      obtain ⟨parts, split, rfl⟩ := (fields_of_offset_iff op text found).mp cut
      obtain ⟨parts', split', rfl⟩ := (fields_of_offset_iff op text other).mp again
      rw [split] at split'
      cases split'
      rfl

theorem fields_not_misshapen (op : Opcode) (text : List Char)
    (found : List (FieldKind × List Char)) (cut : FieldsOf op text found) : ¬ Misshapen op text := by
  cases op with
  | onRegisters op =>
      obtain ⟨r, s, t, split, -⟩ := (fields_of_registers_iff op text found).mp cut
      intro misshapen
      exact (misshapen_registers_iff op text).mp misshapen r s t split
  | onOffset op =>
      obtain ⟨parts, split, -⟩ := (fields_of_offset_iff op text found).mp cut
      rw [misshapen_offset_iff, split]
      simp

theorem defect_of_misshapen (op : Opcode) (text : List Char) (e : OperandError)
    (shape : Misshapen op text) : OperandDefect op text e ↔ e = .malformed op.template := by
  refine ⟨?_, ?_⟩
  · intro defect
    cases defect with
    | misshapen => rfl
    | field found _ cut => exact absurd shape (fields_not_misshapen op text found cut)
  · intro same
    subst same
    exact .misshapen shape

theorem defect_of_fields (op : Opcode) (text : List Char) (found : List (FieldKind × List Char))
    (e : OperandError) (cut : FieldsOf op text found) :
    OperandDefect op text e ↔ Leftmost found e := by
  refine ⟨?_, fun leftmost => .field found e cut leftmost⟩
  intro defect
  cases defect with
  | misshapen shape => exact absurd shape (fields_not_misshapen op text found cut)
  | field other _ again leftmost => exact fields_unique op text other found again cut ▸ leftmost

namespace Instruction

theorem read_integer_error_iff (field : List Char) (e : OperandError) :
    readInteger field = .error e ↔ FieldDefect .integer field e := by
  rw [readInteger]
  cases read : Word.read? field with
  | some w =>
      refine iff_of_false (by simp) ?_
      intro defect
      cases defect with
      | notAnInteger _ _ foreign => exact foreign w ((Word.read_iff_literal field w).mp read)
  | none =>
      have foreign : ∀ w : Word, ¬ Literal field w.toInt := by
        intro w literal
        rw [(Word.read_iff_literal field w).mpr literal] at read
        cases read
      refine ⟨?_, ?_⟩
      · intro failed
        cases failed
        exact .notAnInteger _ field foreign
      · intro defect
        cases defect
        rfl

theorem read_register_error_iff (field : List Char) (e : OperandError) :
    readRegister field = .error e ↔ FieldDefect .register field e := by
  rw [readRegister, except_bind_error_iff]
  refine ⟨?_, ?_⟩
  · intro failed
    rcases failed with unread | ⟨w, read, unchecked⟩
    · cases (read_integer_error_iff field e).mp unread with
      | notAnInteger _ _ foreign => exact .notAnInteger _ field foreign
    · obtain ⟨foreign, rfl⟩ := check_error w e unchecked
      exact .badRegister field w ((read_integer_ok_iff field w).mp read) foreign
  · intro defect
    cases defect with
    | notAnInteger _ _ foreign =>
        exact .inl ((read_integer_error_iff field _).mpr (.notAnInteger _ field foreign))
    | badRegister _ w literal foreign =>
        refine .inr ⟨w, (read_integer_ok_iff field w).mpr literal, ?_⟩
        cases checked : Register.check w with
        | error e => rw [(check_error w e checked).2]
        | ok r =>
            have named := (Register.check_ok_iff w r).mp checked
            exact absurd ((Word.names_register_iff w).mpr ⟨r, named⟩) foreign

theorem read_integer_sound_iff (field : List Char) :
    (∃ w, readInteger field = .ok w) ↔ ∀ e, ¬ FieldDefect .integer field e := by
  simp only [← read_integer_error_iff]
  cases readInteger field <;> simp

theorem read_register_sound_iff (field : List Char) :
    (∃ r, readRegister field = .ok r) ↔ ∀ e, ¬ FieldDefect .register field e := by
  simp only [← read_register_error_iff]
  cases readRegister field <;> simp

theorem read_registers_error_iff (op : RegisterOp) (text : List Char) (e : OperandError) :
    readRegisters op text = .error e ↔ OperandDefect (.onRegisters op) text e := by
  unfold readRegisters
  split
  · rename_i r s t split
    rw [defect_of_fields _ text _ e ((fields_of_registers_iff op text _).mpr ⟨r, s, t, split, rfl⟩)]
    simp only [leftmost_cons_iff, not_leftmost_nil, except_bind_error_iff, pure, Except.pure,
      reduceCtorEq, and_false, exists_false, or_false, exists_and_right, read_register_error_iff,
      read_register_sound_iff]
  · rename_i other
    rw [defect_of_misshapen _ text e ((misshapen_registers_iff op text).mpr other),
      Except.error.injEq]
    exact eq_comm

theorem read_offset_error_iff (op : OffsetOp) (text : List Char) (e : OperandError) :
    readOffset op text = .error e ↔ OperandDefect (.onOffset op) text e := by
  unfold readOffset
  split
  · rename_i parts split
    rw [defect_of_fields _ text _ e ((fields_of_offset_iff op text _).mpr ⟨parts, split, rfl⟩)]
    simp only [leftmost_cons_iff, not_leftmost_nil, except_bind_error_iff, pure, Except.pure,
      reduceCtorEq, and_false, exists_false, or_false, exists_and_right, read_register_error_iff,
      read_integer_error_iff, read_register_sound_iff, read_integer_sound_iff]
  · rename_i uncut
    rw [defect_of_misshapen _ text e ((misshapen_offset_iff op text).mpr uncut),
      Except.error.injEq]
    exact eq_comm

theorem read_operands_error_iff (op : Opcode) (text : List Char) (e : OperandError) :
    readOperands op text = .error e ↔ OperandDefect op text e := by
  cases op with
  | onRegisters op => exact read_registers_error_iff op text e
  | onOffset op => exact read_offset_error_iff op text e

theorem of_tokens_miscounted (found : List (List Char)) (count : found.length ≠ 2) :
    ofTokens found = .error (.invalidInstruction (String.ofList ([' '].intercalate found))) := by
  unfold ofTokens
  split
  · exact absurd rfl count
  · rfl

theorem of_tokens_foreign (token operands : List Char)
    (foreign : ∀ op : Opcode, op.mnemonic ≠ String.ofList token) :
    ofTokens [token, operands] = .error (.invalidOpcode (String.ofList token)) := by
  simp only [ofTokens, (Opcode.of_mnemonic_none_iff _).mpr foreign]

theorem of_tokens_known (op : Opcode) (operands : List Char) :
    ofTokens [op.mnemonic.toList, operands] =
      (readOperands op operands).mapError (.invalidArguments op (String.ofList operands)) := by
  simp only [ofTokens, String.ofList_toList, (Opcode.of_mnemonic_some_iff _ op).mpr rfl]

theorem tokens_cases (found : List (List Char)) :
    found.length ≠ 2 ∨
      (∃ token operands, found = [token, operands] ∧
        ∀ op : Opcode, op.mnemonic ≠ String.ofList token) ∨
      ∃ (op : Opcode) (operands : List Char), found = [op.mnemonic.toList, operands] := by
  by_cases count : found.length = 2
  · obtain ⟨token, operands, rfl⟩ := List.length_eq_two.mp count
    by_cases known : ∃ op : Opcode, op.mnemonic = String.ofList token
    · obtain ⟨op, named⟩ := known
      refine .inr (.inr ⟨op, operands, ?_⟩)
      rw [named, String.toList_ofList]
    · exact .inr (.inl ⟨token, operands, rfl, not_exists.mp known⟩)
  · exact .inl count

theorem miscounted_iff (found : List (List Char)) (text : String) :
    ofTokens found = .error (.invalidInstruction text) ↔
      found.length ≠ 2 ∧ text = String.ofList ([' '].intercalate found) := by
  rcases tokens_cases found with count | ⟨token, operands, rfl, foreign⟩ | ⟨op, operands, rfl⟩
  · rw [of_tokens_miscounted found count]
    simp [count, eq_comm]
  · rw [of_tokens_foreign token operands foreign]
    simp
  · rw [of_tokens_known, map_error_error_iff]
    simp

theorem foreign_iff (found : List (List Char)) (token : String) :
    ofTokens found = .error (.invalidOpcode token) ↔
      ∃ operands, found = [token.toList, operands] ∧ ∀ op : Opcode, op.mnemonic ≠ token := by
  rcases tokens_cases found with count | ⟨word, operands, rfl, foreign⟩ | ⟨op, operands, rfl⟩
  · rw [of_tokens_miscounted found count]
    refine iff_of_false (by simp) ?_
    intro pair
    obtain ⟨operands, rfl, -⟩ := pair
    exact count rfl
  · rw [of_tokens_foreign word operands foreign]
    refine ⟨?_, ?_⟩
    · intro same
      cases same
      exact ⟨operands, by rw [String.toList_ofList], foreign⟩
    · intro pair
      obtain ⟨_, same, -⟩ := pair
      cases same
      rw [String.ofList_toList]
  · rw [of_tokens_known, map_error_error_iff]
    refine iff_of_false (by simp) ?_
    intro pair
    obtain ⟨_, same, foreign⟩ := pair
    exact foreign op (String.toList_inj.mp (List.cons.inj same).1)

theorem arguments_iff (found : List (List Char)) (op : Opcode) (operands : String)
    (reason : OperandError) :
    ofTokens found = .error (.invalidArguments op operands reason) ↔
      found = [op.mnemonic.toList, operands.toList] ∧ OperandDefect op operands.toList reason := by
  rcases tokens_cases found with count | ⟨word, text, rfl, foreign⟩ | ⟨known, text, rfl⟩
  · rw [of_tokens_miscounted found count]
    refine iff_of_false (by simp) ?_
    intro pair
    obtain ⟨rfl, -⟩ := pair
    exact count rfl
  · rw [of_tokens_foreign word text foreign]
    refine iff_of_false (by simp) ?_
    intro pair
    obtain ⟨same, -⟩ := pair
    cases same
    exact foreign op String.ofList_toList.symm
  · rw [of_tokens_known, map_error_error_iff]
    simp only [read_operands_error_iff, DecodeError.invalidArguments.injEq]
    refine ⟨?_, ?_⟩
    · intro failed
      obtain ⟨e, defect, rfl, rfl, rfl⟩ := failed
      rw [String.toList_ofList]
      exact ⟨rfl, defect⟩
    · intro failed
      obtain ⟨same, defect⟩ := failed
      obtain ⟨named, rest⟩ := List.cons.inj same
      cases rest
      cases Opcode.mnemonic_injective known op (String.toList_inj.mp named)
      exact ⟨reason, defect, rfl, String.ofList_toList, rfl⟩

structure Reasoned (op : Opcode) (text : List Char) (reason : OperandError) : Prop where
  shape : (∃ expected, reason = .malformed expected) ↔ Misshapen op text
  template : ∀ expected, reason = .malformed expected → expected = op.template
  leftmost : ¬ Misshapen op text → ∃ fields, FieldsOf op text fields ∧ Leftmost fields reason
  foreign : ∀ field, reason = .notAnInteger field → ∀ w : Word, ¬ Literal field.toList w.toInt
  outside : ∀ w, reason = .badRegister w → ¬ w.NamesRegister

theorem defect_reasoned (op : Opcode) (text : List Char) (reason : OperandError)
    (defect : OperandDefect op text reason) : Reasoned op text reason := by
  cases defect with
  | misshapen shape =>
      refine ⟨iff_of_true ⟨_, rfl⟩ shape, ?_, fun whole => absurd shape whole, ?_, ?_⟩
      · intro expected same
        cases same
        rfl
      · intro field other
        cases other
      · intro w other
        cases other
  | field fields _ cut leftmost =>
      have whole := fields_not_misshapen op text fields cut
      have ⟨_, _, _, _, _, _, found⟩ := leftmost
      cases found with
      | notAnInteger _ field foreign =>
          refine ⟨iff_of_false (by simp) whole, by simp, fun _ => ⟨fields, cut, leftmost⟩, ?_,
            by simp⟩
          intro other same
          cases same
          rw [String.toList_ofList]
          exact foreign
      | badRegister field w literal foreign =>
          refine ⟨iff_of_false (by simp) whole, by simp, fun _ => ⟨fields, cut, leftmost⟩,
            by simp, ?_⟩
          intro other same
          cases same
          exact foreign

-- The three kinds of rejection cannot meet, since each says something else of the same tokens.
theorem rejected_for_first_defect (line : String) :
    ∃ found, (∀ words, Separated words line.toList ↔ words = found) ∧
      (∀ text, decode line = .error (.invalidInstruction text) ↔
        found.length ≠ 2 ∧ text = String.ofList ([' '].intercalate found)) ∧
      (∀ token, decode line = .error (.invalidOpcode token) ↔
        ∃ operands, found = [token.toList, operands] ∧ ∀ op : Opcode, op.mnemonic ≠ token) ∧
      (∀ op operands reason, decode line = .error (.invalidArguments op operands reason) ↔
        found = [op.mnemonic.toList, operands.toList] ∧
          OperandDefect op operands.toList reason) ∧
      ∀ op operands reason, decode line = .error (.invalidArguments op operands reason) →
        Reasoned op operands.toList reason := by
  have arguments := arguments_iff (tokens line.toList)
  refine ⟨tokens line.toList, ?_, miscounted_iff _, foreign_iff _, arguments, ?_⟩
  · intro words
    refine ⟨fun separated => (separated_tokens words _ separated).symm, ?_⟩
    intro same
    exact tokens_separated words _ same.symm
  · intro op operands reason rejected
    exact defect_reasoned _ _ _ ((arguments op operands reason).mp rejected).2

theorem several_defects_at_once :
    decode "LD 9,x(+8)," =
        .error (.invalidArguments (.onOffset .load) "9,x(+8)," (.badRegister 9)) ∧
      Reasoned (.onOffset .load) "9,x(+8),".toList (.badRegister 9) ∧ ¬ Word.NamesRegister 9 ∧
      Misshapen (.onOffset .load) "9,x(+8".toList ∧
      decode "LD 9,x(+8" = .error (.invalidArguments (.onOffset .load) "9,x(+8"
        (.malformed "r,s(t)")) ∧
      decode " HOP\t9,x  (+8)" = .error (.invalidInstruction "HOP 9,x (+8)") ∧
      ∃ found, Separated found " HOP\t9,x  (+8)".toList ∧ found.length ≠ 2 ∧
        "HOP 9,x (+8)" = String.ofList ([' '].intercalate found) := by
  have rejected : decode "LD 9,x(+8)," =
      .error (.invalidArguments (.onOffset .load) "9,x(+8)," (.badRegister 9)) := rfl
  have unclosed : decode "LD 9,x(+8" =
      .error (.invalidArguments (.onOffset .load) "9,x(+8" (.malformed "r,s(t)")) := rfl
  have miscounted : decode " HOP\t9,x  (+8)" = .error (.invalidInstruction "HOP 9,x (+8)") := rfl
  obtain ⟨-, -, -, -, -, reasoned⟩ := rejected_for_first_defect "LD 9,x(+8),"
  obtain ⟨-, -, -, -, -, reasoned'⟩ := rejected_for_first_defect "LD 9,x(+8"
  obtain ⟨found, separated, instruction, -⟩ := rejected_for_first_defect " HOP\t9,x  (+8)"
  have named := reasoned _ _ _ rejected
  exact ⟨rejected, named, named.outside 9 rfl, (reasoned' _ _ _ unclosed).shape.mp ⟨_, rfl⟩,
    unclosed, miscounted, found, (separated found).mpr rfl, (instruction _).mp miscounted⟩

end Instruction

end RegisterMachine
