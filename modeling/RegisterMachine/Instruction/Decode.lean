import RegisterMachine.Instruction
import RegisterMachine.Text.Fields
import RegisterMachine.Text.Tokens

set_option autoImplicit false

namespace RegisterMachine.Instruction

open Text

def readInteger (field : List Char) : Except OperandError Word :=
  match Word.read? field with
  | some w => .ok w
  | none => .error (.notAnInteger (String.ofList field))

def readRegister (field : List Char) : Except OperandError Register := do
  Register.check (← readInteger field)

-- An operand text `r,s(t)`, cut at its delimiters. What follows the closing parenthesis does not
-- matter.
structure OffsetParts where
  r : List Char
  s : List Char
  t : List Char
  rest : List Char
deriving DecidableEq, Repr

namespace OffsetParts

def text (parts : OffsetParts) : List Char :=
  parts.r ++ ',' :: (parts.s ++ '(' :: (parts.t ++ ')' :: parts.rest))

-- Each delimiter is the first of its kind after the one before.
def ofText? (text : List Char) : Option OffsetParts :=
  match cut ',' text with
  | none => none
  | some (r, afterComma) =>
      match cut '(' afterComma with
      | none => none
      | some (s, afterOpen) =>
          match cut ')' afterOpen with
          | none => none
          | some (t, rest) => some { r, s, t, rest }

theorem of_text_some_iff (text : List Char) (parts : OffsetParts) :
    ofText? text = some parts ↔
      text = parts.text ∧ ',' ∉ parts.r ∧ '(' ∉ parts.s ∧ ')' ∉ parts.t := by
  obtain ⟨r, s, t, rest⟩ := parts
  refine ⟨?_, ?_⟩
  · intro found
    unfold ofText? at found
    split at found
    · cases found
    · rename_i atComma
      split at found
      · cases found
      · rename_i atOpen
        split at found
        · cases found
        · rename_i atClose
          cases found
          obtain ⟨rfl, first⟩ := (cut_some_iff _ _ _ _).mp atComma
          obtain ⟨rfl, second⟩ := (cut_some_iff _ _ _ _).mp atOpen
          obtain ⟨rfl, third⟩ := (cut_some_iff _ _ _ _).mp atClose
          exact ⟨rfl, first, second, third⟩
  · intro joined
    obtain ⟨rfl, first, second, third⟩ := joined
    simp only [ofText?, OffsetParts.text, (cut_some_iff _ _ _ _).mpr ⟨rfl, first⟩,
      (cut_some_iff _ _ _ _).mpr ⟨rfl, second⟩, (cut_some_iff _ _ _ _).mpr ⟨rfl, third⟩]

end OffsetParts

def readRegisters (op : RegisterOp) (text : List Char) : Except OperandError Instruction :=
  match fields ',' text with
  | [r, s, t] => do
    return .registers op (← readRegister r) (← readRegister s) (← readRegister t)
  | _ => .error (.malformed (Opcode.onRegisters op).template)

def readOffset (op : OffsetOp) (text : List Char) : Except OperandError Instruction :=
  match OffsetParts.ofText? text with
  | some parts => do
    return .offset op (← readRegister parts.r) (← readInteger parts.s) (← readRegister parts.t)
  | none => .error (.malformed (Opcode.onOffset op).template)

def readOperands : Opcode → List Char → Except OperandError Instruction
  | .onRegisters op, text => readRegisters op text
  | .onOffset op, text => readOffset op text

def joinTokens (tokens : List (List Char)) : List Char := [' '].intercalate tokens

def ofTokens : List (List Char) → Except DecodeError Instruction
  | [mnemonic, operands] =>
      match Opcode.ofMnemonic? (String.ofList mnemonic) with
      | none => .error (.invalidOpcode (String.ofList mnemonic))
      | some op =>
          (readOperands op operands).mapError (.invalidArguments op (String.ofList operands))
  | tokens => .error (.invalidInstruction (String.ofList (joinTokens tokens)))

def ofLine (line : List Char) : Except DecodeError Instruction := ofTokens (tokens line)

def decode (line : String) : Except DecodeError Instruction := ofLine line.toList

end RegisterMachine.Instruction
