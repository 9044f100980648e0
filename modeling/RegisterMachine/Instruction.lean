import RegisterMachine.Numeral
import RegisterMachine.Opcode
import RegisterMachine.Register

set_option autoImplicit false

namespace RegisterMachine

inductive Instruction where
  | registers (op : RegisterOp) (r s t : Register)
  | offset (op : OffsetOp) (r : Register) (s : Word) (t : Register)
deriving DecidableEq, Repr

structure Operands where
  r : Word
  s : Word
  t : Word
deriving DecidableEq, Repr

inductive OperandError where
  | malformed (expected : String)
  | notAnInteger (field : String)
  | badRegister (value : Word)
deriving DecidableEq, Repr

inductive DecodeError where
  | invalidInstruction (tokens : String)
  | invalidOpcode (token : String)
  | invalidArguments (opcode : Opcode) (operands : String) (reason : OperandError)
deriving DecidableEq, Repr

def OperandError.message : OperandError → String
  | .malformed expected => "expected `" ++ expected ++ "`"
  | .notAnInteger field => "`" ++ field ++ "` is not an integer"
  | .badRegister value => "bad register: " ++ value.text

def DecodeError.message : DecodeError → String
  | .invalidInstruction tokens => "invalid instruction: '" ++ tokens ++ "'"
  | .invalidOpcode token => "invalid opcode: '" ++ token ++ "'"
  | .invalidArguments opcode operands _ =>
      "invalid arguments for opcode " ++ opcode.mnemonic ++ ": '" ++ operands ++ "'"

namespace Opcode

def template : Opcode → String
  | .onRegisters _ => "r,s,t"
  | .onOffset _ => "r,s(t)"

def writeOperands : Opcode → Operands → List Char
  | .onRegisters _, ⟨r, s, t⟩ => r.write ++ ',' :: s.write ++ ',' :: t.write
  | .onOffset _, ⟨r, s, t⟩ => r.write ++ ',' :: s.write ++ '(' :: t.write ++ [')']

def write (op : Opcode) (operands : Operands) : List Char :=
  op.mnemonic.toList.rightpad 4 ' ' ++ ' ' :: op.writeOperands operands

end Opcode

def Register.check (w : Word) : Except OperandError Register :=
  match Register.ofWord? w with
  | some r => .ok r
  | none => .error (.badRegister w)

namespace Instruction

def halt : Instruction := .registers .halt Register.first Register.first Register.first

instance : Inhabited Instruction := ⟨halt⟩

def opcode : Instruction → Opcode
  | .registers op _ _ _ => .onRegisters op
  | .offset op _ _ _ => .onOffset op

def operands : Instruction → Operands
  | .registers _ r s t => ⟨r.toWord, s.toWord, t.toWord⟩
  | .offset _ r s t => ⟨r.toWord, s, t.toWord⟩

def write (i : Instruction) : List Char := i.opcode.write i.operands

def text (i : Instruction) : String := String.ofList i.write

def checkOperands : Opcode → Operands → Except OperandError Instruction
  | .onRegisters op, ⟨r, s, t⟩ => do
    return .registers op (← Register.check r) (← Register.check s) (← Register.check t)
  | .onOffset op, ⟨r, s, t⟩ => do
    return .offset op (← Register.check r) s (← Register.check t)

def ofOperands (op : Opcode) (operands : Operands) : Except DecodeError Instruction :=
  (checkOperands op operands).mapError
    (.invalidArguments op (String.ofList (op.writeOperands operands)))

@[simp] theorem check_to_word (r : Register) : Register.check r.toWord = .ok r := by
  rw [Register.check, Register.of_word_to_word]

theorem of_operands_operands (i : Instruction) : ofOperands i.opcode i.operands = .ok i := by
  cases i with
  | registers op r s t =>
      simp only [ofOperands, opcode, operands, checkOperands, check_to_word]
      rfl
  | offset op r s t =>
      simp only [ofOperands, opcode, operands, checkOperands, check_to_word]
      rfl

end Instruction

end RegisterMachine
