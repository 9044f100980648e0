import RegisterMachine.Word

set_option autoImplicit false

namespace RegisterMachine

inductive Test where
  | negative
  | notPositive
  | positive
  | notNegative
  | zero
  | notZero
deriving DecidableEq, Repr

def Test.holds : Test → Word → Bool
  | .negative, w => decide (w < 0)
  | .notPositive, w => decide (w ≤ 0)
  | .positive, w => decide (0 < w)
  | .notNegative, w => decide (0 ≤ w)
  | .zero, w => w == 0
  | .notZero, w => w != 0

inductive RegisterOp where
  | halt
  | input
  | output
  | add
  | sub
  | mul
  | div
deriving DecidableEq, Repr

inductive OffsetOp where
  | load
  | store
  | loadAddress
  | loadConstant
  | jump (test : Test)
deriving DecidableEq, Repr

inductive Opcode where
  | onRegisters (op : RegisterOp)
  | onOffset (op : OffsetOp)
deriving DecidableEq, Repr

inductive Format where
  | registers
  | memory
  | address
deriving DecidableEq, Repr

namespace Opcode

def all : List Opcode :=
  [.onRegisters .halt, .onRegisters .input, .onRegisters .output, .onRegisters .add,
    .onRegisters .sub, .onRegisters .mul, .onRegisters .div, .onOffset .load, .onOffset .store,
    .onOffset .loadAddress, .onOffset .loadConstant, .onOffset (.jump .negative),
    .onOffset (.jump .notPositive), .onOffset (.jump .positive), .onOffset (.jump .notNegative),
    .onOffset (.jump .zero), .onOffset (.jump .notZero)]

def mnemonic : Opcode → String
  | .onRegisters .halt => "HALT"
  | .onRegisters .input => "IN"
  | .onRegisters .output => "OUT"
  | .onRegisters .add => "ADD"
  | .onRegisters .sub => "SUB"
  | .onRegisters .mul => "MUL"
  | .onRegisters .div => "DIV"
  | .onOffset .load => "LD"
  | .onOffset .store => "ST"
  | .onOffset .loadAddress => "LDA"
  | .onOffset .loadConstant => "LDC"
  | .onOffset (.jump .negative) => "JLT"
  | .onOffset (.jump .notPositive) => "JLE"
  | .onOffset (.jump .positive) => "JGT"
  | .onOffset (.jump .notNegative) => "JGE"
  | .onOffset (.jump .zero) => "JEQ"
  | .onOffset (.jump .notZero) => "JNE"

def format : Opcode → Format
  | .onRegisters _ => .registers
  | .onOffset .load => .memory
  | .onOffset .store => .memory
  | .onOffset _ => .address

def ofMnemonic? (text : String) : Option Opcode :=
  all.find? fun op => decide (op.mnemonic = text)

def unknownMnemonic : String := "Matching variant not found"

theorem mem_all (op : Opcode) : op ∈ all := by
  rcases op with op | op
  · cases op <;> decide
  · rcases op with _ | _ | _ | _ | test
    case jump => cases test <;> decide
    all_goals decide

theorem mnemonic_injective (a b : Opcode) (same : a.mnemonic = b.mnemonic) : a = b := by
  have distinct : ∀ x ∈ all, ∀ y ∈ all, x.mnemonic = y.mnemonic → x = y := by decide
  exact distinct a (mem_all a) b (mem_all b) same

theorem of_mnemonic_some_iff (text : String) (op : Opcode) :
    ofMnemonic? text = some op ↔ op.mnemonic = text := by
  refine ⟨?_, ?_⟩
  · intro found
    simpa using List.find?_some found
  · intro named
    subst named
    cases found : ofMnemonic? op.mnemonic with
    | none =>
        have absent := List.find?_eq_none.mp found op (mem_all op)
        simp at absent
    | some other =>
        have same : other.mnemonic = op.mnemonic := by simpa using List.find?_some found
        rw [mnemonic_injective other op same]

theorem of_mnemonic_none_iff (text : String) :
    ofMnemonic? text = none ↔ ∀ op : Opcode, op.mnemonic ≠ text := by
  refine ⟨?_, ?_⟩
  · intro missing op same
    rw [(of_mnemonic_some_iff text op).mpr same] at missing
    cases missing
  · intro foreign
    cases found : ofMnemonic? text with
    | none => rfl
    | some op => exact absurd ((of_mnemonic_some_iff text op).mp found) (foreign op)

end Opcode

end RegisterMachine
