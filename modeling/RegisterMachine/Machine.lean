import RegisterMachine.Capacity
import RegisterMachine.Program
import RegisterMachine.Status

set_option autoImplicit false

namespace RegisterMachine

structure Machine where
  capacity : Capacity
  registers : Vector Word 8
  data : Array Word
  code : Array Instruction
  status : Status
  trace : Bool
deriving DecidableEq, Repr

namespace Machine

-- A data memory before its first use: cell 0 holds the highest address, the others hold 0.
def blankData (capacity : Capacity) : Array Word :=
  (Array.replicate capacity.size 0).setIfInBounds 0 (Int32.ofNat (capacity.size - 1))

def blankCode (capacity : Capacity) : Array Instruction :=
  Array.replicate capacity.size .halt

def start (capacity : Capacity) : Machine where
  capacity := capacity
  registers := Vector.replicate 8 0
  data := blankData capacity
  code := blankCode capacity
  status := .ok
  trace := false

def restart (cleared : Bool) (m : Machine) : Machine where
  capacity := m.capacity
  registers := Vector.replicate 8 0
  data := blankData m.capacity
  code := if cleared then blankCode m.capacity else m.code
  status := .ok
  trace := m.trace

def codeOf (capacity : Capacity) (program : Program) : Array Instruction :=
  program.toArray ++ Array.replicate (capacity.size - program.length) .halt

def load (program : Program) (m : Machine) : Except LoadError Nat × Machine :=
  let m := m.restart true
  if program.length ≤ m.capacity.size then
    (.ok program.length, { m with code := codeOf m.capacity program })
  else
    (.error (.tooLarge program.length m.capacity.size), m)

def loadSource (source : String) (m : Machine) : Except LoadError Nat × Machine :=
  match Program.parse source with
  | .ok program => m.load program
  | .error e => (.error e, m.restart true)

def setTrace (on : Bool) (m : Machine) : Machine := { m with trace := on }

def get (m : Machine) (r : Register) : Word := m.registers[r]

def set (m : Machine) (r : Register) (w : Word) : Machine :=
  { m with registers := m.registers.set r w }

def pc (m : Machine) : Word := m.get Register.programCounter

def register? (m : Machine) (index : Nat) : Option Word := m.registers[index]?

def between? {α : Type} (cells : Array α) (first last : Nat) : Option (Array α) :=
  if first ≤ last ∧ last < cells.size then some (cells.extract first (last + 1)) else none

def dataBetween? (m : Machine) (first last : Nat) : Option (Array Word) :=
  between? m.data first last

def codeBetween? (m : Machine) (first last : Nat) : Option (Array Instruction) :=
  between? m.code first last

def instructionAt? (m : Machine) (slot : Word) : Option Instruction :=
  slot.index?.bind fun i => m.code[i]?

def dataIndex? (m : Machine) (address : Word) : Option Nat :=
  address.index?.filter fun i => decide (i < m.data.size)

@[simp] theorem get_set_same (m : Machine) (r : Register) (w : Word) : (m.set r w).get r = w := by
  simp [get, set]

theorem get_set_of_ne (m : Machine) (r s : Register) (w : Word) (different : r ≠ s) :
    (m.set r w).get s = m.get s := by
  have apart : (r : Nat) ≠ s := fun same => different (Fin.ext same)
  simp [get, set, apart]

end Machine

end RegisterMachine
