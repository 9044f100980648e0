import RegisterMachine.Proofs.Sound

set_option autoImplicit false

namespace RegisterMachine

-- Throughout, `none` stands for a failed primitive.
namespace Checked

def getRegister (m : Machine) (index : Word) : Option Word := index.index?.bind m.register?

def setRegister (m : Machine) (index value : Word) : Option Machine :=
  index.index?.bind fun i =>
    if inside : i < 8 then some { m with registers := m.registers.set i value inside } else none

def increment (w : Word) : Option Word := Word.ofInt? (w.toInt + 1)

def put {α : Type} (cells : Array α) (i : Nat) (value : α) : Option (Array α) :=
  if inside : i < cells.size then some (cells.set i value inside) else none

-- The block must lie within the cells, and its source must be as long as the block.
def copyToFront {α : Type} (cells source : Array α) (length : Nat) : Option (Array α) :=
  if length ≤ cells.size ∧ source.size = length then
    some (source ++ cells.extract length cells.size)
  else none

def highestAddress : Nat → Option Word
  | 0 => none
  | n + 1 => Word.ofInt? n

def attempt {α β : Type} : Option α → (α → Dialogue (Option β)) → Dialogue (Option β)
  | some a, follow => follow a
  | none, _ => .done none

def restart (cleared : Bool) (m : Machine) : Option Machine := do
  let size := m.capacity.size
  let data ← put (Array.replicate size 0) 0 (← highestAddress size)
  let code := if cleared then Array.replicate size Instruction.halt else m.code
  return { m with registers := Vector.replicate 8 0, data, code, status := .ok }

def load (program : Program) (m : Machine) : Option (Except LoadError Nat × Machine) := do
  let m ← restart true m
  if m.capacity.size < program.length then
    return (.error (.tooLarge program.length m.capacity.size), m)
  else
    let code ← copyToFront m.code program.toArray program.length
    return (.ok program.length, { m with code })

def loadSource (source : String) (m : Machine) : Option (Except LoadError Nat × Machine) := do
  let m ← restart true m
  match Program.parse source with
  | .ok program => load program m
  | .error e => return (.error e, m)

def stop (m : Machine) (status : Status) : Dialogue (Option Machine) := (m.stop status).map some

def loadCell (m : Machine) (r address : Word) : Dialogue (Option Machine) :=
  match m.dataIndex? address with
  | some i => .done (do setRegister m r (← m.data[i]?))
  | none => stop m .dataFault

def storeCell (m : Machine) (r address : Word) : Dialogue (Option Machine) :=
  match m.dataIndex? address with
  | some i => .done (do return { m with data := ← put m.data i (← getRegister m r) })
  | none => stop m .dataFault

def combine (operation : Word → Word → Word) (m : Machine) (o : Operands) :
    Option Machine := do
  setRegister m o.r (operation (← getRegister m o.s) (← getRegister m o.t))

def executeRegisters (m : Machine) (op : RegisterOp) (o : Operands) : Dialogue (Option Machine) :=
  match op with
  | .halt => stop m .halted
  | .input =>
      .ask ("Enter number to store in register " ++ o.r.text) 0 fun answer =>
        .done (setRegister m o.r answer)
  | .output => attempt (getRegister m o.r) fun w => .report w.text (.done (some m))
  | .add => .done (combine (· + ·) m o)
  | .sub => .done (combine (· - ·) m o)
  | .mul => .done (combine (· * ·) m o)
  | .div =>
      attempt (getRegister m o.t) fun divisor =>
        if divisor = 0 then stop m .divideByZero else .done (combine (· / ·) m o)

def executeOffset (m : Machine) (op : OffsetOp) (o : Operands) (address : Word) :
    Dialogue (Option Machine) :=
  match op with
  | .load => loadCell m o.r address
  | .store => storeCell m o.r address
  | .loadAddress => .done (setRegister m o.r address)
  | .loadConstant => .done (setRegister m o.r o.s)
  | .jump test =>
      attempt (getRegister m o.r) fun w =>
        .done (some (if test.holds w then m.set Register.programCounter address else m))

-- The base register is read before the operation is looked at, whether it needs an address or not.
def execute (m : Machine) (op : Opcode) (o : Operands) : Dialogue (Option Machine) :=
  attempt (getRegister m o.t) fun base =>
    match op with
    | .onRegisters op => executeRegisters m op o
    | .onOffset op => executeOffset m op o (o.s + base)

def cycle (m : Machine) : Dialogue (Option Machine) :=
  match m.instructionAt? m.pc with
  | some i =>
      attempt (increment m.pc) fun next =>
        let execution :=
          .log (.executing m.pc i) (execute (m.set Register.programCounter next) i.opcode i.operands)
        if m.trace then .report (Machine.traceLine i) execution else execution
  | none => stop m .instructionFault

def step (m : Machine) : Dialogue (Option Machine) :=
  if m.status.isOk then
    (cycle m).bind fun later => attempt later fun later => later.showNotice.map some
  else m.showNotice.map some

def stepSession {κ : Type} [Console κ] (s : Session κ) : Option (Session κ) :=
  let (later, host) := (step s.machine).conduct s.host
  later.map fun machine => { machine, host }

-- A run that needs more than `limit` steps has not failed: it is `some none`.
def runFor {κ : Type} [Console κ] : Nat → Session κ → Option (Option (Session κ))
  | 0, _ => some none
  | limit + 1, s => do
    let s ← stepSession s
    if s.machine.status.isOk then runFor limit s else return some s

end Checked

end RegisterMachine
