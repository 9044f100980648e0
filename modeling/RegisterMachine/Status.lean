set_option autoImplicit false

namespace RegisterMachine

inductive Status where
  | ok
  | halted
  | divideByZero
  | instructionFault
  | dataFault
deriving DecidableEq, Repr

namespace Status

def all : List Status := [.ok, .halted, .divideByZero, .instructionFault, .dataFault]

def name : Status → String
  | .ok => "Ok"
  | .halted => "Halted"
  | .divideByZero => "DivideByZero"
  | .instructionFault => "InstructionFault"
  | .dataFault => "DataFault"

def notice? : Status → Option String
  | .ok => none
  | .halted => some "Program halted."
  | .divideByZero => some "Divide by zero error. Program halted."
  | .instructionFault => some "Instruction memory access violation. Program halted."
  | .dataFault => some "Data memory access violation. Program halted."

def isOk (status : Status) : Bool := status == .ok

theorem is_ok_iff (status : Status) : status.isOk = true ↔ status = .ok := by
  cases status <;> decide

theorem notice_none_iff (status : Status) : status.notice? = none ↔ status = .ok := by
  cases status <;> simp [notice?]

end Status

end RegisterMachine
