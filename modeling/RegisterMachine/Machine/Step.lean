import RegisterMachine.Dialogue
import RegisterMachine.Machine

set_option autoImplicit false

namespace RegisterMachine.Machine

def stop (m : Machine) (status : Status) : Dialogue Machine :=
  .log (.stopped status m.pc) (.done { m with status })

def loadCell (m : Machine) (r : Register) (address : Word) : Dialogue Machine :=
  match m.dataIndex? address with
  | some i => .done (m.set r (m.data[i]?.getD 0))
  | none => m.stop .dataFault

def storeCell (m : Machine) (r : Register) (address : Word) : Dialogue Machine :=
  match m.dataIndex? address with
  | some i => .done { m with data := m.data.setIfInBounds i (m.get r) }
  | none => m.stop .dataFault

def inputPrompt (r : Register) : String := "Enter number to store in register " ++ r.val.repr

def executeRegisters (m : Machine) (op : RegisterOp) (r s t : Register) : Dialogue Machine :=
  match op with
  | .halt => m.stop .halted
  | .input => .ask (inputPrompt r) 0 fun answer => .done (m.set r answer)
  | .output => .report (m.get r).text (.done m)
  | .add => .done (m.set r (m.get s + m.get t))
  | .sub => .done (m.set r (m.get s - m.get t))
  | .mul => .done (m.set r (m.get s * m.get t))
  -- Division truncates; the least word divided by -1 wraps like all other results.
  | .div => if m.get t = 0 then m.stop .divideByZero else .done (m.set r (m.get s / m.get t))

def executeOffset (m : Machine) (op : OffsetOp) (r : Register) (s : Word) (t : Register) :
    Dialogue Machine :=
  let sum := s + m.get t
  match op with
  | .load => m.loadCell r sum
  | .store => m.storeCell r sum
  | .loadAddress => .done (m.set r sum)
  | .loadConstant => .done (m.set r s)
  | .jump test =>
      .done (if test.holds (m.get r) then m.set Register.programCounter sum else m)

-- Executes an instruction on a machine whose program counter is already past it.
def execute (m : Machine) : Instruction → Dialogue Machine
  | .registers op r s t => m.executeRegisters op r s t
  | .offset op r s t => m.executeOffset op r s t

def advance (m : Machine) : Machine := m.set Register.programCounter (m.pc + 1)

def traceLine (i : Instruction) : String := "Executing: " ++ i.text

def cycle (m : Machine) : Dialogue Machine :=
  match m.instructionAt? m.pc with
  | some i =>
      -- The log names the slot of the instruction, not the advanced counter.
      let execution := .log (.executing m.pc i) (m.advance.execute i)
      if m.trace then .report (traceLine i) execution else execution
  | none => m.stop .instructionFault

def showNotice (m : Machine) : Dialogue Machine :=
  match m.status.notice? with
  | some notice => .report notice (.done m)
  | none => .done m

def step (m : Machine) : Dialogue Machine :=
  if m.status.isOk then m.cycle.bind showNotice else m.showNotice

end RegisterMachine.Machine
