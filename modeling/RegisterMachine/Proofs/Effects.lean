import RegisterMachine.Proofs.Sound

set_option autoImplicit false

namespace RegisterMachine

def Instruction.written? : Instruction → Option Register
  | .registers .halt _ _ _ => none
  | .registers .output _ _ _ => none
  | .registers _ r _ _ => some r
  | .offset .store _ _ _ => none
  | .offset (.jump _) _ _ _ => some Register.programCounter
  | .offset _ r _ _ => some r

namespace Machine

-- The registers that a step works with: the counter is already past the instruction, if there is
-- one.
def advancedRegisters (m : Machine) : Vector Word 8 :=
  if 0 ≤ m.pc.toInt ∧ m.pc.toInt < m.capacity.size then
    m.registers.set Register.programCounter (Int32.ofInt (m.pc.toInt + 1))
  else m.registers

def operand (m : Machine) (r : Register) : Word := m.advancedRegisters.get r

def stopStatus? (m : Machine) : Instruction → Option Status
  | .registers .halt _ _ _ => some .halted
  | .registers .div _ _ t => if m.get t = 0 then some .divideByZero else none
  | .registers _ _ _ _ => none
  | .offset .load _ s t => if m.dataIndex? (s + m.get t) = none then some .dataFault else none
  | .offset .store _ s t => if m.dataIndex? (s + m.get t) = none then some .dataFault else none
  | .offset _ _ _ _ => none

-- An instruction that stops the machine does nothing else, and one that does not leaves it running.
def Outcome (m : Machine) (stopped : Option Status) (later : Machine) : Prop :=
  match stopped with
  | some status => later = { m with status }
  | none => later.status = m.status

theorem execute_outcome (m : Machine) (i : Instruction) :
    (m.execute i).Always (m.Outcome (m.stopStatus? i)) := by
  cases i with
  | registers op r s t =>
      cases op with
      | halt => exact rfl
      | input => exact fun answer => rfl
      | output | add | sub | mul => exact rfl
      | div =>
          rw [execute, divide_always, stopStatus?]
          refine ⟨?_, ?_⟩
          · intro zero
            rw [if_pos zero]
            exact rfl
          · intro divisor
            rw [if_neg divisor]
            exact rfl
  | offset op r s t =>
      cases op with
      | load =>
          rw [execute, executeOffset, load_cell_always, stopStatus?]
          refine ⟨?_, ?_⟩
          · intro a found
            rw [if_neg (by simp [found])]
            exact rfl
          · intro missing
            rw [if_pos missing]
            exact rfl
      | store =>
          rw [execute, executeOffset, store_cell_always, stopStatus?]
          refine ⟨?_, ?_⟩
          · intro a found
            rw [if_neg (by simp [found])]
            exact rfl
          · intro missing
            rw [if_pos missing]
            exact rfl
      | loadAddress | loadConstant => exact rfl
      | jump test =>
          rw [execute, jump_always]
          exact ⟨fun _ => rfl, fun _ => rfl⟩

theorem execute_keeps_registers (m : Machine) (i : Instruction) (q : Register)
    (elsewhere : i.written? ≠ some q) :
    (m.execute i).Always fun later => later.get q = m.get q := by
  have kept : ∀ r w, some r ≠ some q → (m.set r w).get q = m.get q :=
    fun r w apart => get_set_of_ne m r q w fun same => apart (congrArg some same)
  cases i with
  | registers op r s t =>
      cases op with
      | halt | output => exact rfl
      | input => exact fun answer => kept r answer elsewhere
      | add | sub | mul => exact kept r _ elsewhere
      | div =>
          rw [execute, divide_always]
          exact ⟨fun _ => rfl, fun _ => kept r _ elsewhere⟩
  | offset op r s t =>
      cases op with
      | load =>
          rw [execute, executeOffset, load_cell_always]
          exact ⟨fun _ _ => kept r _ elsewhere, fun _ => rfl⟩
      | store =>
          rw [execute, executeOffset, store_cell_always]
          exact ⟨fun _ _ => rfl, fun _ => rfl⟩
      | loadAddress | loadConstant => exact kept r _ elsewhere
      | jump test =>
          rw [execute, jump_always]
          exact ⟨fun _ => kept Register.programCounter _ elsewhere, fun _ => rfl⟩

theorem fetched_inside (size : Nat) (m : Machine) (i : Instruction) (sound : m.Sound size)
    (fetched : m.instructionAt? m.pc = some i) : 0 ≤ m.pc.toInt ∧ m.pc.toInt < size := by
  obtain ⟨low, filled⟩ := (instruction_at_iff m m.pc i).mp fetched
  obtain ⟨high, -⟩ := Array.getElem?_eq_some_iff.mp filled
  have code := sound.code
  omega

theorem advance_registers (size : Nat) (m : Machine) (i : Instruction) (sound : m.Sound size)
    (fetched : m.instructionAt? m.pc = some i) :
    m.advance = { m with registers := m.advancedRegisters } := by
  have inside := fetched_inside size m i sound fetched
  rw [← sound.capacity] at inside
  have exact : Int32.ofInt (m.pc.toInt + 1) = m.pc + 1 := by
    rw [Int32.ofInt_add, Int32.ofInt_toInt]
    rfl
  rw [advancedRegisters, if_pos inside, exact]
  rfl

theorem advance_operand (size : Nat) (m : Machine) (i : Instruction) (sound : m.Sound size)
    (fetched : m.instructionAt? m.pc = some i) (r : Register) :
    m.advance.get r = m.operand r := by
  rw [advance_registers size m i sound fetched]
  rfl

theorem operand_counter (size : Nat) (m : Machine) (i : Instruction) (sound : m.Sound size)
    (bounded : size ≤ 2147483647) (fetched : m.instructionAt? m.pc = some i) :
    (m.operand Register.programCounter).toInt = m.pc.toInt + 1 := by
  rw [← advance_operand size m i sound fetched]
  exact advance_exact m i (sound.code ▸ bounded) fetched

end Machine

namespace Session

variable {κ : Type} [Console κ]

theorem step_after (s : Session κ) (i : Instruction) (P : Machine → Prop)
    (running : s.machine.status = .ok) (fetched : s.machine.instructionAt? s.machine.pc = some i)
    (held : (s.machine.advance.execute i).Always P) : P s.step.machine := by
  rw [step_machine]
  apply Dialogue.always_conduct
  exact (Machine.step_executes s.machine i P running fetched).mpr held

theorem step_outcome (s : Session κ) (i : Instruction) (running : s.machine.status = .ok)
    (fetched : s.machine.instructionAt? s.machine.pc = some i) :
    s.machine.advance.Outcome (s.machine.advance.stopStatus? i) s.step.machine :=
  step_after s i _ running fetched (Machine.execute_outcome _ i)

theorem step_faults (s : Session κ) (running : s.machine.status = .ok)
    (missing : s.machine.instructionAt? s.machine.pc = none) :
    s.step = ⟨{ s.machine with status := .instructionFault },
      (s.host.note (.stopped .instructionFault s.machine.pc)).report
        "Instruction memory access violation. Program halted."⟩ := by
  rw [step, Machine.step, if_pos ((Status.is_ok_iff _).mpr running), Machine.cycle, missing]
  rfl

end Session

end RegisterMachine
