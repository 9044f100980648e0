import RegisterMachine.Console.Script
import RegisterMachine.Proofs.Effects
import RegisterMachine.Proofs.StopCause
import RegisterMachine.Proofs.Wrapping

set_option autoImplicit false

namespace RegisterMachine

namespace Machine

def StopsNext (m : Machine) : Status → Prop
  | .ok => False
  | .halted => ∃ r s t, m.instructionAt? m.pc = some (.registers .halt r s t)
  | .divideByZero =>
      ∃ r s t, m.instructionAt? m.pc = some (.registers .div r s t) ∧ m.operand t = 0
  | .instructionFault => Outside m.capacity.size m.pc
  | .dataFault =>
      ∃ op r s t address, (op = .load ∨ op = .store) ∧
        m.instructionAt? m.pc = some (.offset op r s t) ∧
        Word.Represents address (s.toInt + (m.operand t).toInt) ∧
        Outside m.capacity.size address

theorem stop_status_halted_iff (m : Machine) (i : Instruction) :
    m.stopStatus? i = some .halted ↔ ∃ r s t, i = .registers .halt r s t := by
  cases i with
  | registers op r s t => cases op <;> simp [stopStatus?]
  | offset op r s t => cases op <;> simp [stopStatus?]

theorem stop_status_division_iff (m : Machine) (i : Instruction) :
    m.stopStatus? i = some .divideByZero ↔ ∃ r s t, i = .registers .div r s t ∧ m.get t = 0 := by
  cases i with
  | registers op r s t => cases op <;> simp [stopStatus?]
  | offset op r s t => cases op <;> simp [stopStatus?]

theorem stop_status_data_iff (m : Machine) (i : Instruction) :
    m.stopStatus? i = some .dataFault ↔ ∃ op r s t, (op = .load ∨ op = .store) ∧
      i = .offset op r s t ∧ m.dataIndex? (s + m.get t) = none := by
  cases i with
  | registers op r s t => cases op <;> simp [stopStatus?]
  | offset op r s t => cases op <;> simp [stopStatus?]

theorem stop_status_cause (m : Machine) (i : Instruction) (status : Status)
    (stopped : m.stopStatus? i = some status) :
    status = .halted ∨ status = .divideByZero ∨ status = .dataFault := by
  cases i with
  | registers op r s t => cases op <;> simp_all [stopStatus?]
  | offset op r s t => cases op <;> simp_all [stopStatus?]

section Fetched

variable (size : Nat) (m : Machine) (i : Instruction) (sound : m.Sound size)
  (fetched : m.instructionAt? m.pc = some i)

include sound fetched

theorem stops_division_iff :
    m.advance.stopStatus? i = some .divideByZero ↔ m.StopsNext .divideByZero := by
  rw [stop_status_division_iff]
  simp only [advance_operand size m i sound fetched, StopsNext, fetched, Option.some.injEq]

theorem stops_data_iff : m.advance.stopStatus? i = some .dataFault ↔ m.StopsNext .dataFault := by
  have wrapped : ∀ (address s : Word) (t : Register),
      address.Represents (s.toInt + (m.operand t).toInt) ↔
        address = s + m.advance.get t := by
    intro address s t
    rw [Word.represents_iff, ← advance_operand size m i sound fetched, Int32.ofInt_add,
      Int32.ofInt_toInt, Int32.ofInt_toInt]
  have missing : ∀ address, m.advance.dataIndex? address = none ↔
      Outside m.capacity.size address := by
    intro address
    rw [data_index_none_iff, advance_data, sound.data, ← sound.capacity]
    rfl
  rw [stop_status_data_iff]
  simp only [missing, StopsNext, fetched, Option.some.injEq, wrapped]
  refine ⟨?_, ?_⟩
  · intro cause
    obtain ⟨op, r, s, t, access, same, outside⟩ := cause
    exact ⟨op, r, s, t, _, access, same, rfl, outside⟩
  · intro cause
    obtain ⟨op, r, s, t, address, access, same, rfl, outside⟩ := cause
    exact ⟨op, r, s, t, access, same, outside⟩

theorem stops_next_iff (status : Status) :
    m.advance.stopStatus? i = some status ↔ m.StopsNext status := by
  have foreign : status = .ok ∨ status = .instructionFault →
      m.advance.stopStatus? i ≠ some status := by
    intro other stopped
    rcases stop_status_cause m.advance i status stopped with rfl | rfl | rfl <;> simp at other
  cases status with
  | ok => exact iff_of_false (foreign (.inl rfl)) id
  | halted =>
      rw [stop_status_halted_iff]
      simp only [StopsNext, fetched, Option.some.injEq]
  | divideByZero => exact stops_division_iff size m i sound fetched
  | instructionFault =>
      have inside := fetched_inside size m i sound fetched
      rw [← sound.capacity] at inside
      refine iff_of_false (foreign (.inr rfl)) ?_
      intro outside
      simp only [StopsNext, Outside] at outside
      omega
  | dataFault => exact stops_data_iff size m i sound fetched

end Fetched

theorem stops_without_instruction (size : Nat) (m : Machine) (sound : m.Sound size)
    (missing : m.instructionAt? m.pc = none) (status : Status) :
    m.StopsNext status ↔ status = .instructionFault := by
  cases status with
  | instructionFault =>
      have outside := (instruction_at_none_iff m m.pc).mp missing
      rw [sound.code, ← sound.capacity] at outside
      exact iff_of_true outside rfl
  | ok | halted | divideByZero | dataFault => simp [StopsNext, missing]

end Machine

namespace Session

variable {κ : Type} [Console κ]

theorem step_status_iff (size : Nat) (s : Session κ) (sound : s.machine.Sound size)
    (running : s.machine.status = .ok) (status : Status) (stopped : status ≠ .ok) :
    s.step.machine.status = status ↔ s.machine.StopsNext status := by
  cases fetched : s.machine.instructionAt? s.machine.pc with
  | none =>
      rw [step_faults s running fetched, Machine.stops_without_instruction size _ sound fetched]
      exact eq_comm
  | some i =>
      have outcome := step_outcome s i running fetched
      rw [← Machine.stops_next_iff size _ i sound fetched]
      cases cause : s.machine.advance.stopStatus? i with
      | none =>
          have still : s.step.machine.status = .ok := by
            rw [cause] at outcome
            exact outcome.trans running
          simp [still, stopped.symm]
      | some found =>
          rw [cause] at outcome
          rw [outcome, Option.some.injEq]

theorem step_ends (size : Nat) (s : Session κ) (sound : s.machine.Sound size)
    (running : s.machine.status = .ok) (status : Status) (stops : s.machine.StopsNext status) :
    s.step.machine.status = status := by
  have stopped : status ≠ .ok := by
    intro same
    subst same
    exact stops
  exact (step_status_iff size s sound running status stopped).mpr stops

-- A stop by an instruction has moved the counter past it, and nothing else.
theorem step_stopped_by_instruction (size : Nat) (s : Session κ) (sound : s.machine.Sound size)
    (running : s.machine.status = .ok) (status : Status) (cause : status ≠ .instructionFault)
    (stops : s.machine.StopsNext status) :
    s.step.machine = { s.machine with registers := s.machine.advancedRegisters, status } := by
  cases fetched : s.machine.instructionAt? s.machine.pc with
  | none =>
      exact absurd ((Machine.stops_without_instruction size _ sound fetched status).mp stops) cause
  | some i =>
      have outcome := step_outcome s i running fetched
      rw [(Machine.stops_next_iff size _ i sound fetched status).mpr stops] at outcome
      apply outcome.trans
      rw [Machine.advance_registers size _ i sound fetched]

end Session

theorem step_stops_for_its_cause {κ : Type} [Console κ] (capacity : Capacity) (s : Session κ)
    (reached : Reachable capacity s.machine) (running : s.machine.status = .ok) :
    (∀ status, status ≠ .ok →
      (s.step.machine.status = status ↔ s.machine.StopsNext status)) ∧
      (s.step.machine.status = .ok ↔ ∀ status, ¬ s.machine.StopsNext status) ∧
      (∀ r a, s.machine.instructionAt? s.machine.pc =
          some (.registers .div r a Register.programCounter) →
        s.step.machine.status ≠ .divideByZero) ∧
      (s.step.machine.status = .instructionFault →
        s.step = ⟨{ s.machine with status := .instructionFault },
          (s.host.note (.stopped .instructionFault s.machine.pc)).report
            "Instruction memory access violation. Program halted."⟩) ∧
      ∀ status, status = .halted ∨ status = .divideByZero ∨ status = .dataFault →
        s.step.machine.status = status →
          s.step.machine =
            { s.machine with registers := s.machine.advancedRegisters, status } := by
  have sound := Machine.reachable_sound capacity s.machine reached
  have exactly := Session.step_status_iff capacity.size s sound running
  refine ⟨exactly, ?_, ?_, ?_, ?_⟩
  · refine ⟨?_, ?_⟩
    · intro still status stops
      have ended := Session.step_ends capacity.size s sound running status stops
      rw [← ended, still] at stops
      exact stops
    · intro nothing
      by_contra stopped
      exact nothing _ ((exactly _ stopped).mp rfl)
  · intro r a fetched stopped
    obtain ⟨r', a', t, again, zero⟩ := (exactly .divideByZero (by decide)).mp stopped
    have counter := Machine.operand_counter capacity.size _ _ sound capacity.bounded fetched
    have inside := Machine.fetched_inside capacity.size _ _ sound fetched
    rw [fetched] at again
    cases again
    rw [zero, Int32.toInt_zero] at counter
    omega
  · intro stopped
    have outside := (exactly .instructionFault (by decide)).mp stopped
    apply Session.step_faults s running
    apply (Machine.instruction_at_none_iff s.machine s.machine.pc).mpr
    rw [sound.code, ← sound.capacity]
    exact outside
  · intro status cause ended
    have other : status ≠ .ok ∧ status ≠ .instructionFault := by
      rcases cause with rfl | rfl | rfl <;> decide
    have stops := (exactly status other.1).mp ended
    exact Session.step_stopped_by_instruction capacity.size s sound running status other.2 stops

theorem wrapped_store_stops :
    let program : Program := [.offset .store 7 2147483647 7]
    let s := ((Session.start { size := 2 } ({ inputs := [] } : Script)).load program).2
    Reachable { size := 2 } s.machine ∧ s.machine.status = .ok ∧
      s.machine.StopsNext .dataFault ∧ s.step.machine.status = .dataFault ∧
      s.step.machine =
        { s.machine with registers := s.machine.advancedRegisters, status := .dataFault } := by
  intro program s
  have reached : Reachable { size := 2 } s.machine :=
    .perform (.start ({ inputs := [] } : Script)) (.load program _)
  have wrapped : Word.Represents (-2147483648)
      ((2147483647 : Word).toInt + (s.machine.operand 7).toInt) :=
    (Word.represents_iff _ _).mpr (by decide)
  have cause : s.machine.StopsNext .dataFault :=
    ⟨.store, 7, 2147483647, 7, -2147483648, .inr rfl, by decide, wrapped, .inl (by decide)⟩
  obtain ⟨stops, -, -, -, left⟩ := step_stops_for_its_cause { size := 2 } s reached rfl
  have stopped := (stops .dataFault (by decide)).mpr cause
  exact ⟨reached, rfl, cause, stopped, left .dataFault (.inr (.inr rfl)) stopped⟩

end RegisterMachine
