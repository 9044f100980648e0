import RegisterMachine.Console.Script
import RegisterMachine.Proofs.Sound

set_option autoImplicit false

namespace RegisterMachine.Machine

def Outside (size : Nat) (w : Word) : Prop := w.toInt < 0 ∨ size ≤ w.toInt

def JustPast (size : Nat) (i : Instruction) (m : Machine) : Prop :=
  1 ≤ m.pc.toInt ∧ m.pc.toInt ≤ size ∧ m.code[(m.pc.toInt - 1).toNat]? = some i

def Explained (size : Nat) (m : Machine) : Prop :=
  match m.status with
  | .ok => True
  | .halted => ∃ r s t, m.JustPast size (.registers .halt r s t)
  | .divideByZero =>
      ∃ r s t, m.JustPast size (.registers .div r s t) ∧ t ≠ Register.programCounter ∧ m.get t = 0
  | .dataFault =>
      ∃ op r s t, (op = .load ∨ op = .store) ∧ m.JustPast size (.offset op r s t) ∧
        Outside size (s + m.get t)
  | .instructionFault => Outside size m.pc

theorem explained_of_running (size : Nat) (m : Machine) (running : m.status = .ok) :
    m.Explained size := by
  simp [Explained, running]

-- A counter that has advanced is at least 1, so it is never the divisor of a division by zero.
theorem just_past_counter_nonzero (size : Nat) (i : Instruction) (m : Machine)
    (past : m.JustPast size i) : m.get Register.programCounter ≠ 0 := by
  intro zero
  have first := past.1
  rw [pc, zero, Int32.toInt_zero] at first
  omega

theorem advance_just_past (size : Nat) (m : Machine) (i : Instruction) (code : m.code.size = size)
    (bounded : size ≤ 2147483647) (found : m.instructionAt? m.pc = some i) :
    m.advance.JustPast size i := by
  obtain ⟨start, filled⟩ := (instruction_at_iff m m.pc i).mp found
  obtain ⟨inside, -⟩ := Array.getElem?_eq_some_iff.mp filled
  have exact := advance_exact m i (code ▸ bounded) found
  have behind : m.pc.toInt + 1 - 1 = m.pc.toInt := by omega
  refine ⟨?_, ?_, ?_⟩
  · rw [exact]
    omega
  · rw [exact]
    omega
  · rw [exact, behind]
    exact filled

theorem divide_explained (size : Nat) (m : Machine) (r s t : Register) (running : m.status = .ok)
    (past : m.JustPast size (.registers .div r s t)) :
    (m.executeRegisters .div r s t).Always (Explained size) := by
  rw [divide_always]
  refine ⟨?_, fun _ => explained_of_running size _ running⟩
  intro zero
  refine ⟨r, s, t, past, ?_, zero⟩
  intro counter
  subst counter
  exact just_past_counter_nonzero size _ m past zero

theorem data_fault_explained (size : Nat) (m : Machine) (op : OffsetOp) (r : Register) (s : Word)
    (t : Register) (access : op = .load ∨ op = .store) (data : m.data.size = size)
    (past : m.JustPast size (.offset op r s t)) (missing : m.dataIndex? (s + m.get t) = none) :
    (m.stop .dataFault).Always (Explained size) := by
  have outside := (data_index_none_iff m _).mp missing
  rw [data] at outside
  exact ⟨op, r, s, t, access, past, outside⟩

-- Whatever does not stop the machine leaves it running, and a running machine needs no explanation.
theorem execute_explained (size : Nat) (m : Machine) (i : Instruction) (running : m.status = .ok)
    (data : m.data.size = size) (past : m.JustPast size i) :
    (m.execute i).Always (Explained size) := by
  cases i with
  | registers op r s t =>
      cases op with
      | halt => exact ⟨r, s, t, past⟩
      | div => exact divide_explained size m r s t running past
      | input => exact fun answer => explained_of_running size _ running
      | output | add | sub | mul => exact explained_of_running size _ running
  | offset op r s t =>
      cases op with
      | load =>
          rw [execute, executeOffset, load_cell_always]
          exact ⟨fun _ _ => explained_of_running size _ running,
            data_fault_explained size m .load r s t (.inl rfl) data past⟩
      | store =>
          rw [execute, executeOffset, store_cell_always]
          exact ⟨fun _ _ => explained_of_running size _ running,
            data_fault_explained size m .store r s t (.inr rfl) data past⟩
      | loadAddress | loadConstant => exact explained_of_running size _ running
      | jump test =>
          rw [execute, jump_always]
          exact ⟨fun _ => explained_of_running size _ running,
            fun _ => explained_of_running size _ running⟩

theorem step_explained (size : Nat) (m : Machine) (sound : m.Sound size)
    (bounded : size ≤ 2147483647) (explained : m.Explained size) :
    m.step.Always (Explained size) := by
  rw [step_always]
  refine ⟨fun _ => explained, fun running => ?_⟩
  rw [cycle_always]
  refine ⟨fun missing => ?_, fun i found => ?_⟩
  · have outside := (instruction_at_none_iff m m.pc).mp missing
    rw [sound.code] at outside
    exact outside
  · exact execute_explained size m.advance i running sound.data
      (advance_just_past size m i sound.code bounded found)

theorem load_explained (size : Nat) (program : Program) (m : Machine) :
    (m.load program).2.Explained size := by
  apply explained_of_running
  by_cases fits : program.length ≤ (m.restart true).capacity.size
  · simp only [load, if_pos fits]
    rfl
  · simp only [load, if_neg fits]
    rfl

theorem explained_stable (size : Nat) (bounded : size ≤ 2147483647) :
    Stable fun m => m.Sound size ∧ m.Explained size where
  restart m cleared held :=
    ⟨restart_sound size cleared m held.1, explained_of_running size _ rfl⟩
  load m program held := ⟨load_sound size program m held.1, load_explained size program m⟩
  step m held :=
    Dialogue.always_and _ _ _ (step_sound size m held.1) (step_explained size m held.1 bounded held.2)
  setTrace m on held := ⟨(sound_stable size).setTrace m on held.1, held.2⟩

theorem reachable_explained (capacity : Capacity) (m : Machine) (reached : Reachable capacity m) :
    m.Explained capacity.size :=
  (reachable_stable capacity _ (explained_stable capacity.size capacity.bounded)
    ⟨start_sound capacity, explained_of_running _ _ rfl⟩ m reached).2

theorem stopped_machine_shows_cause (capacity : Capacity) (m : Machine)
    (reached : Reachable capacity m) :
    (m.status = .halted → ∃ r s t, m.JustPast capacity.size (.registers .halt r s t)) ∧
      (m.status = .divideByZero → ∃ r s t, m.JustPast capacity.size (.registers .div r s t) ∧
        t ≠ Register.programCounter ∧ m.get t = 0) ∧
      (m.status = .dataFault → ∃ op r s t, (op = .load ∨ op = .store) ∧
        m.JustPast capacity.size (.offset op r s t) ∧ Outside capacity.size (s + m.get t)) ∧
      (m.status = .instructionFault → Outside capacity.size m.pc) := by
  have explained := reachable_explained capacity m reached
  refine ⟨?_, ?_, ?_, ?_⟩ <;> intro stopped <;> simpa only [Explained, stopped] using explained

theorem load_below_memory_shows_cause :
    ∃ m : Machine, Reachable { size := 2 } m ∧ m.status = .dataFault ∧
      ∃ op r s t, (op = .load ∨ op = .store) ∧ m.JustPast 2 (.offset op r s t) ∧
        Outside 2 (s + m.get t) := by
  let console : Script := { inputs := [] }
  let program : Program := [.offset .load Register.first (-3) Register.programCounter]
  let fresh := Session.start { size := 2 } console
  let loaded := (fresh.load program).2
  have reached : Reachable { size := 2 } loaded.step.machine :=
    .perform (.perform (.start console) (.load program fresh)) (.step loaded)
  have stopped : loaded.step.machine.status = .dataFault := by decide
  exact ⟨loaded.step.machine, reached, stopped,
    (stopped_machine_shows_cause _ _ reached).2.2.1 stopped⟩

end RegisterMachine.Machine
