import RegisterMachine.Machine.Step
import RegisterMachine.Proofs.Outcome

set_option autoImplicit false

namespace RegisterMachine.Machine

@[simp] theorem set_capacity (m : Machine) (r : Register) (w : Word) :
    (m.set r w).capacity = m.capacity := rfl

@[simp] theorem set_data (m : Machine) (r : Register) (w : Word) : (m.set r w).data = m.data := rfl

@[simp] theorem set_code (m : Machine) (r : Register) (w : Word) : (m.set r w).code = m.code := rfl

@[simp] theorem set_status (m : Machine) (r : Register) (w : Word) :
    (m.set r w).status = m.status := rfl

@[simp] theorem advance_capacity (m : Machine) : m.advance.capacity = m.capacity := rfl

@[simp] theorem advance_data (m : Machine) : m.advance.data = m.data := rfl

@[simp] theorem advance_code (m : Machine) : m.advance.code = m.code := rfl

@[simp] theorem advance_status (m : Machine) : m.advance.status = m.status := rfl

@[simp] theorem advance_pc (m : Machine) : m.advance.pc = m.pc + 1 :=
  get_set_same m Register.programCounter (m.pc + 1)

theorem stop_always (m : Machine) (status : Status) (P : Machine → Prop) :
    (m.stop status).Always P ↔ P { m with status } := Iff.rfl

theorem show_notice_always (m : Machine) (P : Machine → Prop) : m.showNotice.Always P ↔ P m := by
  unfold showNotice
  cases m.status.notice? <;> rfl

theorem cycle_always (m : Machine) (P : Machine → Prop) :
    m.cycle.Always P ↔
      (m.instructionAt? m.pc = none → P { m with status := .instructionFault }) ∧
        ∀ i, m.instructionAt? m.pc = some i → (m.advance.execute i).Always P := by
  unfold cycle
  cases found : m.instructionAt? m.pc with
  | none => simp [stop]
  | some i => cases m.trace <;> simp

theorem step_always (m : Machine) (P : Machine → Prop) :
    m.step.Always P ↔ (m.status ≠ .ok → P m) ∧ (m.status = .ok → m.cycle.Always P) := by
  unfold step
  by_cases running : m.status = .ok
  · have shown : ∀ later : Machine, later.showNotice.Always P ↔ P later :=
      fun later => show_notice_always later P
    simp [running, Status.isOk, Dialogue.always_bind, shown]
  · simp [running, Status.isOk, show_notice_always]

theorem step_executes (m : Machine) (i : Instruction) (P : Machine → Prop)
    (running : m.status = .ok) (fetched : m.instructionAt? m.pc = some i) :
    m.step.Always P ↔ (m.advance.execute i).Always P := by
  rw [step_always, cycle_always]
  simp [running, fetched]

theorem instruction_at_iff (m : Machine) (slot : Word) (i : Instruction) :
    m.instructionAt? slot = some i ↔ 0 ≤ slot.toInt ∧ m.code[slot.toInt.toNat]? = some i := by
  unfold instructionAt?
  cases named : slot.index? with
  | none =>
      rw [Word.index_none_iff] at named
      simp only [Option.bind_none, reduceCtorEq, false_iff]
      omega
  | some n =>
      rw [Word.index_some_iff] at named
      simp [named]

theorem instruction_at_none_iff (m : Machine) (slot : Word) :
    m.instructionAt? slot = none ↔ slot.toInt < 0 ∨ m.code.size ≤ slot.toInt := by
  unfold instructionAt?
  cases named : slot.index? with
  | none =>
      rw [Word.index_none_iff] at named
      simp [named]
  | some n =>
      rw [Word.index_some_iff] at named
      simp only [Option.bind_some, Array.getElem?_eq_none_iff]
      omega

-- The counter of a fetched instruction is below the greatest word, so its advance does not wrap.
theorem advance_exact (m : Machine) (i : Instruction) (bounded : m.code.size ≤ 2147483647)
    (fetched : m.instructionAt? m.pc = some i) : m.advance.pc.toInt = m.pc.toInt + 1 := by
  obtain ⟨start, filled⟩ := (instruction_at_iff m m.pc i).mp fetched
  obtain ⟨inside, -⟩ := Array.getElem?_eq_some_iff.mp filled
  rw [advance_pc, Int32.toInt_add, Int32.toInt_one, Int.bmod_eq_of_le (by omega) (by omega)]

theorem data_index_iff (m : Machine) (address : Word) (n : Nat) :
    m.dataIndex? address = some n ↔ address.toInt = n ∧ n < m.data.size := by
  simp only [dataIndex?, Option.filter_eq_some_iff, Word.index_some_iff, decide_eq_true_eq]

theorem data_index_none_iff (m : Machine) (address : Word) :
    m.dataIndex? address = none ↔ address.toInt < 0 ∨ m.data.size ≤ address.toInt := by
  unfold dataIndex?
  cases named : address.index? with
  | none =>
      rw [Word.index_none_iff] at named
      simp [named]
  | some n =>
      rw [Word.index_some_iff] at named
      simp only [Option.filter_some, decide_eq_true_eq, ite_eq_right_iff, reduceCtorEq, imp_false]
      omega

theorem divide_always (m : Machine) (r s t : Register) (P : Machine → Prop) :
    (m.executeRegisters .div r s t).Always P ↔
      (m.get t = 0 → P { m with status := .divideByZero }) ∧
        (m.get t ≠ 0 → P (m.set r (m.get s / m.get t))) := by
  rw [executeRegisters]
  by_cases zero : m.get t = 0
  · rw [if_pos zero, stop_always]
    simp [zero]
  · rw [if_neg zero]
    simp [zero]

theorem load_cell_always (m : Machine) (r : Register) (address : Word) (P : Machine → Prop) :
    (m.loadCell r address).Always P ↔
      (∀ a, m.dataIndex? address = some a → P (m.set r (m.data[a]?.getD 0))) ∧
        (m.dataIndex? address = none → P { m with status := .dataFault }) := by
  unfold loadCell
  cases m.dataIndex? address <;> simp [stop]

theorem store_cell_always (m : Machine) (r : Register) (address : Word) (P : Machine → Prop) :
    (m.storeCell r address).Always P ↔
      (∀ a, m.dataIndex? address = some a →
        P { m with data := m.data.setIfInBounds a (m.get r) }) ∧
        (m.dataIndex? address = none → P { m with status := .dataFault }) := by
  unfold storeCell
  cases m.dataIndex? address <;> simp [stop]

theorem jump_always (m : Machine) (test : Test) (r : Register) (s : Word) (t : Register)
    (P : Machine → Prop) :
    (m.executeOffset (.jump test) r s t).Always P ↔
      (test.holds (m.get r) = true → P (m.set Register.programCounter (s + m.get t))) ∧
        (test.holds (m.get r) = false → P m) := by
  rw [executeOffset, Dialogue.Always]
  cases test.holds (m.get r) <;> simp

theorem execute_frame (m : Machine) (i : Instruction) :
    (m.execute i).Always fun later =>
      later.capacity = m.capacity ∧ later.code = m.code ∧ later.data.size = m.data.size := by
  cases i with
  | registers op r s t =>
      cases op with
      | halt | output | add | sub | mul => exact ⟨rfl, rfl, rfl⟩
      | input => exact fun answer => ⟨rfl, rfl, rfl⟩
      | div =>
          rw [execute, divide_always]
          exact ⟨fun _ => ⟨rfl, rfl, rfl⟩, fun _ => ⟨rfl, rfl, rfl⟩⟩
  | offset op r s t =>
      cases op with
      | load =>
          rw [execute, executeOffset, load_cell_always]
          exact ⟨fun _ _ => ⟨rfl, rfl, rfl⟩, fun _ => ⟨rfl, rfl, rfl⟩⟩
      | store =>
          rw [execute, executeOffset, store_cell_always]
          exact ⟨fun _ _ => ⟨rfl, rfl, Array.size_setIfInBounds⟩, fun _ => ⟨rfl, rfl, rfl⟩⟩
      | loadAddress | loadConstant => exact ⟨rfl, rfl, rfl⟩
      | jump test =>
          rw [execute, jump_always]
          exact ⟨fun _ => ⟨rfl, rfl, rfl⟩, fun _ => ⟨rfl, rfl, rfl⟩⟩

theorem step_frame (m : Machine) :
    m.step.Always fun later =>
      later.capacity = m.capacity ∧ later.code = m.code ∧ later.data.size = m.data.size := by
  rw [step_always]
  refine ⟨fun _ => ⟨rfl, rfl, rfl⟩, fun _ => ?_⟩
  rw [cycle_always]
  exact ⟨fun _ => ⟨rfl, rfl, rfl⟩, fun i _ => m.advance.execute_frame i⟩

end RegisterMachine.Machine
