import RegisterMachine.Console.Script
import RegisterMachine.Proofs.Checked

set_option autoImplicit false

namespace RegisterMachine

namespace Checked

theorem register_index (r : Register) : r.toWord.index? = some r.val :=
  (Word.index_some_iff _ _).mpr (Register.to_int_to_word r)

theorem get_register_eq (m : Machine) (r : Register) : getRegister m r.toWord = some (m.get r) := by
  simp [getRegister, register_index, Machine.register?, Machine.get]

theorem set_register_eq (m : Machine) (r : Register) (w : Word) :
    setRegister m r.toWord w = some (m.set r w) := by
  simp [setRegister, register_index, Machine.set]

theorem increment_eq (w : Word) (below : w.toInt < Word.greatest) : increment w = some (w + 1) := by
  have low := Word.least_le_to_int w
  simp only [Word.least, Word.greatest] at low below
  rw [increment, Word.of_int_some_iff, Int32.toInt_add, Int32.toInt_one,
    Int.bmod_eq_of_le (by omega) (by omega)]

theorem put_eq {α : Type} (cells : Array α) (i : Nat) (value : α) (inside : i < cells.size) :
    put cells i value = some (cells.setIfInBounds i value) := by
  simp [put, Array.setIfInBounds, inside]

theorem highest_address_eq (capacity : Capacity) :
    highestAddress capacity.size = some (Int32.ofNat (capacity.size - 1)) := by
  obtain ⟨size, pos, bounded⟩ := capacity
  cases size with
  | zero => omega
  | succ n =>
      have fits : Word.least ≤ n ∧ (n : Int) ≤ Word.greatest := by
        simp only [Word.least, Word.greatest]
        omega
      simp only [highestAddress, Word.ofInt?, if_pos fits]
      rfl

theorem copy_to_front_eq (size : Nat) (program : Program) (fits : program.length ≤ size) :
    copyToFront (Array.replicate size Instruction.halt) program.toArray program.length =
      some (program.toArray ++ Array.replicate (size - program.length) .halt) := by
  have block : program.length ≤ (Array.replicate size Instruction.halt).size := by
    simpa using fits
  rw [copyToFront, if_pos ⟨block, List.size_toArray⟩]
  simp

theorem register_text (r : Register) : r.toWord.text = r.val.repr := by
  have unsigned : ¬ (r.val : Int) < 0 := by omega
  simp only [Word.text, Word.write, Register.to_int_to_word, Numeral.write, Numeral.sign,
    if_neg unsigned, Nat.repr, List.nil_append, Int.natAbs_natCast]

theorem prompt_eq (r : Register) :
    Machine.inputPrompt r = "Enter number to store in register " ++ r.toWord.text := by
  rw [register_text]
  rfl

theorem restart_eq (cleared : Bool) (m : Machine) : restart cleared m = some (m.restart cleared) := by
  have first : 0 < (Array.replicate m.capacity.size (0 : Word)).size := by
    simpa using m.capacity.pos
  simp only [restart, highest_address_eq, Option.bind_eq_bind, Option.bind_some,
    put_eq _ _ _ first]
  rfl

theorem load_eq (program : Program) (m : Machine) : load program m = some (m.load program) := by
  simp only [load, restart_eq, Option.bind_eq_bind, Option.bind_some, Machine.load]
  by_cases fits : program.length ≤ (m.restart true).capacity.size
  · have code : (m.restart true).code =
        Array.replicate (m.restart true).capacity.size .halt := rfl
    rw [if_neg (Nat.not_lt.mpr fits), if_pos fits, code, copy_to_front_eq _ program fits]
    rfl
  · rw [if_pos (Nat.lt_of_not_le fits), if_neg fits]
    rfl

theorem load_source_eq (source : String) (m : Machine) :
    loadSource source m = some (m.loadSource source) := by
  simp only [loadSource, restart_eq, Option.bind_eq_bind, Option.bind_some, Machine.loadSource]
  cases Program.parse source with
  | ok program => exact load_eq program (m.restart true)
  | error e => rfl

theorem load_cell_eq (m : Machine) (r : Register) (address : Word) :
    loadCell m r.toWord address = (m.loadCell r address).map some := by
  unfold loadCell Machine.loadCell
  cases found : m.dataIndex? address with
  | none => rfl
  | some i =>
      have inside := ((Machine.data_index_iff m address i).mp found).2
      simp [set_register_eq, inside]

theorem store_cell_eq (m : Machine) (r : Register) (address : Word) :
    storeCell m r.toWord address = (m.storeCell r address).map some := by
  unfold storeCell Machine.storeCell
  cases found : m.dataIndex? address with
  | none => rfl
  | some i =>
      have inside := ((Machine.data_index_iff m address i).mp found).2
      simp [get_register_eq, put_eq _ _ _ inside]

theorem combine_eq (operation : Word → Word → Word) (m : Machine) (r s t : Register) :
    combine operation m ⟨r.toWord, s.toWord, t.toWord⟩ =
      some (m.set r (operation (m.get s) (m.get t))) := by
  simp [combine, get_register_eq, set_register_eq]

theorem execute_registers_eq (m : Machine) (op : RegisterOp) (r s t : Register) :
    executeRegisters m op ⟨r.toWord, s.toWord, t.toWord⟩ =
      (m.executeRegisters op r s t).map some := by
  cases op with
  | halt => rfl
  | input => simp [executeRegisters, Machine.executeRegisters, prompt_eq, set_register_eq]
  | output => simp [executeRegisters, Machine.executeRegisters, get_register_eq, attempt]
  | add | sub | mul => simp [executeRegisters, Machine.executeRegisters, combine_eq]
  | div =>
      simp only [executeRegisters, Machine.executeRegisters, get_register_eq, attempt, combine_eq]
      by_cases zero : m.get t = 0
      · simp [zero, stop]
      · simp [zero]

theorem execute_offset_eq (m : Machine) (op : OffsetOp) (r : Register) (s : Word) (t : Register) :
    executeOffset m op ⟨r.toWord, s, t.toWord⟩ (s + m.get t) =
      (m.executeOffset op r s t).map some := by
  cases op with
  | load => exact load_cell_eq m r (s + m.get t)
  | store => exact store_cell_eq m r (s + m.get t)
  | loadAddress | loadConstant => simp [executeOffset, Machine.executeOffset, set_register_eq]
  | jump test => simp [executeOffset, Machine.executeOffset, get_register_eq, attempt]

theorem execute_eq (m : Machine) (i : Instruction) :
    execute m i.opcode i.operands = (m.execute i).map some := by
  cases i with
  | registers op r s t =>
      simp only [execute, Instruction.operands, Instruction.opcode, get_register_eq, attempt]
      exact execute_registers_eq m op r s t
  | offset op r s t =>
      simp only [execute, Instruction.operands, Instruction.opcode, get_register_eq, attempt]
      exact execute_offset_eq m op r s t

theorem cycle_eq (m : Machine) (bounded : m.code.size ≤ 2147483647) :
    cycle m = m.cycle.map some := by
  unfold cycle Machine.cycle
  cases found : m.instructionAt? m.pc with
  | none => rfl
  | some i =>
      obtain ⟨start, filled⟩ := (Machine.instruction_at_iff m m.pc i).mp found
      obtain ⟨inside, -⟩ := Array.getElem?_eq_some_iff.mp filled
      have below : m.pc.toInt < Word.greatest := by
        simp only [Word.greatest]
        omega
      have executed := execute_eq m.advance i
      simp only [Machine.advance] at executed
      simp only [increment_eq m.pc below, attempt, executed]
      cases m.trace <;> rfl

theorem step_eq (m : Machine) (bounded : m.code.size ≤ 2147483647) :
    step m = m.step.map some := by
  unfold step Machine.step
  by_cases running : m.status.isOk = true
  · rw [if_pos running, if_pos running, cycle_eq m bounded, Dialogue.map, Dialogue.map,
      Dialogue.bind_assoc, Dialogue.bind_assoc]
    rfl
  · rw [if_neg running, if_neg running]

theorem step_session_eq {κ : Type} [Console κ] (s : Session κ)
    (bounded : s.machine.code.size ≤ 2147483647) : stepSession s = some s.step := by
  simp only [stepSession, step_eq s.machine bounded, Dialogue.conduct_map, Option.map_some]
  rfl

theorem run_for_eq {κ : Type} [Console κ] (size limit : Nat) (s : Session κ)
    (sound : s.machine.Sound size) (bounded : size ≤ 2147483647) :
    runFor limit s = some (s.runFor limit) := by
  induction limit generalizing s with
  | zero => rfl
  | succ limit ih =>
      have code : s.machine.code.size ≤ 2147483647 := sound.code ▸ bounded
      have stepped : s.step.machine.Sound size :=
        Session.step_keeps (Machine.sound_stable size).step s sound
      rw [runFor, Session.runFor, step_session_eq s code]
      simp only [Option.bind_eq_bind, Option.bind_some]
      by_cases running : s.step.machine.status.isOk = true
      · rw [if_pos running, if_pos running]
        exact ih s.step stepped
      · rw [if_neg running, if_neg running]
        rfl

end Checked

structure Machine.Safe (m : Machine) : Prop where
  restart : ∀ cleared, Checked.restart cleared m = some (m.restart cleared)
  load : ∀ program, Checked.load program m = some (m.load program)
  loadSource : ∀ source, Checked.loadSource source m = some (m.loadSource source)
  step : Checked.step m = m.step.map some
  run : ∀ (κ : Type) [Console κ] (host : Host κ) (limit : Nat),
    Checked.runFor limit ⟨m, host⟩ = some (Session.runFor limit ⟨m, host⟩)

theorem Machine.sound_safe (size : Nat) (m : Machine) (sound : m.Sound size)
    (bounded : size ≤ 2147483647) : m.Safe where
  restart cleared := Checked.restart_eq cleared m
  load program := Checked.load_eq program m
  loadSource source := Checked.load_source_eq source m
  step := Checked.step_eq m (sound.code ▸ bounded)
  run _ _ host limit := Checked.run_for_eq size limit ⟨m, host⟩ sound bounded

theorem reachable_machine_sound_and_safe (requested : Nat) (capacity : Capacity) (m : Machine)
    (accepted : Capacity.ofNat requested = .ok capacity) (reached : Reachable capacity m) :
    1 ≤ requested ∧ requested ≤ 2147483647 ∧ m.Sound requested ∧ m.Safe := by
  have size := (Capacity.of_nat_ok_iff requested capacity).mp accepted
  have sound := Machine.reachable_sound capacity m reached
  rw [size] at sound
  have positive : 1 ≤ requested := size ▸ capacity.pos
  have bounded : requested ≤ 2147483647 := size ▸ capacity.bounded
  exact ⟨positive, bounded, sound, Machine.sound_safe requested m sound bounded⟩

theorem sound_and_safe_far_outside :
    ∃ m : Machine, Capacity.ofNat 3 = .ok { size := 3 } ∧ Reachable { size := 3 } m ∧
      m.pc = 2147483647 ∧ 1 ≤ 3 ∧ 3 ≤ 2147483647 ∧ m.Sound 3 ∧ m.Safe := by
  let console : Script := { inputs := [2147483647] }
  let program : Program :=
    [.registers .input Register.programCounter Register.first Register.first]
  let fresh := Session.start { size := 3 } console
  let loaded := (fresh.load program).2
  have reached : Reachable { size := 3 } loaded.step.machine :=
    .perform (.perform (.start console) (.load program fresh)) (.step loaded)
  exact ⟨loaded.step.machine, rfl, reached, by decide,
    reachable_machine_sound_and_safe 3 _ _ rfl reached⟩

end RegisterMachine
