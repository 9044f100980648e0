import RegisterMachine.Proofs.History
import RegisterMachine.Proofs.Operands

set_option autoImplicit false

namespace RegisterMachine

structure Machine.Sound (size : Nat) (m : Machine) : Prop where
  capacity : m.capacity.size = size
  data : m.data.size = size
  code : m.code.size = size
  operands : ∀ i ∈ m.code, i.NamesRegisters

namespace Machine

theorem blank_data_size (capacity : Capacity) : (blankData capacity).size = capacity.size := by
  simp [blankData]

theorem blank_code_size (capacity : Capacity) : (blankCode capacity).size = capacity.size := by
  simp [blankCode]

theorem code_of_size (capacity : Capacity) (program : Program)
    (fits : program.length ≤ capacity.size) :
    (codeOf capacity program).size = capacity.size := by
  simp only [codeOf, Array.size_append, List.size_toArray, Array.size_replicate]
  omega

theorem start_sound (capacity : Capacity) : (start capacity).Sound capacity.size :=
  ⟨rfl, blank_data_size capacity, blank_code_size capacity, fun i _ => i.names_registers⟩

theorem restart_sound (size : Nat) (cleared : Bool) (m : Machine) (sound : m.Sound size) :
    (m.restart cleared).Sound size := by
  refine ⟨sound.capacity, ?_, ?_, fun i _ => i.names_registers⟩
  · exact (blank_data_size m.capacity).trans sound.capacity
  · cases cleared with
    | true => exact (blank_code_size m.capacity).trans sound.capacity
    | false => exact sound.code

theorem load_sound (size : Nat) (program : Program) (m : Machine) (sound : m.Sound size) :
    (m.load program).2.Sound size := by
  have restarted := restart_sound size true m sound
  by_cases fits : program.length ≤ (m.restart true).capacity.size
  · simp only [load, if_pos fits]
    refine ⟨restarted.capacity, restarted.data, ?_, fun i _ => i.names_registers⟩
    exact (code_of_size _ program fits).trans restarted.capacity
  · simpa only [load, if_neg fits] using restarted

theorem step_sound (size : Nat) (m : Machine) (sound : m.Sound size) :
    m.step.Always (Machine.Sound size) := by
  refine Dialogue.always_mono _ _ _ ?_ m.step_frame
  intro later frame
  obtain ⟨capacity, code, data⟩ := frame
  exact ⟨capacity ▸ sound.capacity, data ▸ sound.data, code ▸ sound.code, code ▸ sound.operands⟩

theorem sound_stable (size : Nat) : Stable (Machine.Sound size) where
  restart m cleared sound := restart_sound size cleared m sound
  load m program sound := load_sound size program m sound
  step m sound := step_sound size m sound
  setTrace _ _ sound := ⟨sound.capacity, sound.data, sound.code, sound.operands⟩

theorem reachable_sound (capacity : Capacity) (m : Machine) (reached : Reachable capacity m) :
    m.Sound capacity.size :=
  reachable_stable capacity _ (sound_stable capacity.size) (start_sound capacity) m reached

end Machine

end RegisterMachine
