import RegisterMachine.Console.Script
import RegisterMachine.Proofs.Answers
import RegisterMachine.Proofs.Effects
import RegisterMachine.Proofs.Wrapping

set_option autoImplicit false

namespace RegisterMachine

namespace Machine

def Yields (m later : Machine) (answers : List Word) : Instruction → Prop
  | .registers .halt _ _ _ => True
  | .registers .input r _ _ => answers = [later.get r]
  | .registers .output _ _ _ => True
  | .registers .add r s t =>
      (later.get r).Represents ((m.operand s).toInt + (m.operand t).toInt)
  | .registers .sub r s t =>
      (later.get r).Represents ((m.operand s).toInt - (m.operand t).toInt)
  | .registers .mul r s t =>
      (later.get r).Represents ((m.operand s).toInt * (m.operand t).toInt)
  | .registers .div r s t =>
      (later.status = .ok ↔ m.operand t ≠ 0) ∧
        (later.status = .ok →
          (later.get r).Represents ((m.operand s).toInt.tdiv (m.operand t).toInt))
  | .offset .load r s t =>
      later.status = .ok → ∃ address : Word,
        address.Represents (s.toInt + (m.operand t).toInt) ∧ 0 ≤ address.toInt ∧
          m.data[address.toInt.toNat]? = some (later.get r)
  | .offset .store _ _ _ => True
  | .offset .loadAddress r s t =>
      (later.get r).Represents (s.toInt + (m.operand t).toInt)
  | .offset .loadConstant r s _ => later.get r = s
  | .offset (.jump _) _ _ _ => True

theorem load_cell_yields (m : Machine) (r : Register) (address : Word) :
    (m.loadCell r address).Always fun later =>
      later.status = .ok → 0 ≤ address.toInt ∧
        m.data[address.toInt.toNat]? = some (later.get r) := by
  rw [load_cell_always]
  refine ⟨?_, fun _ faulted => nomatch faulted⟩
  intro a found _
  obtain ⟨place, inside⟩ := (data_index_iff m address a).mp found
  have index : address.toInt.toNat = a := by omega
  refine ⟨by omega, ?_⟩
  rw [index, get_set_same, Array.getElem?_eq_getElem inside]
  rfl

theorem input_goes (m later : Machine) (r a b : Register) (shown : List Shown)
    (answers : List Word) (goes : (m.execute (.registers .input r a b)).Goes shown answers later) :
    answers = [later.get r] := by
  cases goes with
  | ask _ _ _ answer _ _ _ goes =>
      cases goes
      rw [get_set_same]

end Machine

namespace Session

variable {κ : Type} [Console κ]

theorem step_input (s : Session κ) (r a b : Register) (running : s.machine.status = .ok)
    (fetched : s.machine.instructionAt? s.machine.pc = some (.registers .input r a b)) :
    s.machine.step.answers s.host = [s.step.machine.get r] := by
  have goes := Dialogue.conduct_goes s.machine.step s.host
  obtain ⟨spoken, executed⟩ := Machine.step_goes_executed _ _ _ _ _ running fetched goes
  exact Machine.input_goes _ _ r a b spoken _ executed

theorem step_sets (s : Session κ) (i : Instruction) (r : Register) (w : Word) (exactly : Int)
    (running : s.machine.status = .ok) (fetched : s.machine.instructionAt? s.machine.pc = some i)
    (sets : s.machine.advance.execute i = .done (s.machine.advance.set r w))
    (represents : w.Represents exactly) : (s.step.machine.get r).Represents exactly := by
  apply step_after s i (fun later => (later.get r).Represents exactly) running fetched
  rw [sets, Dialogue.Always, Machine.get_set_same]
  exact represents

theorem step_divides (s : Session κ) (r a b : Register) (running : s.machine.status = .ok)
    (fetched : s.machine.instructionAt? s.machine.pc = some (.registers .div r a b)) :
    (s.step.machine.status = .ok ↔ s.machine.advance.get b ≠ 0) ∧
      (s.step.machine.status = .ok → (s.step.machine.get r).Represents
        ((s.machine.advance.get a).toInt.tdiv (s.machine.advance.get b).toInt)) := by
  apply step_after s _ (fun later => (later.status = .ok ↔ s.machine.advance.get b ≠ 0) ∧
    (later.status = .ok → (later.get r).Represents
      ((s.machine.advance.get a).toInt.tdiv (s.machine.advance.get b).toInt))) running fetched
  rw [Machine.execute, Machine.divide_always]
  refine ⟨?_, ?_⟩
  · intro zero
    simp [zero]
  · intro divisor
    refine ⟨iff_of_true running divisor, fun _ => ?_⟩
    rw [Machine.get_set_same]
    exact Word.div_represents _ _

theorem step_yields (size : Nat) (s : Session κ) (i : Instruction) (sound : s.machine.Sound size)
    (running : s.machine.status = .ok)
    (fetched : s.machine.instructionAt? s.machine.pc = some i) :
    s.machine.Yields s.step.machine (s.machine.step.answers s.host) i := by
  have found := Machine.advance_operand size s.machine i sound fetched
  cases i with
  | registers op r a b =>
      cases op with
      | halt | output => trivial
      | input => exact step_input s r a b running fetched
      | add =>
          simp only [Machine.Yields, ← found]
          exact step_sets s _ r _ _ running fetched rfl (Word.add_represents _ _)
      | sub =>
          simp only [Machine.Yields, ← found]
          exact step_sets s _ r _ _ running fetched rfl (Word.sub_represents _ _)
      | mul =>
          simp only [Machine.Yields, ← found]
          exact step_sets s _ r _ _ running fetched rfl (Word.mul_represents _ _)
      | div =>
          simp only [Machine.Yields, ← found]
          exact step_divides s r a b running fetched
  | offset op r a b =>
      cases op with
      | load =>
          intro completed
          obtain ⟨low, held⟩ := step_after s _ _ running fetched
            (Machine.load_cell_yields s.machine.advance r (a + s.machine.advance.get b)) completed
          refine ⟨a + s.machine.advance.get b, ?_, low, held⟩
          rw [← found]
          exact Word.add_represents _ _
      | store | jump => trivial
      | loadAddress =>
          simp only [Machine.Yields, ← found]
          exact step_sets s _ r _ _ running fetched rfl (Word.add_represents _ _)
      | loadConstant =>
          apply step_after s _ (fun later => later.get r = a) running fetched
          exact Machine.get_set_same _ r a

theorem step_keeps_register (s : Session κ) (i : Instruction) (q : Register)
    (running : s.machine.status = .ok) (fetched : s.machine.instructionAt? s.machine.pc = some i)
    (other : q ≠ Register.programCounter) (elsewhere : i.written? ≠ some q) :
    s.step.machine.get q = s.machine.get q := by
  apply step_after s i (fun later => later.get q = s.machine.get q) running fetched
  refine Dialogue.always_mono _ _ _ ?_ (Machine.execute_keeps_registers _ i q elsewhere)
  intro later kept
  exact kept.trans (Machine.get_set_of_ne s.machine _ q _ other.symm)

end Session

theorem register_results_exact {κ : Type} [Console κ] (capacity : Capacity) (s : Session κ)
    (i : Instruction) (reached : Reachable capacity s.machine) (running : s.machine.status = .ok)
    (fetched : s.machine.instructionAt? s.machine.pc = some i) :
    (s.machine.operand Register.programCounter).toInt = s.machine.pc.toInt + 1 ∧
      s.machine.Yields s.step.machine (s.machine.step.answers s.host) i ∧
      (∀ q, q ≠ Register.programCounter → i.written? ≠ some q →
        s.step.machine.get q = s.machine.get q) ∧
      ∀ exactly : Int, ∃! w : Word, w.Represents exactly := by
  have sound := Machine.reachable_sound capacity s.machine reached
  refine ⟨?_, ?_, ?_, Word.represented_once⟩
  · exact Machine.operand_counter capacity.size _ i sound capacity.bounded fetched
  · exact Session.step_yields capacity.size s i sound running fetched
  · intro q other elsewhere
    exact Session.step_keeps_register s i q running fetched other elsewhere

theorem least_word_divided :
    let program : Program := [.offset .loadConstant 1 (-2147483648) 0,
      .offset .loadConstant 2 (-1) 0, .registers .div 1 1 2]
    let loaded := ((Session.start { size := 4 } ({ inputs := [] } : Script)).load program).2
    let s := loaded.stepN 2
    Reachable { size := 4 } s.machine ∧ s.machine.status = .ok ∧
      s.machine.instructionAt? s.machine.pc = some (.registers .div 1 1 2) ∧
      s.step.machine.status = .ok ∧ (s.step.machine.get 1).Represents 2147483648 ∧
      s.step.machine.get 1 = -2147483648 ∧ s.step.machine.get 2 = s.machine.get 2 := by
  intro program loaded s
  have reached : Reachable { size := 4 } s.machine :=
    .perform (.perform (.perform (.start ({ inputs := [] } : Script)) (.load program _))
      (.step loaded)) (.step loaded.step)
  have running : s.machine.status = .ok := by decide
  have fetched : s.machine.instructionAt? s.machine.pc = some (.registers .div 1 1 2) := by decide
  have divisor : s.machine.operand 2 ≠ 0 := by decide
  have exactly : (s.machine.operand 1).toInt.tdiv
      (s.machine.operand 2).toInt = 2147483648 := by decide
  have least : s.step.machine.get 1 = -2147483648 := by decide
  obtain ⟨-, ⟨completes, quotient⟩, kept, -⟩ :=
    register_results_exact { size := 4 } s _ reached running fetched
  have completed := completes.mpr divisor
  have represents := quotient completed
  rw [exactly] at represents
  exact ⟨reached, running, fetched, completed, represents, least,
    kept 2 (by decide) (by decide)⟩

end RegisterMachine
