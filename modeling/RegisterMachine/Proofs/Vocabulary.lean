import RegisterMachine.Machine.Step
import RegisterMachine.Proofs.Outcome

set_option autoImplicit false

namespace RegisterMachine

structure Vocabulary where
  line : String → Prop
  question : String → Word → Prop

namespace Dialogue

variable {α β : Type}

@[simp] def Within (v : Vocabulary) : Dialogue α → Prop
  | .done _ => True
  | .report line next => v.line line ∧ next.Within v
  | .ask prompt default next => v.question prompt default ∧ ∀ answer, (next answer).Within v
  | .log _ next => next.Within v

theorem within_bind (v : Vocabulary) (dialogue : Dialogue α) (follow : α → Dialogue β)
    (first : dialogue.Within v) (later : ∀ result, (follow result).Within v) :
    (dialogue.bind follow).Within v := by
  induction dialogue with
  | done result => exact later result
  | report line next ih => exact ⟨first.1, ih first.2⟩
  | ask prompt default next ih => exact ⟨first.1, fun answer => ih answer (first.2 answer)⟩
  | log event next ih => exact ih first

theorem within_mono (v w : Vocabulary) (dialogue : Dialogue α)
    (lines : ∀ line, v.line line → w.line line)
    (questions : ∀ prompt default, v.question prompt default → w.question prompt default)
    (within : dialogue.Within v) : dialogue.Within w := by
  induction dialogue with
  | done result => trivial
  | report line next ih => exact ⟨lines line within.1, ih within.2⟩
  | ask prompt default next ih =>
      exact ⟨questions prompt default within.1, fun answer => ih answer (within.2 answer)⟩
  | log event next ih => exact ih within

end Dialogue

namespace Machine

def AsksForRegister (prompt : String) (default : Word) : Prop :=
  default = 0 ∧ ∃ r, prompt = inputPrompt r

def plain : Vocabulary where
  line line := (∃ w : Word, line = w.text) ∨ ∃ status : Status, status.notice? = some line
  question := AsksForRegister

def traced : Vocabulary where
  line line := plain.line line ∨ ∃ i, line = traceLine i
  question := AsksForRegister

theorem show_notice_plain (m : Machine) : m.showNotice.Within plain := by
  rw [showNotice]
  cases notice : m.status.notice? with
  | none => trivial
  | some line => exact ⟨.inr ⟨m.status, notice⟩, trivial⟩

theorem load_cell_plain (m : Machine) (r : Register) (address : Word) :
    (m.loadCell r address).Within plain := by
  rw [loadCell]
  cases m.dataIndex? address <;> trivial

theorem store_cell_plain (m : Machine) (r : Register) (address : Word) :
    (m.storeCell r address).Within plain := by
  rw [storeCell]
  cases m.dataIndex? address <;> trivial

theorem execute_plain (m : Machine) (i : Instruction) : (m.execute i).Within plain := by
  cases i with
  | registers op r s t =>
      cases op with
      | halt | add | sub | mul => trivial
      | input => exact ⟨⟨rfl, r, rfl⟩, fun _ => trivial⟩
      | output => exact ⟨.inl ⟨m.get r, rfl⟩, trivial⟩
      | div =>
          by_cases zero : m.get t = 0
          · simp [execute, executeRegisters, zero, stop]
          · simp [execute, executeRegisters, zero]
  | offset op r s t =>
      cases op with
      | load => exact load_cell_plain m r (s + m.get t)
      | store => exact store_cell_plain m r (s + m.get t)
      | loadAddress | loadConstant | jump => trivial

theorem plain_traced {α : Type} (dialogue : Dialogue α) (within : dialogue.Within plain) :
    dialogue.Within traced :=
  Dialogue.within_mono plain traced dialogue (fun _ line => .inl line) (fun _ _ asked => asked) within

theorem cycle_traced (m : Machine) : m.cycle.Within traced := by
  rw [cycle]
  cases m.instructionAt? m.pc with
  | none => trivial
  | some i =>
      have executed := plain_traced _ (m.advance.execute_plain i)
      cases m.trace with
      | false => exact executed
      | true => exact ⟨.inr ⟨i, rfl⟩, executed⟩

theorem step_traced (m : Machine) : m.step.Within traced := by
  have shown : ∀ later : Machine, later.showNotice.Within traced :=
    fun later => plain_traced _ later.show_notice_plain
  rw [step]
  by_cases running : m.status.isOk = true
  · rw [if_pos running]
    exact Dialogue.within_bind traced m.cycle showNotice m.cycle_traced shown
  · rw [if_neg running]
    exact shown m

end Machine

end RegisterMachine
