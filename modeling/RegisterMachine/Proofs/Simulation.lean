import RegisterMachine.Proofs.Vocabulary
import RegisterMachine.Session

set_option autoImplicit false

namespace RegisterMachine

variable {κ μ : Type} [Console κ] [Console μ]

structure Simulation (v : Vocabulary) (R : Host κ → Host μ → Prop) : Prop where
  report : ∀ line left right, v.line line → R left right →
    R (left.report line) (right.report line)
  ask : ∀ prompt default left right, v.question prompt default → R left right →
    (left.ask prompt default).1 = (right.ask prompt default).1 ∧
      R (left.ask prompt default).2 (right.ask prompt default).2
  note : ∀ event left right, R left right → R (left.note event) (right.note event)

theorem Dialogue.conduct_ask {α : Type} (prompt : String) (default : Word)
    (next : Word → Dialogue α) (host : Host κ) :
    (Dialogue.ask prompt default next).conduct host =
      (next (host.ask prompt default).1).conduct (host.ask prompt default).2 := rfl

theorem Dialogue.conduct_related {α : Type} (v : Vocabulary) (R : Host κ → Host μ → Prop)
    (simulation : Simulation v R) (dialogue : Dialogue α) (within : dialogue.Within v)
    (left : Host κ) (right : Host μ) (related : R left right) :
    (dialogue.conduct left).1 = (dialogue.conduct right).1 ∧
      R (dialogue.conduct left).2 (dialogue.conduct right).2 := by
  induction dialogue generalizing left right with
  | done result => exact ⟨rfl, related⟩
  | report line next ih =>
      exact ih within.2 _ _ (simulation.report line left right within.1 related)
  | ask prompt default next ih =>
      obtain ⟨same, onward⟩ := simulation.ask prompt default left right within.1 related
      rw [conduct_ask, conduct_ask, ← same]
      exact ih _ (within.2 _) _ _ onward
  | log event next ih => exact ih within _ _ (simulation.note event left right related)

namespace Session

def of {τ : Type} (m : Machine) (console : τ) : Session τ := { machine := m, host := { console } }

theorem step_related (R : Host κ → Host μ → Prop) (simulation : Simulation Machine.traced R)
    (left : Session κ) (right : Session μ) (same : left.machine = right.machine)
    (related : R left.host right.host) :
    left.step.machine = right.step.machine ∧ R left.step.host right.step.host := by
  obtain ⟨m, host⟩ := left
  obtain ⟨_, other⟩ := right
  cases same
  exact Dialogue.conduct_related Machine.traced R simulation m.step m.step_traced host other related

theorem step_n_related (R : Host κ → Host μ → Prop) (simulation : Simulation Machine.traced R)
    (k : Nat) (left : Session κ) (right : Session μ) (same : left.machine = right.machine)
    (related : R left.host right.host) :
    (left.stepN k).machine = (right.stepN k).machine ∧
      R (left.stepN k).host (right.stepN k).host := by
  induction k generalizing left right with
  | zero => exact ⟨same, related⟩
  | succ k ih =>
      obtain ⟨stepped, onward⟩ := step_related R simulation left right same related
      exact ih left.step right.step stepped onward

end Session

end RegisterMachine
