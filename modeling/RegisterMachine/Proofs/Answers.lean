import RegisterMachine.Proofs.Stepping
import RegisterMachine.Proofs.Tracing
import RegisterMachine.Proofs.Transcript

set_option autoImplicit false

namespace RegisterMachine

namespace Shown

def plain : Shown → Bool
  | .line text => !isTraceLine text
  | .prompt _ => true

def untraced (shown : List Shown) : List Shown := shown.filter plain

theorem prompts_untraced (shown : List Shown) : prompts (untraced shown) = prompts shown := by
  induction shown with
  | nil => rfl
  | cons first later ih =>
      cases first with
      | line reported =>
          by_cases kept : plain (.line reported) = true
          · rw [untraced, List.filter_cons_of_pos kept]
            exact ih
          · rw [untraced, List.filter_cons_of_neg kept]
            exact ih
      | prompt asked =>
          rw [untraced, List.filter_cons_of_pos rfl]
          exact congrArg (asked :: ·) ih

end Shown

namespace Dialogue

variable {α β κ : Type}

-- A way through a dialogue: what it shows and what it is answered, up to a result. The log is left
-- out.
inductive Goes : Dialogue α → List Shown → List Word → α → Prop
  | done (result : α) : Goes (.done result) [] [] result
  | report (line : String) (next : Dialogue α) (shown : List Shown) (answers : List Word)
      (result : α) (goes : Goes next shown answers result) :
      Goes (.report line next) (.line line :: shown) answers result
  | ask (prompt : String) (default : Word) (next : Word → Dialogue α) (answer : Word)
      (shown : List Shown) (answers : List Word) (result : α)
      (goes : Goes (next answer) shown answers result) :
      Goes (.ask prompt default next) (.prompt prompt :: shown) (answer :: answers) result
  | log (event : Event) (next : Dialogue α) (shown : List Shown) (answers : List Word) (result : α)
      (goes : Goes next shown answers result) : Goes (.log event next) shown answers result

def shown [Console κ] : Dialogue α → Host κ → List Shown
  | .done _, _ => []
  | .report line next, host => .line line :: next.shown (host.report line)
  | .ask prompt default next, host =>
      let (answer, host) := host.ask prompt default
      .prompt prompt :: (next answer).shown host
  | .log event next, host => next.shown (host.note event)

def answers [Console κ] : Dialogue α → Host κ → List Word
  | .done _, _ => []
  | .report line next, host => next.answers (host.report line)
  | .ask prompt default next, host =>
      let (answer, host) := host.ask prompt default
      answer :: (next answer).answers host
  | .log event next, host => next.answers (host.note event)

theorem conduct_goes [Console κ] (dialogue : Dialogue α) (host : Host κ) :
    dialogue.Goes (dialogue.shown host) (dialogue.answers host) (dialogue.conduct host).1 := by
  induction dialogue generalizing host with
  | done result => exact .done result
  | report line next ih => exact .report line next _ _ _ (ih (host.report line))
  | ask prompt default next ih =>
      exact .ask prompt default next _ _ _ _ (ih _ (host.ask prompt default).2)
  | log event next ih => exact .log event next _ _ _ (ih (host.note event))

theorem goes_bind (dialogue : Dialogue α) (follow : α → Dialogue β) (before after : List Shown)
    (given later : List Word) (middle : α) (result : β) (first : dialogue.Goes before given middle)
    (second : (follow middle).Goes after later result) :
    (dialogue.bind follow).Goes (before ++ after) (given ++ later) result := by
  induction first with
  | done => exact second
  | report line next _ _ _ _ ih => exact .report line _ _ _ _ (ih second)
  | ask prompt default next answer _ _ _ _ ih =>
      exact .ask prompt default _ answer _ _ _ (ih second)
  | log event next _ _ _ _ ih => exact .log event _ _ _ _ (ih second)

theorem goes_bind_split (dialogue : Dialogue α) (follow : α → Dialogue β) (shown : List Shown)
    (answers : List Word) (result : β) (goes : (dialogue.bind follow).Goes shown answers result) :
    ∃ before after given later middle, shown = before ++ after ∧ answers = given ++ later ∧
      dialogue.Goes before given middle ∧ (follow middle).Goes after later result := by
  induction dialogue generalizing shown answers with
  | done middle => exact ⟨[], shown, [], answers, middle, rfl, rfl, .done middle, goes⟩
  | report line next ih =>
      cases goes with
      | report _ _ shown _ _ goes =>
          obtain ⟨before, after, given, later, middle, rfl, rfl, first, second⟩ := ih _ _ goes
          exact ⟨_, after, given, later, middle, rfl, rfl, .report line next _ _ _ first, second⟩
  | ask prompt default next ih =>
      cases goes with
      | ask _ _ _ answer _ _ _ goes =>
          obtain ⟨before, after, given, later, middle, rfl, rfl, first, second⟩ :=
            ih answer _ _ goes
          exact ⟨_, after, _, later, middle, rfl, rfl, .ask prompt default next answer _ _ _ first,
            second⟩
  | log event next ih =>
      cases goes with
      | log _ _ _ _ _ goes =>
          obtain ⟨before, after, given, later, middle, rfl, rfl, first, second⟩ := ih _ _ goes
          exact ⟨before, after, given, later, middle, rfl, rfl, .log event next _ _ _ first, second⟩

theorem goes_map (dialogue : Dialogue α) (change : α → β) (shown : List Shown) (answers : List Word)
    (result : α) (goes : dialogue.Goes shown answers result) :
    (dialogue.map change).Goes shown answers (change result) := by
  induction goes with
  | done => exact .done _
  | report line next _ _ _ _ ih => exact .report line _ _ _ _ ih
  | ask prompt default next answer _ _ _ _ ih => exact .ask prompt default _ answer _ _ _ ih
  | log event next _ _ _ _ ih => exact .log event _ _ _ _ ih

theorem goes_untraced (dialogue : Dialogue α) (shown : List Shown) (answers : List Word)
    (result : α) (goes : dialogue.Goes shown answers result) :
    dialogue.untraced.Goes (Shown.untraced shown) answers result := by
  induction goes with
  | done => exact .done _
  | report line next shown _ _ _ ih =>
      by_cases marked : isTraceLine line = true
      · have dropped : ¬ Shown.plain (.line line) = true := by simp [Shown.plain, marked]
        rw [untraced, if_pos marked, Shown.untraced, List.filter_cons_of_neg dropped]
        exact ih
      · have kept : Shown.plain (.line line) = true := by simp [Shown.plain, marked]
        rw [untraced, if_neg marked, Shown.untraced, List.filter_cons_of_pos kept]
        exact .report line _ _ _ _ ih
  | ask prompt default next answer _ _ _ _ ih => exact .ask prompt default _ answer _ _ _ ih
  | log event next _ _ _ _ ih => exact .log event _ _ _ _ ih

-- The answers choose the way, and a dialogue ends for want of questions only.
theorem goes_determined (dialogue : Dialogue α) (sequence : List Word) (shown other : List Shown)
    (answers others : List Word) (result final : α) (first : dialogue.Goes shown answers result)
    (second : dialogue.Goes other others final) (left : answers <+: sequence)
    (right : others <+: sequence) : shown = other ∧ answers = others ∧ result = final := by
  induction first generalizing sequence other others with
  | done =>
      cases second
      exact ⟨rfl, rfl, rfl⟩
  | report line next _ _ _ _ ih =>
      cases second with
      | report _ _ _ _ _ second =>
          obtain ⟨rfl, rfl, rfl⟩ := ih sequence _ _ second left right
          exact ⟨rfl, rfl, rfl⟩
  | ask prompt default next answer _ _ _ _ ih =>
      cases second with
      | ask _ _ _ given _ _ _ second =>
          obtain ⟨rest, rfl⟩ := left
          obtain ⟨same, onward⟩ := List.cons_prefix_cons.mp right
          subst same
          obtain ⟨rfl, rfl, rfl⟩ := ih _ _ _ second (List.prefix_append _ rest) onward
          exact ⟨rfl, rfl, rfl⟩
  | log event next _ _ _ _ ih =>
      cases second with
      | log _ _ _ _ _ second => exact ih sequence _ _ second left right

def Matched (P : α → Prop) (R : α → β → Prop) (left : Dialogue α) (right : Dialogue β) : Prop :=
  ∀ shown answers result, left.Goes shown answers result → P result →
    ∃ other, right.Goes shown answers other ∧ R result other

section Matched

variable {P : α → Prop} {R : α → β → Prop}

theorem matched_done (left : α) (right : β) (related : R left right) :
    Matched P R (.done left) (.done right) := by
  intro shown answers result goes _
  cases goes
  exact ⟨right, .done right, related⟩

theorem matched_report (line : String) (left : Dialogue α) (right : Dialogue β)
    (matched : Matched P R left right) : Matched P R (.report line left) (.report line right) := by
  intro shown answers result goes held
  cases goes with
  | report _ _ shown _ _ goes =>
      obtain ⟨other, onward, related⟩ := matched shown answers result goes held
      exact ⟨other, .report line right shown answers other onward, related⟩

theorem matched_ask (prompt : String) (default : Word) (left : Word → Dialogue α)
    (right : Word → Dialogue β) (matched : ∀ answer, Matched P R (left answer) (right answer)) :
    Matched P R (.ask prompt default left) (.ask prompt default right) := by
  intro shown answers result goes held
  cases goes with
  | ask _ _ _ answer shown answers _ goes =>
      obtain ⟨other, onward, related⟩ := matched answer shown answers result goes held
      exact ⟨other, .ask prompt default right answer shown answers other onward, related⟩

theorem matched_log (event noted : Event) (left : Dialogue α) (right : Dialogue β)
    (matched : Matched P R left right) : Matched P R (.log event left) (.log noted right) := by
  intro shown answers result goes held
  cases goes with
  | log _ _ _ _ _ goes =>
      obtain ⟨other, onward, related⟩ := matched shown answers result goes held
      exact ⟨other, .log noted right shown answers other onward, related⟩

end Matched

end Dialogue

theorem Machine.show_notice_goes (m later : Machine) (shown : List Shown) (answers : List Word)
    (goes : m.showNotice.Goes shown answers later) : answers = [] ∧ later = m := by
  rw [showNotice] at goes
  cases notice : m.status.notice? with
  | none =>
      rw [notice] at goes
      cases goes
      exact ⟨rfl, rfl⟩
  | some line =>
      rw [notice] at goes
      cases goes with
      | report _ _ _ _ _ goes =>
          cases goes
          exact ⟨rfl, rfl⟩

theorem Machine.step_goes_executed (m later : Machine) (i : Instruction) (shown : List Shown)
    (answers : List Word) (running : m.status = .ok) (fetched : m.instructionAt? m.pc = some i)
    (goes : m.step.Goes shown answers later) :
    ∃ spoken, (m.advance.execute i).Goes spoken answers later := by
  rw [step, if_pos ((Status.is_ok_iff _).mpr running)] at goes
  obtain ⟨before, after, given, rest, middle, -, rfl, first, second⟩ :=
    Dialogue.goes_bind_split _ _ _ _ _ goes
  obtain ⟨rfl, rfl⟩ := show_notice_goes middle later after rest second
  rw [List.append_nil]
  rw [cycle, fetched] at first
  cases traced : m.trace with
  | false =>
      simp only [traced, Bool.false_eq_true, if_false] at first
      cases first with
      | log _ _ _ _ _ executed => exact ⟨_, executed⟩
  | true =>
      simp only [traced, if_true] at first
      cases first with
      | report _ _ _ _ _ first =>
          cases first with
          | log _ _ _ _ _ executed => exact ⟨_, executed⟩

def Machine.steps : Nat → Machine → Dialogue Machine
  | 0, m => .done m
  | k + 1, m => m.step.bind (steps k)

theorem Machine.steps_untraced (k : Nat) (m : Machine) :
    (m.steps k).untraced.map (setTrace false) = (m.setTrace false).steps k := by
  induction k generalizing m with
  | zero => rfl
  | succ k ih =>
      rw [steps, steps, ← step_untraced, Dialogue.untraced_bind, Dialogue.map, Dialogue.map,
        Dialogue.bind_assoc, Dialogue.bind_assoc]
      exact congrArg _ (funext ih)

namespace Session

variable {κ μ : Type} [Console κ] [Console μ]

def shown : Nat → Session κ → List Shown
  | 0, _ => []
  | k + 1, s => s.machine.step.shown s.host ++ shown k s.step

def answers : Nat → Session κ → List Word
  | 0, _ => []
  | k + 1, s => s.machine.step.answers s.host ++ answers k s.step

theorem steps_go (k : Nat) (s : Session κ) :
    (s.machine.steps k).Goes (s.shown k) (s.answers k) (s.stepN k).machine := by
  induction k generalizing s with
  | zero => exact .done s.machine
  | succ k ih =>
      exact Dialogue.goes_bind _ _ _ _ _ _ _ _ (Dialogue.conduct_goes s.machine.step s.host)
        (ih s.step)

theorem answers_begin (i k : Nat) (s : Session κ) (within : i ≤ k) :
    s.answers i <+: s.answers k := by
  induction k generalizing i s with
  | zero =>
      cases Nat.le_zero.mp within
      exact List.prefix_rfl
  | succ k ih =>
      cases i with
      | zero => exact List.nil_prefix
      | succ i =>
          exact (List.prefix_append_right_inj _).mpr (ih i s.step (Nat.le_of_succ_le_succ within))

theorem same_answers_same_run (k : Nat) (sequence : List Word) (first : Session κ)
    (second : Session μ) (same : first.machine = second.machine)
    (left : first.answers k <+: sequence) (right : second.answers k <+: sequence) :
    first.shown k = second.shown k ∧ first.answers k = second.answers k ∧
      (first.stepN k).machine = (second.stepN k).machine := by
  have goes := first.steps_go k
  rw [same] at goes
  exact Dialogue.goes_determined _ sequence _ _ _ _ _ _ goes (second.steps_go k) left right

theorem steps_go_untraced (k : Nat) (m later : Machine) (shown : List Shown) (answers : List Word)
    (goes : (m.steps k).Goes shown answers later) :
    ((m.setTrace false).steps k).Goes (Shown.untraced shown) answers (later.setTrace false) := by
  rw [← Machine.steps_untraced]
  exact Dialogue.goes_map _ _ _ _ _ (Dialogue.goes_untraced _ _ _ _ goes)

theorem same_answers_untraced (k : Nat) (sequence : List Word) (first : Session κ)
    (second : Session μ) (same : first.machine.SameButTrace second.machine)
    (left : first.answers k <+: sequence) (right : second.answers k <+: sequence) :
    Shown.untraced (first.shown k) = Shown.untraced (second.shown k) ∧
      first.answers k = second.answers k ∧
      (first.stepN k).machine.SameButTrace (second.stepN k).machine := by
  have bare := (Machine.same_but_trace_iff _ _).mp same
  have goes := steps_go_untraced k _ _ _ _ (first.steps_go k)
  rw [bare] at goes
  obtain ⟨shown, answered, later⟩ := Dialogue.goes_determined _ sequence _ _ _ _ _ _ goes
    (steps_go_untraced k _ _ _ _ (second.steps_go k)) left right
  exact ⟨shown, answered, (Machine.same_but_trace_iff _ _).mpr later⟩

end Session

end RegisterMachine
