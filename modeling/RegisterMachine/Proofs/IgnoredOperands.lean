import RegisterMachine.Console.Script
import RegisterMachine.Proofs.LastNotice
import RegisterMachine.Proofs.Unseen

set_option autoImplicit false

namespace RegisterMachine

namespace Dialogue

variable {α β : Type}

def unlogged : Dialogue α → Dialogue α
  | .done result => .done result
  | .report line next => .report line next.unlogged
  | .ask prompt default next => .ask prompt default fun answer => (next answer).unlogged
  | .log _ next => next.unlogged

theorem unlogged_bind (dialogue : Dialogue α) (follow : α → Dialogue β) :
    (dialogue.bind follow).unlogged =
      dialogue.unlogged.bind fun result => (follow result).unlogged := by
  induction dialogue with
  | done result => rfl
  | report line next ih => exact congrArg (Dialogue.report line) ih
  | ask prompt default next ih => exact congrArg (Dialogue.ask prompt default) (funext ih)
  | log event next ih => exact ih

theorem unlogged_map (dialogue : Dialogue α) (change : α → β) :
    (dialogue.map change).unlogged = dialogue.unlogged.map change :=
  unlogged_bind dialogue _

theorem goes_unlogged_iff (dialogue : Dialogue α) (shown : List Shown) (answers : List Word)
    (result : α) :
    dialogue.unlogged.Goes shown answers result ↔ dialogue.Goes shown answers result := by
  refine ⟨?_, ?_⟩
  · intro goes
    induction dialogue generalizing shown answers with
    | done => exact goes
    | report line next ih =>
        cases goes with
        | report _ _ _ _ _ goes => exact .report line next _ _ _ (ih _ _ goes)
    | ask prompt default next ih =>
        cases goes with
        | ask _ _ _ answer _ _ _ goes =>
            exact .ask prompt default next answer _ _ _ (ih answer _ _ goes)
    | log event next ih => exact .log event next _ _ _ (ih _ _ goes)
  · intro goes
    induction goes with
    | done => exact .done _
    | report line next _ _ _ _ ih => exact .report line _ _ _ _ ih
    | ask prompt default next answer _ _ _ _ ih => exact .ask prompt default _ answer _ _ _ ih
    | log event next _ _ _ _ ih => exact ih

theorem goes_changed (left : Dialogue α) (right : Dialogue β) (change : α → β)
    (same : right.unlogged = left.unlogged.map change) (shown : List Shown) (answers : List Word)
    (result : α) (goes : left.Goes shown answers result) :
    right.Goes shown answers (change result) := by
  rw [← goes_unlogged_iff] at goes ⊢
  rw [same]
  exact goes_map _ change _ _ _ goes

theorem answers_map {κ : Type} [Console κ] (dialogue : Dialogue α) (change : α → β)
    (host : Host κ) : (dialogue.map change).answers host = dialogue.answers host := by
  induction dialogue generalizing host with
  | done result => rfl
  | report line next ih => exact ih (host.report line)
  | ask prompt default next ih => exact congrArg _ (ih _ (host.ask prompt default).2)
  | log event next ih => exact ih (host.note event)

theorem conduct_unlogged {κ : Type} [Console κ] (dialogue : Dialogue α) (host other : Host κ)
    (console : other.console = host.console) :
    (dialogue.unlogged.conduct other).1 = (dialogue.conduct host).1 ∧
      (dialogue.unlogged.conduct other).2.console = (dialogue.conduct host).2.console ∧
      dialogue.unlogged.answers other = dialogue.answers host := by
  induction dialogue generalizing host other with
  | done result => exact ⟨rfl, console, rfl⟩
  | report line next ih =>
      have shown : (other.report line).console = (host.report line).console :=
        congrArg (fun c => (Console.report line c).1) console
      exact ih _ _ shown
  | ask prompt default next ih =>
      have asked : (other.ask prompt default).1 = (host.ask prompt default).1 :=
        congrArg (fun c => (Console.ask prompt default c).1) console
      have left : (other.ask prompt default).2.console = (host.ask prompt default).2.console :=
        congrArg (fun c => (Console.ask prompt default c).2.1) console
      obtain ⟨result, onward, answers⟩ := ih (host.ask prompt default).1 _ _ left
      simp only [unlogged, conduct_ask, Dialogue.answers, asked]
      exact ⟨result, onward, congrArg _ answers⟩
  | log event next ih =>
      have noted : other.console = (host.note event).console := console
      exact ih _ _ noted

theorem conduct_changed {κ : Type} [Console κ] (left : Dialogue α) (right : Dialogue β)
    (change : α → β) (same : right.unlogged = left.unlogged.map change) (host other : Host κ)
    (console : other.console = host.console) :
    (right.conduct other).1 = change (left.conduct host).1 ∧
      (right.conduct other).2.console = (left.conduct host).2.console ∧
      right.answers other = left.answers host := by
  obtain ⟨result, left', answers⟩ := left.conduct_unlogged host host rfl
  obtain ⟨result', right', answers'⟩ := right.conduct_unlogged other host console.symm
  rw [same, conduct_map] at result' right'
  rw [same, answers_map] at answers'
  exact ⟨result'.symm.trans (congrArg change result), right'.symm.trans left',
    answers'.symm.trans answers⟩

end Dialogue

namespace Instruction

inductive SameButIgnored : Instruction → Instruction → Prop
  | same (i : Instruction) : SameButIgnored i i
  | halt (r s t r' s' t' : Register) :
      SameButIgnored (.registers .halt r s t) (.registers .halt r' s' t')
  | input (r s t s' t' : Register) :
      SameButIgnored (.registers .input r s t) (.registers .input r s' t')
  | output (r s t s' t' : Register) :
      SameButIgnored (.registers .output r s t) (.registers .output r s' t')
  | loadConstant (r : Register) (s : Word) (t t' : Register) :
      SameButIgnored (.offset .loadConstant r s t) (.offset .loadConstant r s t')

end Instruction

namespace Machine

def withCode (code : Array Instruction) (m : Machine) : Machine := { m with code }

structure SameButIgnored (m n : Machine) : Prop where
  elsewhere : n = m.withCode n.code
  code : ∀ slot : Nat, Option.Rel Instruction.SameButIgnored m.code[slot]? n.code[slot]?

theorem unseen_with_code (code : Array Instruction) : Unseen (withCode code) where
  registers _ := rfl
  data _ := rfl
  status _ := rfl
  writes _ _ := rfl
  stores _ _ := rfl
  stops _ _ := rfl

theorem execute_ignoring (m : Machine) (i j : Instruction) (same : i.SameButIgnored j) :
    m.execute j = m.execute i := by
  cases same <;> rfl

section Ignoring

variable (m : Machine) (code : Array Instruction) (silent : m.trace = false)
  (alike : ∀ slot : Nat, Option.Rel Instruction.SameButIgnored m.code[slot]? code[slot]?)

include alike

theorem fetched_ignoring (slot : Word) :
    Option.Rel Instruction.SameButIgnored (m.instructionAt? slot)
      ((m.withCode code).instructionAt? slot) := by
  unfold instructionAt?
  cases slot.index? with
  | none => exact .none
  | some a => exact alike a

include silent

theorem cycle_ignoring :
    (m.withCode code).cycle.unlogged = m.cycle.unlogged.map (withCode code) := by
  have unseen := unseen_with_code code
  have counter : (m.withCode code).pc = m.pc := rfl
  have fetched := fetched_ignoring m code alike m.pc
  rw [cycle, cycle, counter]
  generalize m.instructionAt? m.pc = first at fetched
  generalize (m.withCode code).instructionAt? m.pc = second at fetched
  cases fetched with
  | none => rfl
  | @some i j same =>
      have off : (m.withCode code).trace = false := silent
      have executed : (m.withCode code).advance.execute j =
          (m.advance.execute i).map (withCode code) := by
        rw [execute_ignoring _ i j same, unseen_advance unseen, unseen_execute unseen]
      simp only [off, silent, executed, Bool.false_eq_true, if_false]
      exact Dialogue.unlogged_map _ _

theorem step_ignoring : (m.withCode code).step.unlogged = m.step.unlogged.map (withCode code) := by
  have unseen := unseen_with_code code
  have shown : ∀ later : Machine, (later.withCode code).showNotice.unlogged =
      later.showNotice.unlogged.map (withCode code) := by
    intro later
    rw [unseen_show_notice unseen, Dialogue.unlogged_map]
  rw [step, step, unseen.status]
  by_cases running : m.status.isOk = true
  · rw [if_pos running, if_pos running, Dialogue.unlogged_bind, Dialogue.unlogged_bind,
      cycle_ignoring m code silent alike, Dialogue.map, Dialogue.map, Dialogue.bind_assoc,
      Dialogue.bind_assoc]
    exact congrArg _ (funext shown)
  · rw [if_neg running, if_neg running]
    exact shown m

end Ignoring

end Machine

namespace Session

variable {κ μ : Type} [Console κ] [Console μ] (code : Array Instruction)

-- What a step needs of the session before it, the session after it has.
structure Twins (s : Session κ) : Prop where
  silent : s.machine.trace = false
  alike : ∀ slot : Nat, Option.Rel Instruction.SameButIgnored s.machine.code[slot]? code[slot]?

theorem step_twins (s : Session κ) (twins : Twins code s) : Twins code s.step := by
  have same : s.step.machine.code = s.machine.code :=
    (Dialogue.always_conduct _ s.host _ s.machine.step_frame).2.1
  exact ⟨step_n_silent 1 s twins.silent, same ▸ twins.alike⟩

theorem steps_go_ignoring (k : Nat) (s : Session κ) (twins : Twins code s) :
    ((s.machine.withCode code).steps k).Goes (s.shown k) (s.answers k)
      ((s.stepN k).machine.withCode code) := by
  induction k generalizing s with
  | zero => exact .done _
  | succ k ih =>
      have stepped := Machine.step_ignoring s.machine code twins.silent twins.alike
      have first := Dialogue.goes_changed _ _ _ stepped _ _ _
        (Dialogue.conduct_goes s.machine.step s.host)
      exact Dialogue.goes_bind _ _ _ _ _ _ _ _ first (ih s.step (step_twins code s twins))

theorem answers_ignoring (k : Nat) (s : Session κ) (other : Host κ) (twins : Twins code s)
    (console : other.console = s.host.console) :
    answers k ⟨s.machine.withCode code, other⟩ = s.answers k ∧
      (stepN k ⟨s.machine.withCode code, other⟩).host.console = (s.stepN k).host.console := by
  induction k generalizing s other with
  | zero => exact ⟨rfl, console⟩
  | succ k ih =>
      have stepped := Machine.step_ignoring s.machine code twins.silent twins.alike
      obtain ⟨machine, onward, answered⟩ :=
        Dialogue.conduct_changed _ _ _ stepped s.host other console
      have next : step ⟨s.machine.withCode code, other⟩ =
          ⟨s.step.machine.withCode code, ((s.machine.withCode code).step.conduct other).2⟩ :=
        congrArg (fun m => Session.mk m _) machine
      obtain ⟨later, ended⟩ := ih s.step _ (step_twins code s twins) onward
      rw [answers, stepN, next, later, ended]
      exact ⟨congrArg (· ++ s.step.answers k) answered, rfl⟩

end Session

-- Consoles that answer alike, whatever they are; and that one console does answer both alike.
theorem ignored_operands_without_influence {κ μ : Type} [Console κ] [Console μ]
    (left : Session κ) (right : Session μ) (same : left.machine.SameButIgnored right.machine)
    (silent : left.machine.trace = false) :
    (∀ k sequence, left.answers k <+: sequence → right.answers k <+: sequence →
      (right.stepN k).machine.registers = (left.stepN k).machine.registers ∧
        (right.stepN k).machine.data = (left.stepN k).machine.data ∧
        (right.stepN k).machine.status = (left.stepN k).machine.status ∧
        right.shown k = left.shown k) ∧
      ∀ k, let twin : Session κ := ⟨right.machine, left.host⟩
        twin.answers k = left.answers k ∧
          (twin.stepN k).host.console = (left.stepN k).host.console := by
  have twins : Session.Twins right.machine.code left := ⟨silent, same.code⟩
  refine ⟨?_, ?_⟩
  · intro k sequence given answered
    have goes := Session.steps_go_ignoring right.machine.code k left twins
    rw [← same.elsewhere] at goes
    obtain ⟨shown, -, later⟩ :=
      Dialogue.goes_determined _ sequence _ _ _ _ _ _ (right.steps_go k) goes answered given
    rw [later]
    exact ⟨rfl, rfl, rfl, shown⟩
  · intro k
    rw [same.elsewhere]
    exact Session.answers_ignoring right.machine.code k left left.host twins rfl

theorem ignored_operands_exchanged :
    let first : Program := [.registers .input 1 0 0, .offset .loadConstant 2 2147483647 0,
      .registers .output 1 0 0, .halt]
    let second : Program := [.registers .input 1 7 3, .offset .loadConstant 2 2147483647 7,
      .registers .output 1 1 7, .registers .halt 5 6 7]
    let left := ((Session.start { size := 4 } ({ inputs := [6] } : Script)).load first).2
    let right := ((Session.start { size := 4 } ({ inputs := [6] } : Script)).load second).2
    left.machine.SameButIgnored right.machine ∧ left.machine.trace = false ∧
      left.machine.code ≠ right.machine.code ∧
      (left.answers 4 <+: [6] ∧ right.answers 4 <+: [6]) ∧
      (left.stepN 4).machine.status = .halted ∧
      (right.stepN 4).machine.status = (left.stepN 4).machine.status ∧
      (right.stepN 4).machine.registers = (left.stepN 4).machine.registers ∧
      right.shown 4 = left.shown 4 := by
  intro first second left right
  have code : ∀ slot : Nat, Option.Rel Instruction.SameButIgnored left.machine.code[slot]?
      right.machine.code[slot]? := by
    intro slot
    match slot with
    | 0 => exact .some (.input _ _ _ _ _)
    | 1 => exact .some (.loadConstant _ _ _ _)
    | 2 => exact .some (.output _ _ _ _ _)
    | 3 => exact .some (.halt _ _ _ _ _ _)
    | _ + 4 => exact .none
  have same : left.machine.SameButIgnored right.machine := ⟨rfl, code⟩
  have given : left.answers 4 <+: [6] := by decide
  have answered : right.answers 4 <+: [6] := by decide
  obtain ⟨run, -⟩ := ignored_operands_without_influence left right same rfl
  obtain ⟨registers, -, status, shown⟩ := run 4 [6] given answered
  exact ⟨same, rfl, by decide, ⟨given, answered⟩, by decide, status, registers, shown⟩

end RegisterMachine
