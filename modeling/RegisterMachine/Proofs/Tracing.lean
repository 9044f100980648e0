import RegisterMachine.Console.Script
import RegisterMachine.Proofs.Literal
import RegisterMachine.Proofs.Simulation
import RegisterMachine.Proofs.Unseen

set_option autoImplicit false

namespace RegisterMachine

def isTraceLine (line : String) : Bool := "Executing: ".toList.isPrefixOf line.toList

def untraced (lines : Array String) : Array String := lines.filter fun line => !isTraceLine line

theorem trace_line_marked (i : Instruction) : isTraceLine (Machine.traceLine i) = true := by
  rw [isTraceLine, Machine.traceLine, String.toList_append, List.isPrefixOf_iff_prefix]
  exact List.prefix_append _ _

theorem marked_begins (line : String) (marked : isTraceLine line = true) : 'E' ∈ line.toList := by
  rw [isTraceLine, List.isPrefixOf_iff_prefix] at marked
  exact marked.subset (by decide)

theorem word_not_marked (w : Word) : isTraceLine w.text = false := by
  apply Bool.eq_false_iff.mpr
  intro marked
  have letter := marked_begins w.text marked
  rw [Word.text, String.toList_ofList] at letter
  exact Numeral.literal_excludes w.write w.toInt 'E' w.write_literal (by decide) (by decide)
    (by simp [Numeral.IsDigit]) letter

theorem notice_not_marked (status : Status) (notice : String)
    (shown : status.notice? = some notice) : isTraceLine notice = false := by
  cases status <;> cases shown <;> decide

theorem plain_not_marked (line : String) (plain : Machine.plain.line line) :
    isTraceLine line = false := by
  rcases plain with ⟨w, rfl⟩ | ⟨status, shown⟩
  · exact word_not_marked w
  · exact notice_not_marked status line shown

theorem untraced_push (lines : Array String) (line : String) :
    untraced (lines.push line) =
      if isTraceLine line then untraced lines else (untraced lines).push line := by
  rw [untraced, Array.filter_push]
  by_cases marked : isTraceLine line = true
  · simp [marked, untraced]
  · simp [marked, untraced]

namespace Dialogue

variable {α β : Type}

def untraced : Dialogue α → Dialogue α
  | .done result => .done result
  | .report line next => if isTraceLine line then next.untraced else .report line next.untraced
  | .ask prompt default next => .ask prompt default fun answer => (next answer).untraced
  | .log event next => .log event next.untraced

theorem untraced_bind (dialogue : Dialogue α) (follow : α → Dialogue β) :
    (dialogue.bind follow).untraced =
      dialogue.untraced.bind fun result => (follow result).untraced := by
  induction dialogue with
  | done result => rfl
  | report line next ih =>
      by_cases marked : isTraceLine line = true
      · simp only [bind, untraced, if_pos marked, ih]
      · simp only [bind, untraced, if_neg marked, ih]
  | ask prompt default next ih => simp only [bind, untraced, ih]
  | log event next ih => simp only [bind, untraced, ih]

theorem untraced_of_plain (dialogue : Dialogue α) (within : dialogue.Within Machine.plain) :
    dialogue.untraced = dialogue := by
  induction dialogue with
  | done result => rfl
  | report line next ih =>
      have kept : ¬ isTraceLine line = true := by
        simp [plain_not_marked line within.1]
      rw [untraced, if_neg kept, ih within.2]
  | ask prompt default next ih =>
      rw [untraced]
      exact congrArg _ (funext fun answer => ih answer (within.2 answer))
  | log event next ih => rw [untraced, ih within]

end Dialogue

namespace Host

def untraced (host : Host Script) : Host Script :=
  { host with
    console := { host.console with lines := RegisterMachine.untraced host.console.lines } }

theorem script_report (host : Host Script) (line : String) :
    host.report line = { host with console := host.console.report line } := by
  change Host.mk (host.console.report line) (host.log ++ ([] : List Event)) = _
  rw [Array.appendList_nil]

theorem untraced_report (host : Host Script) (line : String) :
    (host.report line).untraced =
      if isTraceLine line then host.untraced else host.untraced.report line := by
  rw [script_report, script_report, untraced, Script.report, untraced_push]
  by_cases marked : isTraceLine line = true
  · rw [if_pos marked, if_pos marked]
    rfl
  · rw [if_neg marked, if_neg marked]
    rfl

end Host

theorem Dialogue.conduct_untraced {α : Type} (dialogue : Dialogue α) (host : Host Script) :
    dialogue.untraced.conduct host.untraced =
      ((dialogue.conduct host).1, (dialogue.conduct host).2.untraced) := by
  induction dialogue generalizing host with
  | done result => rfl
  | report line next ih =>
      by_cases marked : isTraceLine line = true
      · have hidden := host.untraced_report line
        rw [if_pos marked] at hidden
        rw [untraced, if_pos marked, ← hidden]
        exact ih (host.report line)
      · have shown := host.untraced_report line
        rw [if_neg marked] at shown
        rw [untraced, if_neg marked, conduct, ← shown]
        exact ih (host.report line)
  | ask prompt default next ih => exact ih _ (host.ask prompt default).2
  | log event next ih => exact ih (host.note event)

namespace Machine

theorem unseen_set_trace (on : Bool) : Unseen (setTrace on) where
  registers _ := rfl
  data _ := rfl
  status _ := rfl
  writes _ _ := rfl
  stores _ _ := rfl
  stops _ _ := rfl

theorem cycle_untraced (m : Machine) :
    m.cycle.untraced.map (setTrace false) = (m.setTrace false).cycle := by
  have fetched : (m.setTrace false).instructionAt? (m.setTrace false).pc =
      m.instructionAt? m.pc := rfl
  rw [cycle, cycle, fetched]
  cases m.instructionAt? m.pc with
  | none => rfl
  | some i =>
      have executed : (m.advance.execute i).untraced.map (setTrace false) =
          (m.setTrace false).advance.execute i := by
        rw [Dialogue.untraced_of_plain _ (m.advance.execute_plain i)]
        exact (unseen_execute (unseen_set_trace false) m.advance i).symm
      have silent : (m.setTrace false).trace = false := rfl
      cases traced : m.trace with
      | false =>
          simp only [silent, ← executed]
          rfl
      | true =>
          have hidden := trace_line_marked i
          simp only [silent, ← executed, if_true, Dialogue.untraced, hidden]
          rfl

theorem step_untraced (m : Machine) :
    m.step.untraced.map (setTrace false) = (m.setTrace false).step := by
  have status : (m.setTrace false).status = m.status := rfl
  have shown : ∀ later : Machine,
      later.showNotice.untraced.map (setTrace false) = (later.setTrace false).showNotice := by
    intro later
    rw [Dialogue.untraced_of_plain _ later.show_notice_plain,
      unseen_show_notice (unseen_set_trace false)]
  rw [step, step, status]
  by_cases running : m.status.isOk = true
  · rw [if_pos running, if_pos running, ← cycle_untraced, Dialogue.untraced_bind, Dialogue.map,
      Dialogue.map, Dialogue.bind_assoc, Dialogue.bind_assoc]
    exact congrArg _ (funext shown)
  · rw [if_neg running, if_neg running]
    exact shown m

def SameButTrace (m n : Machine) : Prop := m.setTrace n.trace = n

theorem same_but_trace_iff (m n : Machine) :
    m.SameButTrace n ↔ m.setTrace false = n.setTrace false := by
  refine ⟨?_, ?_⟩
  · intro same
    rw [← same]
    rfl
  · intro same
    have restored := congrArg (setTrace n.trace) same
    exact restored

end Machine

inductive Turn where
  | step
  | setTrace (on : Bool)
  | toggleTrace
deriving DecidableEq, Repr

namespace Session

def turn {κ : Type} [Console κ] (s : Session κ) : Turn → Session κ
  | .step => s.step
  | .setTrace on => s.setTrace on
  | .toggleTrace => s.toggleTrace

def turns {κ : Type} [Console κ] (schedule : List Turn) (s : Session κ) : Session κ :=
  schedule.foldl turn s

def untraced (s : Session Script) : Session Script where
  machine := s.machine.setTrace false
  host := s.host.untraced

theorem step_untraced (s : Session Script) : s.step.untraced = s.untraced.step := by
  have conducted := Dialogue.conduct_untraced s.machine.step s.host
  have stepped : (s.machine.setTrace false).step.conduct s.host.untraced =
      ((s.machine.step.conduct s.host).1.setTrace false,
        (s.machine.step.conduct s.host).2.untraced) := by
    rw [← Machine.step_untraced, Dialogue.conduct_map, conducted]
  change _ = Session.mk _ _
  rw [stepped]
  rfl

-- Only steps count: the switches between them leave the silent session where it is.
theorem turns_untraced (schedule : List Turn) (s : Session Script) :
    (s.turns schedule).untraced = s.untraced.stepN (schedule.count .step) := by
  induction schedule generalizing s with
  | nil => rfl
  | cons turn later ih =>
      have onward : s.turns (turn :: later) = (s.turn turn).turns later := rfl
      rw [onward, ih]
      cases turn with
      | step =>
          rw [List.count_cons_self, stepN, ← step_untraced]
          rfl
      | setTrace on =>
          rw [List.count_cons_of_ne (by simp)]
          rfl
      | toggleTrace =>
          rw [List.count_cons_of_ne (by simp)]
          rfl

theorem untraced_start (m : Machine) (inputs : List Word) :
    (of m ({ inputs } : Script)).untraced = of (m.setTrace false) { inputs } := rfl

end Session

-- Both sessions are the silent one with trace lines between its own.
theorem tracing_is_observational (m n : Machine) (inputs : List Word) (left right : List Turn)
    (same : m.SameButTrace n) (steps : left.count .step = right.count .step) :
    let first := (Session.of m ({ inputs } : Script)).turns left
    let second := (Session.of n ({ inputs } : Script)).turns right
    let silent := (Session.of (m.setTrace false) ({ inputs } : Script)).stepN (left.count .step)
    first.machine.SameButTrace second.machine ∧
      first.host.console.prompts = second.host.console.prompts ∧
      first.host.console.inputs = second.host.console.inputs ∧
      untraced first.host.console.lines = untraced second.host.console.lines ∧
      untraced first.host.console.lines = silent.host.console.lines ∧
      (∀ w : Word, isTraceLine w.text = false) ∧
      ∀ (status : Status) (notice : String), status.notice? = some notice →
        isTraceLine notice = false := by
  intro first second silent
  have bare : m.setTrace false = n.setTrace false := (m.same_but_trace_iff n).mp same
  have firstSilent : first.untraced = silent :=
    Session.turns_untraced left (Session.of m ({ inputs } : Script))
  have secondSilent : second.untraced = silent := by
    apply (Session.turns_untraced right (Session.of n ({ inputs } : Script))).trans
    rw [Session.untraced_start, ← bare, ← steps]
  have agree : first.untraced = second.untraced := firstSilent.trans secondSilent.symm
  have host : first.host.untraced = second.host.untraced := congrArg Session.host agree
  refine ⟨?_, ?_, ?_, ?_, ?_, word_not_marked, notice_not_marked⟩
  · apply (first.machine.same_but_trace_iff second.machine).mpr
    exact congrArg Session.machine agree
  · exact congrArg (fun h => h.console.prompts) host
  · exact congrArg (fun h => h.console.inputs) host
  · exact congrArg (fun h => h.console.lines) host
  · exact congrArg (fun s => s.host.console.lines) firstSilent

theorem tracing_switched_midway :
    let program : Program := [.registers .input 1 0 0, .registers .output 1 0 0, .halt]
    let m := ((Machine.start { size := 4 }).load program).2
    let left : List Turn := [.step, .toggleTrace, .step, .step]
    let right : List Turn := [.setTrace false, .step, .step, .setTrace true, .step]
    let first := (Session.of (m.setTrace true) ({ inputs := [5] } : Script)).turns left
    let second := (Session.of m ({ inputs := [5] } : Script)).turns right
    (m.setTrace true).SameButTrace m ∧ left.count .step = right.count .step ∧
      first.host.console.lines ≠ second.host.console.lines ∧
      first.machine.SameButTrace second.machine ∧
      untraced first.host.console.lines = untraced second.host.console.lines := by
  intro program m left right
  have same : (m.setTrace true).SameButTrace m := rfl
  have steps : left.count .step = right.count .step := rfl
  obtain ⟨machine, -, -, lines, -⟩ :=
    tracing_is_observational (m.setTrace true) m [5] left right same steps
  refine ⟨same, steps, ?_, machine, lines⟩
  decide

end RegisterMachine
