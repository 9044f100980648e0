import Mathlib.Data.List.Basic
import RegisterMachine.Proofs.ConsoleAgreement
import RegisterMachine.Proofs.StepAccount

set_option autoImplicit false

namespace RegisterMachine

namespace Machine

theorem execute_keeps_trace (m : Machine) (i : Instruction) :
    (m.execute i).Always fun later => later.trace = m.trace := by
  have same : (m.setTrace m.trace).execute i = m.execute i := rfl
  rw [← same, unseen_execute (unseen_set_trace m.trace), Dialogue.always_map]
  exact Dialogue.always_intro _ _ fun _ => rfl

theorem step_keeps_trace (m : Machine) : m.step.Always fun later => later.trace = m.trace := by
  rw [step_always]
  refine ⟨fun _ => rfl, fun _ => ?_⟩
  rw [cycle_always]
  exact ⟨fun _ => rfl, fun i _ => m.advance.execute_keeps_trace i⟩

end Machine

theorem Dialogue.conduct_script {α : Type} (dialogue : Dialogue α) (host : Host Script) :
    (dialogue.conduct host).2.console.lines.toList =
        host.console.lines.toList ++ Shown.lines (dialogue.shown host) ∧
      (dialogue.conduct host).2.console.prompts.toList =
        host.console.prompts.toList ++ Shown.prompts (dialogue.shown host) := by
  induction dialogue generalizing host with
  | done result => exact ⟨(List.append_nil _).symm, (List.append_nil _).symm⟩
  | report line next ih =>
      obtain ⟨lines, prompts⟩ := ih (host.report line)
      refine ⟨?_, prompts⟩
      apply lines.trans
      change (host.console.lines.push line).toList ++ _ = _
      rw [Array.toList_push, List.append_assoc]
      rfl
  | ask prompt default next ih =>
      obtain ⟨lines, prompts⟩ := ih _ (host.ask prompt default).2
      refine ⟨lines, ?_⟩
      apply prompts.trans
      change (host.console.prompts.push prompt).toList ++ _ = _
      rw [Array.toList_push, List.append_assoc]
      rfl
  | log event next ih => exact ih (host.note event)

namespace Session

variable {κ : Type} [Console κ]

theorem step_n_script (k : Nat) (s : Session Script) :
    (s.stepN k).host.console.lines.toList =
        s.host.console.lines.toList ++ Shown.lines (s.shown k) ∧
      (s.stepN k).host.console.prompts.toList =
        s.host.console.prompts.toList ++ Shown.prompts (s.shown k) := by
  induction k generalizing s with
  | zero => exact ⟨(List.append_nil _).symm, (List.append_nil _).symm⟩
  | succ k ih =>
      obtain ⟨lines, prompts⟩ := ih s.step
      obtain ⟨firstLines, firstPrompts⟩ := s.machine.step.conduct_script s.host
      refine ⟨?_, ?_⟩
      · apply lines.trans
        change (s.machine.step.conduct s.host).2.console.lines.toList ++ _ = _
        rw [firstLines, List.append_assoc, ← Shown.lines_append]
        rfl
      · apply prompts.trans
        change (s.machine.step.conduct s.host).2.console.prompts.toList ++ _ = _
        rw [firstPrompts, List.append_assoc, ← Shown.prompts_append]
        rfl

def outputs (k : Nat) (s : Session κ) : List Word :=
  (List.range k).filterMap fun i => (s.stepN i).machine.output?

def inputs (k : Nat) (s : Session κ) : List Register :=
  (List.range k).filterMap fun i => (s.stepN i).machine.input?

theorem collected_succ {α : Type} (f : Machine → Option α) (k : Nat) (s : Session κ) :
    ((List.range (k + 1)).filterMap fun i => f (s.stepN i).machine) =
      (f s.machine).toList ++ (List.range k).filterMap fun i => f (s.step.stepN i).machine := by
  rw [List.range_succ_eq_map, ← List.singleton_append, List.filterMap_append,
    List.filterMap_map, List.filterMap_eq_flatMap_toList, List.flatMap_singleton]
  rfl

theorem outputs_succ (k : Nat) (s : Session κ) :
    s.outputs (k + 1) = s.machine.output?.toList ++ s.step.outputs k :=
  collected_succ Machine.output? k s

theorem inputs_succ (k : Nat) (s : Session κ) :
    s.inputs (k + 1) = s.machine.input?.toList ++ s.step.inputs k :=
  collected_succ Machine.input? k s

theorem step_n_silent (k : Nat) (s : Session κ) (silent : s.machine.trace = false) :
    (s.stepN k).machine.trace = false := by
  apply step_n_keeps (P := fun m => m.trace = false) _ k s silent
  intro m off
  refine Dialogue.always_mono _ _ _ ?_ m.step_keeps_trace
  intro later same
  exact same.trans off

theorem shown_running (k : Nat) (s : Session κ) (silent : s.machine.trace = false)
    (running : ∀ i, 0 < i → i ≤ k → (s.stepN i).machine.status = .ok) :
    s.shown k = (List.range k).flatMap fun i => (s.stepN i).machine.said := by
  induction k with
  | zero => rfl
  | succ k ih =>
      have off := step_n_silent k s silent
      have still := running (k + 1) (Nat.succ_pos k) Nat.le.refl
      have before := ih fun i after within => running i after (Nat.le_succ_of_le within)
      rw [shown_succ, before, List.range_succ, List.flatMap_append, Machine.shows,
        Machine.announced, off, Machine.notified, still]
      simp [Status.notice?]

theorem shown_to_stop (n : Nat) (s : Session κ) (notice : String)
    (silent : s.machine.trace = false) (stops : s.StopsAfter n)
    (left : (s.stepN n).machine.status.notice? = some notice) :
    s.shown n =
      ((List.range n).flatMap fun i => (s.stepN i).machine.said) ++ [.line notice] := by
  obtain ⟨positive, -, running⟩ := stops
  obtain ⟨k, rfl⟩ := Nat.exists_eq_succ_of_ne_zero (Nat.ne_of_gt positive)
  have off := step_n_silent k s silent
  have before := shown_running k s silent fun i after within =>
    running i after (Nat.lt_succ_of_le within)
  rw [shown_succ, before, List.range_succ, List.flatMap_append, Machine.shows,
    Machine.announced, off, Machine.notified, left]
  simp

theorem lines_of_said (n : Nat) (s : Session κ) :
    Shown.lines ((List.range n).flatMap fun i => (s.stepN i).machine.said) =
      (s.outputs n).map Word.text := by
  rw [outputs, List.map_filterMap, List.filterMap_eq_flatMap_toList, Shown.lines,
    List.filterMap_flatMap]
  exact congrArg (List.flatMap · _) (funext fun i => (s.stepN i).machine.lines_said)

theorem prompts_of_said (n : Nat) (s : Session κ) :
    Shown.prompts ((List.range n).flatMap fun i => (s.stepN i).machine.said) =
      (s.inputs n).map fun r => "Enter number to store in register " ++ r.val.repr := by
  rw [inputs, List.map_filterMap, List.filterMap_eq_flatMap_toList, Shown.prompts,
    List.filterMap_flatMap]
  exact congrArg (List.flatMap · _) (funext fun i => (s.stepN i).machine.prompts_said)

end Session

-- What may become of a stopped machine while it is only stepped and run, each time with a console of
-- its own.
inductive Idles (stopped : Machine) : Machine → Prop
  | none : Idles stopped stopped
  | call {κ : Type} [Console κ] {operation : Operation} {before after : Session κ}
      (earlier : Idles stopped before.machine) (idle : operation = .step ∨ operation = .run)
      (performed : Session.Performs operation before after) : Idles stopped after.machine

namespace Machine

structure Repeats (notice : String) (m : Machine) : Prop where
  step : ∀ (κ : Type) [Console κ] (host : Host κ),
    Session.step ⟨m, host⟩ = ⟨m, host.report notice⟩
  run : ∀ (κ : Type) [Console κ] (host : Host κ) (limit : Nat),
    Session.runFor (limit + 1) ⟨m, host⟩ = some ⟨m, host.report notice⟩
  performs : ∀ (κ : Type) [Console κ] (operation : Operation) (host : Host κ) (after : Session κ),
    operation = .step ∨ operation = .run → Session.Performs operation ⟨m, host⟩ after →
      after = ⟨m, host.report notice⟩

theorem stopped_step (m : Machine) (notice : String) (left : m.status.notice? = some notice) :
    m.step = .report notice (.done m) := by
  have stopped : ¬ m.status.isOk = true := by
    intro ok
    rw [(Status.notice_none_iff m.status).mpr ((Status.is_ok_iff m.status).mp ok)] at left
    cases left
  rw [step, if_neg stopped, showNotice, left]

theorem stopped_repeats (m : Machine) (notice : String) (left : m.status.notice? = some notice) :
    m.Repeats notice := by
  have stopped : m.status ≠ .ok := by
    intro running
    rw [(Status.notice_none_iff m.status).mpr running] at left
    cases left
  have step : ∀ (κ : Type) [Console κ] (host : Host κ),
      Session.step ⟨m, host⟩ = ⟨m, host.report notice⟩ := by
    intro κ _ host
    rw [Session.step, stopped_step m notice left]
    rfl
  have run : ∀ (κ : Type) [Console κ] (host : Host κ) (limit : Nat),
      Session.runFor (limit + 1) ⟨m, host⟩ = some ⟨m, host.report notice⟩ := by
    intro κ _ host limit
    rw [Session.runFor, step κ host, if_neg fun ok => stopped ((Status.is_ok_iff m.status).mp ok)]
  refine ⟨step, run, ?_⟩
  intro κ _ operation host after idle performed
  rcases idle with rfl | rfl
  · cases performed
    exact step κ host
  · cases performed with
    | run limit _ _ ended =>
        cases limit with
        | zero => cases ended
        | succ limit => exact Option.some.inj (ended.symm.trans (run κ host limit))

theorem stopped_idles (stopped later : Machine) (notice : String) (repeats : stopped.Repeats notice)
    (idles : Idles stopped later) : later = stopped := by
  induction idles with
  | none => rfl
  | @call κ _ operation before after _ idle performed ih =>
      obtain ⟨m, host⟩ := before
      cases ih
      rw [repeats.performs κ operation host after idle performed]

end Machine

-- The machine may well begin stopped; then the notice is all that there is.
theorem outputs_then_one_notice (m : Machine) (silent : m.trace = false) (script : Script)
    (limit : Nat) (final : Session Script)
    (ended : (Session.of m script).runFor limit = some final) :
    ∃ n notice, (Session.of m script).StopsAfter n ∧ final = (Session.of m script).stepN n ∧
      final.machine.status.notice? = some notice ∧
      final.host.console.lines.toList = script.lines.toList ++
        (((Session.of m script).outputs n).map Word.text ++ [notice]) ∧
      final.host.console.prompts.toList = script.prompts.toList ++
        ((Session.of m script).inputs n).map
          (fun r => "Enter number to store in register " ++ r.val.repr) ∧
      final.machine.Repeats notice ∧
      (∀ later, Idles final.machine later → later = final.machine) ∧
      (∀ host : Host Script, (host.report notice).console =
        { host.console with lines := host.console.lines.push notice }) ∧
      ∀ host : Host Terminal, (host.report notice).console.unread = host.console.unread := by
  obtain ⟨n, -, stops, rfl⟩ := (Session.run_for_iff limit _ _).mp ended
  obtain ⟨notice, left⟩ : ∃ notice,
      ((Session.of m script).stepN n).machine.status.notice? = some notice := by
    apply Option.ne_none_iff_exists'.mp
    intro missing
    exact stops.2.1 ((Status.notice_none_iff _).mp missing)
  obtain ⟨lines, prompts⟩ := Session.step_n_script n (Session.of m script)
  have shown := Session.shown_to_stop n (Session.of m script) notice silent stops left
  have repeats := Machine.stopped_repeats _ notice left
  refine ⟨n, notice, stops, rfl, left, ?_, ?_, repeats, ?_, fun _ => rfl, ?_⟩
  · apply lines.trans
    rw [shown, Shown.lines_append, Session.lines_of_said]
    rfl
  · apply prompts.trans
    rw [shown, Shown.prompts_append, Session.prompts_of_said]
    exact congrArg _ (List.append_nil _)
  · intro later idles
    exact Machine.stopped_idles _ later notice repeats idles
  · intro host
    exact host.console.report_unread notice

theorem outputs_before_a_fault :
    let program : Program := [.registers .input 1 0 0, .registers .output 1 0 0,
      .registers .output 7 0 0, .registers .input 6 0 0, .registers .div 2 1 0]
    let m := ((Machine.start { size := 8 }).load program).2
    let script : Script := { inputs := [-5], lines := #["before"], prompts := #["earlier"] }
    let final := (Session.of m script).stepN 5
    m.trace = false ∧ (Session.of m script).runFor 9 = some final ∧
      final.host.console.lines =
        #["before", "-5", "3", "Divide by zero error. Program halted."] ∧
      final.host.console.prompts = #["earlier", "Enter number to store in register 1",
        "Enter number to store in register 6"] ∧
      ∃ n notice, (Session.of m script).StopsAfter n ∧
        final.host.console.lines.toList = ["before"] ++
          (((Session.of m script).outputs n).map Word.text ++ [notice]) ∧
        final.host.console.prompts.toList = ["earlier"] ++ ((Session.of m script).inputs n).map
          (fun r => "Enter number to store in register " ++ r.val.repr) ∧
        final.machine.Repeats notice ∧ ∀ later, Idles final.machine later → later = final.machine := by
  intro program m script final
  have running : ∀ i < 5, (Session.stepN i (Session.of m script)).machine.status = .ok := by decide
  have stops : (Session.of m script).StopsAfter 5 :=
    ⟨by decide, by decide, fun i _ before => running i before⟩
  have ended := (Session.run_for_iff 9 (Session.of m script) final).mpr ⟨5, by decide, stops, rfl⟩
  obtain ⟨n, notice, first, -, -, lines, prompts, repeats, idles, -⟩ :=
    outputs_then_one_notice m rfl script 9 final ended
  exact ⟨rfl, ended, by decide, by decide, n, notice, first, lines, prompts, repeats, idles⟩

end RegisterMachine
