import RegisterMachine.Proofs.LineReading
import RegisterMachine.Proofs.LogEntries

set_option autoImplicit false

namespace RegisterMachine

-- What is logged when something cannot be shown. After a prompt the terminal reports a complaint,
-- which only fails if writing does.
def Output.warnings : Output → Shown → List Event
  | .working, _ => []
  | .writeFails error, .line _ => [.outputFailed error]
  | .writeFails error, .prompt _ => [.inputFailed error, .outputFailed error]
  | .flushFails _, .line _ => []
  | .flushFails error, .prompt _ => [.inputFailed error]

namespace Terminal

theorem report_output (terminal : Terminal) (line : String) :
    (terminal.report line).1.output = terminal.output := by
  rw [report, write]
  cases terminal.output.writeError? <;> rfl

theorem report_warnings (terminal : Terminal) (line : String) :
    (terminal.report line).2 = terminal.output.warnings (.line line) := by
  rw [report]
  cases terminal.output <;> rfl

theorem ask_failing (terminal : Terminal) (prompt : String) (default : Word)
    (failing : terminal.output ≠ .working) :
    let (answer, after, added) := terminal.ask prompt default
    answer = default ∧ after.unread = terminal.unread ∧ after.output = terminal.output ∧
      added = terminal.output.warnings (.prompt prompt) := by
  obtain ⟨unread, written, output⟩ := terminal
  cases output with
  | working => exact absurd rfl failing
  | writeFails error => exact ⟨rfl, rfl, rfl, rfl⟩
  | flushFails error => exact ⟨rfl, rfl, rfl, rfl⟩

theorem report_broken (terminal : Terminal) (line error : String)
    (broken : terminal.output = .writeFails error) : (terminal.report line).1 = terminal := by
  rw [report, write, broken]
  rfl

theorem ask_broken (terminal : Terminal) (prompt error : String) (default : Word)
    (broken : terminal.output = .writeFails error) :
    (terminal.ask prompt default).2.1 = terminal := by
  obtain ⟨unread, written, output⟩ := terminal
  cases broken
  rfl

theorem ask_alike (first second : Terminal) (prompt : String) (default : Word)
    (left : first.output = .working) (right : second.output = .working)
    (same : first.unread = second.unread) :
    (first.ask prompt default).1 = (second.ask prompt default).1 ∧
      (first.ask prompt default).2.1.unread = (second.ask prompt default).2.1.unread := by
  rw [first.ask_reading ⟨prompt, default⟩ left, second.ask_reading ⟨prompt, default⟩ right, same]
  exact ⟨rfl, rfl⟩

end Terminal

namespace Dialogue

variable {α κ μ : Type}

theorem conduct_keeps [Console κ] (dialogue : Dialogue α) (host : Host κ) (P : κ → Prop)
    (report : ∀ line console, P console → P (Console.report line console).1)
    (ask : ∀ prompt default console, P console → P (Console.ask prompt default console).2.1)
    (held : P host.console) : P (dialogue.conduct host).2.console := by
  induction dialogue generalizing host with
  | done result => exact held
  | report line next ih => exact ih (host.report line) (report line _ held)
  | ask prompt default next ih => exact ih _ (host.ask prompt default).2 (ask prompt default _ held)
  | log event next ih => exact ih (host.note event) held

theorem conduct_broken (dialogue : Dialogue α) (host : Host Terminal) (error : String)
    (broken : host.console.output = .writeFails error) :
    (dialogue.conduct host).2.console = host.console := by
  apply dialogue.conduct_keeps host (· = host.console)
  · intro line console same
    subst same
    exact host.console.report_broken line error broken
  · intro prompt default console same
    subst same
    exact host.console.ask_broken prompt error default broken
  · rfl

theorem failing_unread (dialogue : Dialogue α) (host : Host Terminal)
    (failing : host.console.output ≠ .working) :
    (dialogue.conduct host).2.console.unread = host.console.unread := by
  have kept := dialogue.conduct_keeps host fun console =>
    console.unread = host.console.unread ∧ console.output = host.console.output
  refine (kept ?_ ?_ ⟨rfl, rfl⟩).1
  · intro line console same
    obtain ⟨unread, output⟩ := same
    exact ⟨(console.report_unread line).trans unread, (console.report_output line).trans output⟩
  · intro prompt default console same
    obtain ⟨unread, output⟩ := same
    obtain ⟨-, left, still, -⟩ := console.ask_failing prompt default (output ▸ failing)
    exact ⟨left.trans unread, still.trans output⟩

theorem failing_warnings (dialogue : Dialogue α) (host : Host Terminal) (output : Output)
    (current : host.console.output = output) (failing : output ≠ .working)
    (own : ∀ event ∈ dialogue.events host, event.isWarning = false) :
    warnings (dialogue.conduct host).2.log =
      warnings host.log ++ (dialogue.shown host).flatMap output.warnings := by
  induction dialogue generalizing host with
  | done result => exact (List.append_nil _).symm
  | report line next ih =>
      have warned : warnings (host.report line).log =
          warnings host.log ++ output.warnings (.line line) := by
        rw [← current, ← host.console.report_warnings line]
        exact warnings_warned _ _ (OnlyWarns.report line host.console)
      have later := ih (host.report line) ((host.console.report_output line).trans current) own
      rw [warned, List.append_assoc] at later
      exact later
  | ask prompt default next ih =>
      obtain ⟨-, -, same, added⟩ := host.console.ask_failing prompt default (current ▸ failing)
      have warned : warnings (host.ask prompt default).2.log =
          warnings host.log ++ output.warnings (.prompt prompt) := by
        rw [← current, ← added]
        exact warnings_warned _ _ (OnlyWarns.ask prompt default host.console)
      have later := ih _ (host.ask prompt default).2 (same.trans current) own
      rw [warned, List.append_assoc] at later
      exact later
  | log event next ih =>
      obtain ⟨first, later⟩ := List.forall_mem_cons.mp own
      have kept : warnings (host.note event).log = warnings host.log := warnings_push _ _ first
      exact (ih (host.note event) current later).trans (congrArg (· ++ _) kept)

theorem conduct_unasked [Console κ] [Console μ] (dialogue : Dialogue α) (host : Host κ)
    (other : Host μ) (unasked : Shown.prompts (dialogue.shown host) = []) :
    (dialogue.conduct host).1 = (dialogue.conduct other).1 := by
  induction dialogue generalizing host other with
  | done result => rfl
  | report line next ih => exact ih (host.report line) (other.report line) unasked
  | ask prompt default next ih => cases unasked
  | log event next ih => exact ih (host.note event) (other.note event) unasked

theorem unasked_unread (dialogue : Dialogue α) (host : Host Terminal)
    (unasked : Shown.prompts (dialogue.shown host) = []) :
    (dialogue.conduct host).2.console.unread = host.console.unread := by
  induction dialogue generalizing host with
  | done result => rfl
  | report line next ih =>
      exact (ih (host.report line) unasked).trans (host.console.report_unread line)
  | ask prompt default next ih => cases unasked
  | log event next ih => exact ih (host.note event) unasked

end Dialogue

namespace Machine

theorem show_notice_running (m : Machine) (running : m.status = .ok) : m.showNotice = .done m := by
  rw [showNotice, running]
  rfl

theorem running_of_asking (m : Machine) (r : Register) (asks : m.input? = some r) :
    m.status = .ok := by
  by_contra stopped
  rw [input?, fetched_of_stopped m stopped] at asks
  cases asks

theorem step_asking (m : Machine) (r : Register) (asks : m.input? = some r) :
    ∃ i, m.fetched? = some i ∧ m.step =
      let question : Dialogue Machine := .log (.executing m.pc i)
        (.ask (inputPrompt r) 0 fun answer => .done (m.advance.set r answer))
      if m.trace then .report (traceLine i) question else question := by
  have running := m.running_of_asking r asks
  obtain ⟨i, found, taken⟩ := Option.bind_eq_some_iff.mp asks
  have fetched := found
  rw [fetched_of_running m running] at fetched
  have silent : ∀ answer, (m.advance.set r answer).showNotice = .done (m.advance.set r answer) :=
    fun answer => show_notice_running _ running
  refine ⟨i, found, ?_⟩
  rw [step, if_pos ((Status.is_ok_iff m.status).mpr running), cycle, fetched]
  cases i with
  | offset => cases taken
  | registers op r s t =>
      cases op with
      | input =>
          cases taken
          cases m.trace <;> simp [Dialogue.bind, execute, executeRegisters, silent]
      | halt | output | add | sub | mul | div => cases taken

end Machine

namespace Session

def onOutput (output : Output) (s : Session Terminal) : Session Terminal :=
  { s with host := { s.host with console := { s.host.console with output } } }

def scheduled (schedule : List Output) (s : Session Terminal) : Session Terminal :=
  schedule.foldl (fun s output => (s.onOutput output).step) s

def asked : List Output → Session Terminal → List Question
  | [], _ => []
  | output :: later, s =>
      let question? := if output = .working then s.machine.input? else none
      (question?.map fun r => ⟨Machine.inputPrompt r, 0⟩).toList ++ asked later (s.onOutput output).step

-- What a step does that finds the output so. The ideal terminal has the same input and works.
structure Withstands (output : Output) (ideal : Terminal) (before after : Session Terminal) :
    Prop where
  kept : output ≠ .working → after.host.console.unread = before.host.console.unread
  unasked : before.machine.input? = none →
    after.host.console.unread = before.host.console.unread ∧
      ∀ (κ : Type) [Console κ] (host : Host κ),
        (Session.mk before.machine host).step.machine = after.machine
  unanswered : ∀ r, before.machine.input? = some r → output ≠ .working →
    after.machine = before.machine.advance.set r 0 ∧ after.machine.status = .ok
  answered : ∀ r, before.machine.input? = some r → output = .working →
    let (answer, onward, _) := ideal.ask (Machine.inputPrompt r) 0
    after.host.console.unread = onward.unread ∧
      after.machine = before.machine.advance.set r answer
  unwritten : ∀ error, output = .writeFails error →
    after.host.console.written = before.host.console.written
  warned : output ≠ .working →
    warnings after.host.log = warnings before.host.log ++
      (before.machine.shows after.machine).flatMap output.warnings

theorem step_asking (s : Session Terminal) (r : Register) (asks : s.machine.input? = some r) :
    ∃ host : Host Terminal, host.console.unread = s.host.console.unread ∧
      host.console.output = s.host.console.output ∧
      (s.host.console.output = .working → warnings host.log = warnings s.host.log ∧
        host.console.written = s.host.console.written ++
          String.join ((Shown.lines s.machine.announced).map (· ++ "\n"))) ∧
      s.step.machine = s.machine.advance.set r (host.ask (Machine.inputPrompt r) 0).1 ∧
      s.step.host = (host.ask (Machine.inputPrompt r) 0).2 := by
  obtain ⟨i, fetched, asking⟩ := s.machine.step_asking r asks
  rw [step, asking, Machine.announced, fetched]
  cases traced : s.machine.trace with
  | false =>
      refine ⟨s.host.note (.executing s.machine.pc i), rfl, rfl, ?_, rfl, rfl⟩
      intro _
      exact ⟨warnings_push _ _ rfl, String.append_empty.symm⟩
  | true =>
      let announced := s.host.report (Machine.traceLine i)
      refine ⟨announced.note (.executing s.machine.pc i), s.host.console.report_unread _,
        s.host.console.report_output _, ?_, rfl, rfl⟩
      intro working
      have told : announced =
          { console := (s.host.console.report (Machine.traceLine i)).1
            log := s.host.log ++ (s.host.console.report (Machine.traceLine i)).2 } := rfl
      rw [s.host.console.report_working (Machine.traceLine i) working] at told
      have logged : announced.log = s.host.log := by simpa using congrArg Host.log told
      have written : announced.console.written =
          s.host.console.written ++ (Machine.traceLine i ++ "\n") :=
        congrArg (fun host : Host Terminal => host.console.written) told
      refine ⟨(warnings_push _ _ rfl).trans (congrArg warnings logged), written.trans ?_⟩
      exact congrArg (s.host.console.written ++ ·) String.empty_append.symm

theorem step_takes_line (s : Session Terminal) (r : Register) (lines : List (List UInt8))
    (working : s.host.console.output = .working) (asks : s.machine.input? = some r)
    (split : Reading.FeedLines s.host.console.unread lines) :
    ∃ answer said warned, Reading.Reply 0 lines.head? answer said warned ∧
      s.step.machine = s.machine.advance.set r answer ∧
      s.step.host.console.unread = lines.tail.flatten ∧
      s.step.host.console.written = s.host.console.written ++
        String.join ((Shown.lines s.machine.announced).map (· ++ "\n")) ++
        ("Enter number to store in register " ++ r.val.repr ++ ": ") ++ said ∧
      warnings s.step.host.log = warnings s.host.log ++ warned := by
  obtain ⟨host, unread, current, silent, machine, left⟩ := s.step_asking r asks
  obtain ⟨logged, written⟩ := silent working
  obtain ⟨answer, said, warned, reply, asked⟩ := host.console.ask_line
    ⟨Machine.inputPrompt r, 0⟩ lines (current.trans working) (unread ▸ split)
  have told : host.ask (Machine.inputPrompt r) 0 =
      ((host.console.ask (Machine.inputPrompt r) 0).1,
        { console := (host.console.ask (Machine.inputPrompt r) 0).2.1
          log := host.log ++ (host.console.ask (Machine.inputPrompt r) 0).2.2 }) := rfl
  have warns := host.console.ask_warns (Machine.inputPrompt r) 0
  rw [asked] at told warns
  rw [machine, left, told]
  refine ⟨answer, said, warned, reply, rfl, rfl, ?_, ?_⟩
  · rw [← written]
    rfl
  · exact (warnings_warned _ _ warns).trans (congrArg (· ++ warned) logged)

theorem step_withstands (output : Output) (ideal : Terminal) (s : Session Terminal)
    (working : ideal.output = .working) (same : s.host.console.unread = ideal.unread) :
    Withstands output ideal s (s.onOutput output).step where
  kept := s.machine.step.failing_unread (s.onOutput output).host
  unasked silent := by
    have unasked : Shown.prompts (s.machine.step.shown (s.onOutput output).host) = [] := by
      apply (congrArg Shown.prompts (s.onOutput output).step_shows).trans
      rw [Machine.prompts_shows]
      exact congrArg (fun r? => (r?.map Machine.inputPrompt).toList) silent
    refine ⟨s.machine.step.unasked_unread (s.onOutput output).host unasked, ?_⟩
    intro κ _ host
    exact (s.machine.step.conduct_unasked (s.onOutput output).host host unasked).symm
  unanswered r asks failing := by
    obtain ⟨host, -, current, -, machine, -⟩ := (s.onOutput output).step_asking r asks
    obtain ⟨default, -⟩ := host.console.ask_failing (Machine.inputPrompt r) 0 (current ▸ failing)
    have stored : (s.onOutput output).step.machine = s.machine.advance.set r 0 :=
      machine.trans (congrArg (s.machine.advance.set r) default)
    rw [stored]
    exact ⟨rfl, s.machine.running_of_asking r asks⟩
  answered r asks works := by
    obtain ⟨host, unread, current, -, machine, left⟩ := (s.onOutput output).step_asking r asks
    obtain ⟨answer, onward⟩ := host.console.ask_alike ideal (Machine.inputPrompt r) 0
      (current.trans works) working (unread.trans same)
    refine ⟨?_, machine.trans (congrArg (s.machine.advance.set r) answer)⟩
    rw [left]
    exact onward
  unwritten error broken := by
    have kept := s.machine.step.conduct_broken (s.onOutput output).host error broken
    exact (congrArg Terminal.written kept).trans rfl
  warned failing := by
    have shown := (s.onOutput output).step_shows
    have own := (s.onOutput output).step_own
    have warned := s.machine.step.failing_warnings (s.onOutput output).host output rfl failing own
    exact warned.trans (congrArg (fun shown => _ ++ shown.flatMap output.warnings) shown)

theorem scheduled_unread (schedule : List Output) (ideal : Terminal) (s : Session Terminal)
    (working : ideal.output = .working) (same : s.host.console.unread = ideal.unread) :
    (s.scheduled schedule).host.console.unread = (ideal.afterAll (s.asked schedule)).unread := by
  induction schedule generalizing ideal s with
  | nil => exact same
  | cons output later ih =>
      have stepped := s.step_withstands output ideal working same
      cases asks : s.machine.input? with
      | none =>
          have silent : s.asked (output :: later) = (s.onOutput output).step.asked later := by
            rw [asked, asks, ite_self]
            rfl
          rw [silent]
          exact ih ideal _ working ((stepped.unasked asks).1.trans same)
      | some r =>
          by_cases works : output = .working
          · have put : s.asked (output :: later) =
                ⟨Machine.inputPrompt r, 0⟩ :: (s.onOutput output).step.asked later := by
              rw [asked, asks, if_pos works]
              rfl
            have onward := ideal.ask_reading ⟨Machine.inputPrompt r, 0⟩ working
            rw [put]
            exact ih (ideal.ask (Machine.inputPrompt r) 0).2.1 _ (onward ▸ working)
              (stepped.answered r asks works).1
          · have silent : s.asked (output :: later) = (s.onOutput output).step.asked later := by
              rw [asked, asks, if_neg works]
              rfl
            rw [silent]
            exact ih ideal _ working ((stepped.kept works).trans same)

end Session

-- The ideal terminal is asked only the questions that were put while the output worked, so they are
-- the ones that lines were taken for.
theorem failing_output_is_harmless (s : Session Terminal) (schedule : List Output)
    (output : Output) :
    let ideal := ({ unread := s.host.console.unread } : Terminal).afterAll (s.asked schedule)
    let before := s.scheduled schedule
    let after := s.scheduled (schedule ++ [output])
    before.host.console.unread = ideal.unread ∧ before.Withstands output ideal after ∧
      (∃ lines, Reading.FeedLines s.host.console.unread lines) ∧
      ∀ lines, Reading.FeedLines s.host.console.unread lines →
        let taken := (s.asked schedule).length
        before.host.console.unread = (lines.drop taken).flatten ∧
          ∀ r, before.machine.input? = some r → output = .working →
            ∃ answer said warned, Reading.Reply 0 lines[taken]? answer said warned ∧
              after.machine = before.machine.advance.set r answer ∧
              after.host.console.unread = (lines.drop (taken + 1)).flatten ∧
              after.host.console.written = before.host.console.written ++
                String.join ((Shown.lines before.machine.announced).map (· ++ "\n")) ++
                ("Enter number to store in register " ++ r.val.repr ++ ": ") ++ said ∧
              warnings after.host.log = warnings before.host.log ++ warned := by
  intro ideal before after
  have reads := fun lines =>
    Terminal.after_all_reads (s.asked schedule) { unread := s.host.console.unread } lines rfl
  obtain ⟨lines, split⟩ := Reading.feed_lines_exist s.host.console.unread
  obtain ⟨working, -⟩ := reads lines split
  have same : before.host.console.unread = ideal.unread :=
    s.scheduled_unread schedule { unread := s.host.console.unread } rfl rfl
  have onward : after = (before.onOutput output).step := List.foldl_append
  rw [onward]
  refine ⟨same, before.step_withstands output ideal working same, ⟨lines, split⟩, ?_⟩
  intro lines split taken
  obtain ⟨-, left⟩ := reads lines split
  rw [← same] at left
  refine ⟨(Reading.feed_lines_join _ _ left).symm, ?_⟩
  intro r asks works
  have takes := (before.onOutput output).step_takes_line r (lines.drop taken) works asks left
  rw [List.head?_drop, List.tail_drop] at takes
  exact takes

end RegisterMachine
