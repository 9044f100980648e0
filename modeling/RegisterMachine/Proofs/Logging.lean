import RegisterMachine.CommandLine
import RegisterMachine.Proofs.LineReading
import RegisterMachine.Proofs.Running
import RegisterMachine.Proofs.Simulation

set_option autoImplicit false

namespace RegisterMachine

inductive Level where
  | debug
  | info
  | warn
deriving DecidableEq, Repr

def Event.level : Event → Level
  | .restarted _ _ | .executing _ _ => .debug
  | .loaded _ | .stopped .halted _ => .info
  | .stopped _ _ | .outputFailed _ | .inputFailed _ => .warn

def Quiet (events : List Event) : Prop := ∀ event ∈ events, event.level ≠ .warn

instance (events : List Event) : Decidable (Quiet events) :=
  inferInstanceAs (Decidable (∀ event ∈ events, event.level ≠ .warn))

theorem restarted_quiet (capacity : Nat) (cleared : Bool) :
    Quiet [.restarted capacity cleared] := by
  simp [Quiet, Event.level]

theorem loaded_quiet (instructions : Nat) : Quiet [.loaded instructions] := by
  simp [Quiet, Event.level]

theorem quiet_append (first second : List Event) (before : Quiet first) (after : Quiet second) :
    Quiet (first ++ second) :=
  List.forall_mem_append.mpr ⟨before, after⟩

namespace CommandLine

structure Subscriber.Documented (subscriber : Subscriber) : Prop where
  accepted : subscriber.accepts "off" = true
  off : ∀ event, subscriber.shows "off" event = ""
  warn : ∀ event : Event, event.level ≠ .warn → subscriber.shows "warn" event = ""

inductive Subscriber.Installs (subscriber : Subscriber) : Option String → Logger → Prop
  | accepted (directives : String) (valid : subscriber.accepts directives = true) :
      Installs subscriber (some directives) (subscriber.shows directives)
  | refused (directives : String) (invalid : subscriber.accepts directives = false) :
      Installs subscriber (some directives) (subscriber.shows "warn")
  | unset : Installs subscriber none (subscriber.shows "warn")

theorem logger_installed (subscriber : Subscriber) (directives? : Option String) :
    subscriber.Installs directives? (subscriber.logger directives?) := by
  cases directives? with
  | none => exact .unset
  | some directives =>
      rw [Subscriber.logger]
      cases valid : subscriber.accepts directives with
      | true =>
          rw [Option.filter_some_pos valid]
          exact .accepted directives valid
      | false =>
          rw [Option.filter_some_neg valid]
          exact .refused directives valid

-- A text into which the log is written as the logger shows it. No event is missing and none is out
-- of order, but where in the text they stand is left open.
inductive Interleaved (logger : Logger) : String → List Event → String → Prop
  | nothing : Interleaved logger "" [] ""
  | said (text more shown : String) (events : List Event)
      (earlier : Interleaved logger text events shown) :
      Interleaved logger (text ++ more) events (shown ++ more)
  | logged (text shown : String) (events : List Event) (event : Event)
      (earlier : Interleaved logger text events shown) :
      Interleaved logger text (events ++ [event]) (shown ++ logger event)

theorem interleaved_silent (logger : Logger) (text shown : String) (events : List Event)
    (mixed : Interleaved logger text events shown) (silent : ∀ event ∈ events, logger event = "") :
    shown = text := by
  induction mixed with
  | nothing => rfl
  | said text more shown events _ ih => rw [ih silent]
  | logged text shown events event _ ih =>
      obtain ⟨before, last⟩ := List.forall_mem_append.mp silent
      rw [ih before, last event List.mem_cons_self, String.append_empty]

end CommandLine

open CommandLine

structure Terminal.Mixed (logger : Logger) (text : String) (events : List Event)
    (unread : List UInt8) (terminal : Terminal) : Prop where
  working : terminal.output = .working
  unread : terminal.unread = unread
  written : Interleaved logger text events terminal.written

namespace Terminal

variable {logger : Logger} {text : String} {events : List Event} {unread : List UInt8}

theorem write_working (more : String) (terminal : Terminal) (working : terminal.output = .working) :
    terminal.write more = { terminal with written := terminal.written ++ more } := by
  rw [write, working]
  rfl

theorem log_mixed (more : List Event) (terminal : Terminal)
    (mixed : terminal.Mixed logger text events unread) :
    (terminal.log logger more).Mixed logger text (events ++ more) unread := by
  induction more generalizing events terminal with
  | nil => exact (List.append_nil events).symm ▸ mixed
  | cons event later ih =>
      have first : (terminal.write (logger event)).Mixed logger text (events ++ [event]) unread := by
        rw [write_working _ terminal mixed.working]
        exact ⟨mixed.working, mixed.unread, .logged _ _ _ _ mixed.written⟩
      rw [List.append_cons]
      exact ih _ first

theorem report_mixed (line : String) (terminal : Terminal)
    (mixed : terminal.Mixed logger text events unread) :
    (terminal.reportLogging logger line).Mixed logger (text ++ (line ++ "\n")) events unread := by
  rw [reportLogging, report_working terminal line mixed.working]
  exact ⟨mixed.working, mixed.unread, .said _ _ _ _ mixed.written⟩

theorem ask_mixed (prompt : String) (default : Word) (terminal : Terminal)
    (mixed : terminal.Mixed logger text events unread) :
    let reading := Reading.ofLine (Reading.splitLine unread).1
    let complaint := ((reading.complaint? default).map (· ++ "\n")).getD ""
    (terminal.askLogging logger prompt default).1 = reading.answer default ∧
      (terminal.askLogging logger prompt default).2.Mixed logger
        (text ++ (prompt ++ ": ") ++ complaint) (events ++ reading.warnings)
        (Reading.splitLine unread).2 := by
  have read := terminal.read_working prompt mixed.working
  rw [mixed.unread] at read
  generalize Reading.ofLine (Reading.splitLine unread).1 = reading at read ⊢
  have shown : (terminal.read prompt).2.Mixed logger (text ++ (prompt ++ ": ")) events
      (Reading.splitLine unread).2 := by
    rw [read]
    exact ⟨mixed.working, rfl, .said _ _ _ _ mixed.written⟩
  rw [read] at shown
  have warned := log_mixed reading.warnings _ shown
  rw [askLogging, read]
  cases complaint : reading.complaint? default with
  | none =>
      simp only [complaint, Option.map_none, Option.getD_none, String.append_empty, true_and]
      exact warned
  | some line =>
      simp only [complaint, Option.map_some, Option.getD_some, true_and]
      exact report_mixed line _ warned

end Terminal

-- A host that keeps its log to itself, and a terminal on which the log is shown as well.
structure Overheard (logger : Logger) (opening : String) (left : Host Terminal) (right : Terminal) :
    Prop where
  working : left.console.output = .working
  mixed : right.Mixed logger (opening ++ left.console.written) left.log.toList left.console.unread

namespace Overheard

variable {logger : Logger} {opening : String} {left : Host Terminal} {right : Terminal}

theorem note (event : Event) (along : Overheard logger opening left right) :
    Overheard logger opening (left.note event) (right.log logger [event]) := by
  refine ⟨along.working, ?_⟩
  rw [Host.note, Array.toList_push]
  exact right.log_mixed [event] along.mixed

theorem report (line : String) (along : Overheard logger opening left right) :
    Overheard logger opening (left.report line) (right.reportLogging logger line) := by
  have shown := right.report_mixed line along.mixed
  have told : left.report line =
      { console := (left.console.report line).1
        log := left.log ++ (left.console.report line).2 } := rfl
  rw [told, left.console.report_working line along.working]
  refine ⟨along.working, ?_⟩
  rw [String.append_assoc] at shown
  simpa using shown

theorem ask (prompt : String) (default : Word) (along : Overheard logger opening left right) :
    (left.ask prompt default).1 = (right.askLogging logger prompt default).1 ∧
      Overheard logger opening (left.ask prompt default).2
        (right.askLogging logger prompt default).2 := by
  have asked := left.console.ask_reading ⟨prompt, default⟩ along.working
  obtain ⟨answered, shown⟩ := right.ask_mixed prompt default along.mixed
  have told : left.ask prompt default =
      ((left.console.ask prompt default).1,
        { console := (left.console.ask prompt default).2.1
          log := left.log ++ (left.console.ask prompt default).2.2 }) := rfl
  rw [told, asked]
  refine ⟨answered.symm, along.working, ?_⟩
  simpa [String.append_assoc] using shown

end Overheard

theorem Dialogue.perform_overheard {α : Type} (logger : Logger) (opening : String)
    (dialogue : Dialogue α) (left : Host Terminal) (right : Terminal)
    (along : Overheard logger opening left right) :
    (dialogue.conduct left).1 = (dialogue.perform logger right).1 ∧
      Overheard logger opening (dialogue.conduct left).2 (dialogue.perform logger right).2 := by
  induction dialogue generalizing left right with
  | done result => exact ⟨rfl, along⟩
  | report line next ih => exact ih _ _ (along.report line)
  | ask prompt default next ih =>
      obtain ⟨same, onward⟩ := along.ask prompt default
      rw [conduct_ask, perform, same]
      exact ih _ _ _ onward
  | log event next ih => exact ih _ _ (along.note event)

namespace CommandLine.Process

structure Follows (logger : Logger) (opening : String) (s : Session Terminal) (p : Process) :
    Prop where
  machine : p.machine = s.machine
  overheard : Overheard logger opening s.host p.terminal

variable {logger : Logger} {opening : String}

theorem step_follows (s : Session Terminal) (p : Process) (follows : Follows logger opening s p) :
    Follows logger opening s.step (p.step logger) := by
  obtain ⟨machine, terminal⟩ := p
  obtain ⟨same, overheard⟩ := follows
  cases same
  obtain ⟨stepped, onward⟩ :=
    s.machine.step.perform_overheard logger opening s.host terminal overheard
  exact ⟨stepped.symm, onward⟩

theorem run_of_running (limit : Nat) (p : Process) (running : (p.step logger).machine.status = .ok) :
    p.runFor logger (limit + 1) = (p.step logger).runFor logger limit := by
  rw [runFor, if_pos ((Status.is_ok_iff _).mpr running)]

theorem run_of_stopped (limit : Nat) (p : Process) (stopped : (p.step logger).machine.status ≠ .ok) :
    p.runFor logger (limit + 1) = some (p.step logger) := by
  rw [runFor, if_neg (fun ok => stopped ((Status.is_ok_iff _).mp ok))]

theorem run_follows (n : Nat) (s : Session Terminal) (p : Process)
    (follows : Follows logger opening s p) (stops : s.StopsAfter n) :
    ∃ last, Follows logger opening (s.stepN n) last ∧
      ∀ limit, p.runFor logger limit = if n ≤ limit then some last else none := by
  induction n generalizing s p with
  | zero => exact absurd stops.1 (Nat.lt_irrefl 0)
  | succ n ih =>
      have stepped := step_follows s p follows
      by_cases running : s.step.machine.status = .ok
      · have later := (Session.stops_after_succ n s running).mp stops
        obtain ⟨last, ended, run⟩ := ih s.step (p.step logger) stepped later
        refine ⟨last, ended, ?_⟩
        intro limit
        cases limit with
        | zero => rfl
        | succ limit =>
            rw [run_of_running limit p (stepped.machine ▸ running), run limit]
            simp only [Nat.succ_le_succ_iff]
      · cases (Session.stops_after_one (n + 1) s running).mp stops
        refine ⟨p.step logger, stepped, ?_⟩
        intro limit
        cases limit with
        | zero => rfl
        | succ limit =>
            rw [run_of_stopped limit p (stepped.machine ▸ running),
              if_pos (Nat.succ_le_succ (Nat.zero_le limit))]

theorem run_endless (limit : Nat) (s : Session Terminal) (p : Process)
    (follows : Follows logger opening s p) (endless : ∀ n, ¬ s.StopsAfter n) :
    p.runFor logger limit = none := by
  induction limit generalizing s p with
  | zero => rfl
  | succ limit ih =>
      have stepped := step_follows s p follows
      by_cases running : s.step.machine.status = .ok
      · rw [run_of_running limit p (stepped.machine ▸ running)]
        exact ih s.step (p.step logger) stepped
          fun n stops => endless (n + 1) ((Session.stops_after_succ n s running).mpr stops)
      · exact absurd ((Session.stops_after_one 1 s running).mpr rfl) (endless 1)

end CommandLine.Process

end RegisterMachine
