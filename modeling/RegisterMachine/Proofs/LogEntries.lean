import RegisterMachine.Console.Script
import RegisterMachine.Console.Terminal
import RegisterMachine.Proofs.StepAccount

set_option autoImplicit false

namespace RegisterMachine

def Event.isWarning : Event → Bool
  | .outputFailed _ | .inputFailed _ => true
  | .restarted _ _ | .loaded _ | .executing _ _ | .stopped _ _ => false

def entries (log : Array Event) : List Event := log.toList.filter fun event => !event.isWarning

def warnings (log : Array Event) : List Event := log.toList.filter Event.isWarning

theorem warnings_push (log : Array Event) (event : Event) (own : event.isWarning = false) :
    warnings (log.push event) = warnings log := by
  simp [warnings, own]

theorem warnings_warned (log : Array Event) (added : List Event)
    (warned : ∀ event ∈ added, event.isWarning = true) :
    warnings (log ++ added) = warnings log ++ added := by
  rw [warnings, Array.toList_appendList, List.filter_append, List.filter_eq_self.mpr warned]
  rfl

class OnlyWarns (κ : Type) [Console κ] : Prop where
  report : ∀ (line : String) (console : κ),
    ∀ event ∈ (Console.report line console).2, event.isWarning = true
  ask : ∀ (prompt : String) (default : Word) (console : κ),
    ∀ event ∈ (Console.ask prompt default console).2.2, event.isWarning = true

instance : OnlyWarns Script where
  report _ _ _ inside := nomatch inside
  ask _ _ _ _ inside := nomatch inside

theorem Terminal.report_warns (terminal : Terminal) (line : String) :
    ∀ event ∈ (terminal.report line).2, event.isWarning = true := by
  intro event inside
  obtain ⟨error, -, rfl⟩ := List.mem_map.mp inside
  rfl

theorem Reading.warnings_warn (reading : Reading) :
    ∀ event ∈ reading.warnings, event.isWarning = true := by
  cases reading <;> simp [warnings, Event.isWarning]

theorem Terminal.ask_warns (terminal : Terminal) (prompt : String) (default : Word) :
    ∀ event ∈ (terminal.ask prompt default).2.2, event.isWarning = true := by
  rw [ask]
  obtain ⟨reading, shown⟩ := terminal.read prompt
  have warned := reading.warnings_warn
  dsimp only
  cases reading.complaint? default with
  | none => exact warned
  | some complaint =>
      intro event inside
      rcases List.mem_append.mp inside with read | reported
      · exact warned event read
      · exact shown.report_warns complaint event reported

instance : OnlyWarns Terminal where
  report line terminal := terminal.report_warns line
  ask prompt default terminal := terminal.ask_warns prompt default

instance {left right : Type} [Console left] [Console right] [OnlyWarns left] [OnlyWarns right] :
    OnlyWarns (left ⊕ right) where
  report line
    | .inl console => OnlyWarns.report line console
    | .inr console => OnlyWarns.report line console
  ask prompt default
    | .inl console => OnlyWarns.ask prompt default console
    | .inr console => OnlyWarns.ask prompt default console

theorem Machine.logs_own (m later : Machine) : ∀ event ∈ m.logs later, event.isWarning = false := by
  intro event inside
  rcases List.mem_append.mp inside with executed | stopped
  · obtain ⟨i, -, rfl⟩ := Option.map_eq_some_iff.mp (Option.mem_toList.mp executed)
    rfl
  · by_cases running : m.status.isOk = true
    · rw [if_pos running, Option.mem_toList, final?] at stopped
      by_cases still : later.status.isOk = true
      · rw [if_pos still] at stopped
        cases stopped
      · rw [if_neg still] at stopped
        cases stopped
        rfl
    · rw [if_neg running] at stopped
      cases stopped

theorem Session.step_own {κ : Type} [Console κ] (s : Session κ) :
    ∀ event ∈ s.machine.step.events s.host, event.isWarning = false := by
  rw [step_logs]
  exact s.machine.logs_own s.step.machine

section

variable {κ : Type} [Console κ] [OnlyWarns κ]

end

end RegisterMachine
