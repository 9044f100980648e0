import RegisterMachine.Proofs.Execution
import RegisterMachine.Session

set_option autoImplicit false

namespace RegisterMachine

inductive Operation where
  | restart (cleared : Bool)
  | reset
  | load (program : Program)
  | loadSource (source : String)
  | step
  | run
  | setTrace (on : Bool)
  | toggleTrace

-- A relation, since a run need not end. The result of a load is left out: its machine is what the
-- next operation finds, whether the load succeeded or not.
inductive Session.Performs {κ : Type} [Console κ] : Operation → Session κ → Session κ → Prop
  | restart (cleared : Bool) (s : Session κ) : Performs (.restart cleared) s (s.restart cleared)
  | reset (s : Session κ) : Performs .reset s s.reset
  | load (program : Program) (s : Session κ) : Performs (.load program) s (s.load program).2
  | loadSource (source : String) (s : Session κ) :
      Performs (.loadSource source) s (s.loadSource source).2
  | step (s : Session κ) : Performs .step s s.step
  | run (limit : Nat) (s final : Session κ) (ended : s.runFor limit = some final) :
      Performs .run s final
  | setTrace (on : Bool) (s : Session κ) : Performs (.setTrace on) s (s.setTrace on)
  | toggleTrace (s : Session κ) : Performs .toggleTrace s s.toggleTrace

-- Only the machine passes from one operation to the next, so each may have a console of another type.
inductive Reachable (capacity : Capacity) : Machine → Prop
  | start {κ : Type} (console : κ) : Reachable capacity (Session.start capacity console).machine
  | perform {κ : Type} [Console κ] {operation : Operation} {before after : Session κ}
      (earlier : Reachable capacity before.machine)
      (performed : Session.Performs operation before after) : Reachable capacity after.machine

structure Stable (P : Machine → Prop) : Prop where
  restart : ∀ m cleared, P m → P (m.restart cleared)
  load : ∀ m program, P m → P (m.load program).2
  step : ∀ m, P m → m.step.Always P
  setTrace : ∀ m on, P m → P (m.setTrace on)

namespace Session

variable {κ : Type} {P : Machine → Prop}

theorem restart_machine (cleared : Bool) (s : Session κ) :
    (s.restart cleared).machine = s.machine.restart cleared := rfl

theorem load_machine (program : Program) (s : Session κ) :
    (s.load program).2.machine = ((s.machine.restart true).load program).2 := by
  rw [← restart_machine]
  cases loaded : (s.restart true).machine.load program with
  | mk result machine =>
      simp only [load, loaded]
      cases result <;> rfl

theorem load_stable (stable : Stable P) (program : Program) (s : Session κ) (held : P s.machine) :
    P (s.load program).2.machine := by
  rw [load_machine]
  exact stable.load _ program (stable.restart _ true held)

theorem load_source_stable (stable : Stable P) (source : String) (s : Session κ)
    (held : P s.machine) : P (s.loadSource source).2.machine := by
  have restarted : P (s.restart true).machine := stable.restart _ true held
  unfold loadSource
  cases Program.parse source with
  | ok program => exact load_stable stable program (s.restart true) restarted
  | error e => exact restarted

variable [Console κ]

theorem step_machine (s : Session κ) :
    s.step.machine = (s.machine.step.conduct s.host).1 := rfl

theorem step_keeps (kept : ∀ m, P m → m.step.Always P) (s : Session κ) (held : P s.machine) :
    P s.step.machine := by
  rw [step_machine]
  exact Dialogue.always_conduct _ s.host P (kept s.machine held)

theorem run_keeps (kept : ∀ m, P m → m.step.Always P) (limit : Nat) (s final : Session κ)
    (held : P s.machine) (ended : s.runFor limit = some final) : P final.machine := by
  induction limit generalizing s with
  | zero => cases ended
  | succ limit ih =>
      have stepped := step_keeps kept s held
      rw [runFor] at ended
      split at ended
      · exact ih s.step stepped ended
      · cases ended
        exact stepped

theorem performs_stable (stable : Stable P) (operation : Operation) (before after : Session κ)
    (held : P before.machine) (performed : Performs operation before after) : P after.machine := by
  cases performed with
  | restart cleared => exact stable.restart _ cleared held
  | reset => exact stable.restart _ false held
  | load program => exact load_stable stable program before held
  | loadSource source => exact load_source_stable stable source before held
  | step => exact step_keeps stable.step before held
  | run limit _ _ ended => exact run_keeps stable.step limit before after held ended
  | setTrace on => exact stable.setTrace _ on held
  | toggleTrace => exact stable.setTrace _ _ held

end Session

theorem reachable_stable (capacity : Capacity) (P : Machine → Prop) (stable : Stable P)
    (initial : P (Machine.start capacity)) (m : Machine) (reached : Reachable capacity m) : P m := by
  induction reached with
  | start console => exact initial
  | perform earlier performed held => exact Session.performs_stable stable _ _ _ held performed

end RegisterMachine
