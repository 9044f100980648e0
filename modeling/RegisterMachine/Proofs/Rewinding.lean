import RegisterMachine.Console.Terminal
import RegisterMachine.Proofs.Answers
import RegisterMachine.Proofs.Loading

set_option autoImplicit false

namespace RegisterMachine

def Operation.KeepsProgram : Operation → Prop
  | .reset | .step | .run | .setTrace _ | .toggleTrace => True
  | .restart _ | .load _ | .loadSource _ => False

inductive JustLoaded : Machine → Prop
  | program {κ : Type} (p : Program) (n : Nat) (before after : Session κ)
      (loaded : before.load p = (.ok n, after)) : JustLoaded after.machine
  | source {κ : Type} (source : String) (n : Nat) (before after : Session κ)
      (loaded : before.loadSource source = (.ok n, after)) : JustLoaded after.machine

inductive Continues (loaded : Machine) : Machine → Prop
  | none : Continues loaded loaded
  | perform {κ : Type} [Console κ] {operation : Operation} {before after : Session κ}
      (earlier : Continues loaded before.machine) (keeping : operation.KeepsProgram)
      (performed : Session.Performs operation before after) : Continues loaded after.machine

theorem continues_steps {κ : Type} [Console κ] (loaded : Machine) (k : Nat) (s : Session κ)
    (earlier : Continues loaded s.machine) : Continues loaded (s.stepN k).machine := by
  induction k generalizing s with
  | zero => exact earlier
  | succ k ih =>
      have keeping : Operation.KeepsProgram .step := trivial
      exact ih s.step (.perform earlier keeping (.step s))

theorem continues_set_trace {κ : Type} [Console κ] (loaded : Machine) (on : Bool) (s : Session κ)
    (earlier : Continues loaded s.machine) : Continues loaded (s.machine.setTrace on) := by
  have keeping : Operation.KeepsProgram (.setTrace on) := trivial
  exact .perform earlier keeping (.setTrace on s)

namespace Machine

def SameProgram (m n : Machine) : Prop := n.code = m.code ∧ n.capacity = m.capacity

theorem step_same_program (m n : Machine) (same : m.SameProgram n) :
    n.step.Always (SameProgram m) := by
  refine Dialogue.always_mono _ _ _ ?_ n.step_frame
  intro later frame
  obtain ⟨capacity, code, -⟩ := frame
  exact ⟨code.trans same.1, capacity.trans same.2⟩

theorem same_but_trace_status (m n : Machine) (same : m.SameButTrace n) : m.status = n.status := by
  rw [← same]
  rfl

theorem restart_same_program (m n : Machine) (same : m.SameProgram n) :
    n.restart false = (m.restart false).setTrace n.trace := by
  obtain ⟨code, capacity⟩ := same
  simp only [restart, setTrace, code, capacity]

theorem restart_fresh (size : Nat) (p : Program) (m : Machine) (fresh : m.Fresh size p) :
    m.restart false = m := by
  have cleared := restart_cleared_fresh m
  rw [fresh.capacity] at cleared
  have again : (m.restart false).Fresh size p :=
    { cleared with slots := fresh.slots, program := fresh.program, padding := fresh.padding }
  exact fresh_unique size p _ m again fresh rfl

end Machine

theorem Session.performs_same_program {κ : Type} [Console κ] (m : Machine) (operation : Operation)
    (before after : Session κ) (keeping : operation.KeepsProgram)
    (performed : Performs operation before after) (same : m.SameProgram before.machine) :
    m.SameProgram after.machine := by
  cases performed with
  | restart | load | loadSource => exact keeping.elim
  | reset | setTrace | toggleTrace => exact same
  | step => exact step_keeps (Machine.step_same_program m) before same
  | run limit _ _ ended =>
      exact run_keeps (Machine.step_same_program m) limit before after same ended

theorem continues_same_program (loaded later : Machine) (continued : Continues loaded later) :
    loaded.SameProgram later := by
  induction continued with
  | none => exact ⟨rfl, rfl⟩
  | perform _ keeping performed ih =>
      exact Session.performs_same_program loaded _ _ _ keeping performed ih

theorem Machine.fresh_of_loaded (p : Program) (n : Nat) (m : Machine)
    (loaded : (m.load p).1 = .ok n) : (m.load p).2.Fresh m.capacity.size p := by
  obtain ⟨fits, q, same, rfl⟩ := ((m.load_outcome p).done n).mp loaded
  cases same
  exact (m.load_outcome p).holds p rfl fits

theorem just_loaded_fresh (m : Machine) (loaded : JustLoaded m) : ∃ size p, m.Fresh size p := by
  cases loaded with
  | program p n before after loaded =>
      have machine := before.load_eq_machine p
      rw [loaded] at machine
      have fresh := before.machine.fresh_of_loaded p n (congrArg Prod.fst machine).symm
      rw [← machine] at fresh
      exact ⟨_, p, fresh⟩
  | source source n before after loaded =>
      have machine := before.load_source_eq_machine source
      rw [loaded] at machine
      have outcome := before.machine.load_source_outcome source
      rw [← machine] at outcome
      obtain ⟨fits, p, read, length⟩ := (outcome.done n).mp rfl
      exact ⟨_, p, outcome.holds p read (length ▸ fits)⟩

structure Session.Repeats {κ μ : Type} [Console κ] [Console μ] (k : Nat) (first : Session κ)
    (again : Session μ) : Prop where
  machines : ∀ i ≤ k, (first.stepN i).machine.SameButTrace (again.stepN i).machine
  prompts : ∀ i ≤ k, Shown.prompts (first.shown i) = Shown.prompts (again.shown i)
  shown : first.machine.trace = again.machine.trace →
    ∀ i ≤ k, (first.stepN i).machine = (again.stepN i).machine ∧ first.shown i = again.shown i
  -- Neither run ends in time, or both end after the same step.
  ends : (first.runFor k = none ∧ again.runFor k = none) ∨
    ∃ n ≤ k, first.runFor k = some (first.stepN n) ∧ again.runFor k = some (again.stepN n)

theorem Session.repeats_of_same_answers {κ μ : Type} [Console κ] [Console μ] (k : Nat)
    (sequence : List Word) (first : Session κ) (again : Session μ)
    (same : first.machine.SameButTrace again.machine) (left : first.answers k <+: sequence)
    (right : again.answers k <+: sequence) : Repeats k first again := by
  have along : ∀ i ≤ k, first.answers i <+: sequence ∧ again.answers i <+: sequence :=
    fun i within =>
      ⟨(answers_begin i k first within).trans left, (answers_begin i k again within).trans right⟩
  have untraced := fun i within =>
    same_answers_untraced i sequence first again same (along i within).1 (along i within).2
  refine ⟨?_, ?_, ?_, ?_⟩
  · intro i within
    exact (untraced i within).2.2
  · intro i within
    rw [← Shown.prompts_untraced, ← Shown.prompts_untraced (again.shown i), (untraced i within).1]
  · intro trace i within
    have equal : first.machine = again.machine := by
      rw [← same, ← trace]
      rfl
    obtain ⟨shown, -, machine⟩ :=
      same_answers_same_run i sequence first again equal (along i within).1 (along i within).2
    exact ⟨machine, shown⟩
  · apply run_for_alike
    intro i within
    exact Machine.same_but_trace_status _ _ (untraced i within).2.2

theorem reset_rewinds_to_load {κ μ : Type} [Console κ] [Console μ] (loaded : Machine)
    (just : JustLoaded loaded) (first : Session κ) (again : Session μ)
    (begun : first.machine.SameButTrace loaded) (continued : Continues loaded again.machine) :
    again.reset.machine = loaded.setTrace again.machine.trace ∧
      ∀ (k : Nat) (sequence : List Word), first.answers k <+: sequence →
        again.reset.answers k <+: sequence → Session.Repeats k first again.reset := by
  obtain ⟨size, p, fresh⟩ := just_loaded_fresh loaded just
  have rewound : again.reset.machine = loaded.setTrace again.machine.trace := by
    change again.machine.restart false = _
    rw [Machine.restart_same_program loaded _ (continues_same_program loaded _ continued),
      Machine.restart_fresh size p loaded fresh]
  refine ⟨rewound, ?_⟩
  intro k sequence left right
  have same : first.machine.SameButTrace again.reset.machine := by
    have bare := (Machine.same_but_trace_iff _ _).mp begun
    rw [Machine.same_but_trace_iff, rewound]
    exact bare
  exact Session.repeats_of_same_answers k sequence first again.reset same left right

theorem faulting_program_rewound :
    let program : Program := [.registers .input 1 0 0, .offset .store 1 0 0,
      .registers .div 1 1 0]
    let load := (Session.start { size := 4 } ({ inputs := [] } : Script)).load program
    let loaded := load.2.machine
    let ran := (Session.of loaded ({ inputs := [9] } : Script)).stepN 3
    let first := Session.of loaded ({ inputs := [5] } : Script)
    let again := Session.of (ran.machine.setTrace true) ({ unread := [53, 10] } : Terminal)
    load.1 = .ok 3 ∧ ran.machine.status = .divideByZero ∧
      again.reset.machine = loaded.setTrace true ∧ Session.Repeats 4 first again.reset := by
  intro program load loaded ran first again
  have just : JustLoaded loaded :=
    .program program 3 (Session.start { size := 4 } ({ inputs := [] } : Script)) load.2 rfl
  have stopped : Continues loaded ran.machine :=
    continues_steps loaded 3 (Session.of loaded ({ inputs := [9] } : Script)) .none
  have continued : Continues loaded again.machine := continues_set_trace loaded true ran stopped
  have begun : first.machine.SameButTrace loaded := rfl
  obtain ⟨rewound, repeats⟩ := reset_rewinds_to_load loaded just first again begun continued
  exact ⟨rfl, by decide, rewound, repeats 4 [5] (by decide) (by decide)⟩

end RegisterMachine
