import RegisterMachine.Proofs.History

set_option autoImplicit false

namespace RegisterMachine.Session

variable {κ μ : Type} [Console κ] [Console μ]

theorem step_n_succ (k : Nat) (s : Session κ) : s.stepN (k + 1) = (s.stepN k).step := by
  induction k generalizing s with
  | zero => rfl
  | succ k ih => exact ih s.step

theorem step_n_keeps {P : Machine → Prop} (kept : ∀ m, P m → m.step.Always P) (k : Nat)
    (s : Session κ) (held : P s.machine) : P (s.stepN k).machine := by
  induction k generalizing s with
  | zero => exact held
  | succ k ih => exact ih s.step (step_keeps kept s held)

theorem step_stopped (s : Session κ) (stopped : s.machine.status ≠ .ok) :
    s.step.machine = s.machine := by
  rw [step_machine]
  apply Dialogue.always_conduct _ s.host (· = s.machine)
  rw [Machine.step_always]
  exact ⟨fun _ => rfl, fun running => absurd running stopped⟩

theorem step_n_stopped (k : Nat) (s : Session κ) (stopped : s.machine.status ≠ .ok) :
    (s.stepN k).machine = s.machine := by
  induction k with
  | zero => rfl
  | succ k ih =>
      have still : (s.stepN k).machine.status ≠ .ok := ih ▸ stopped
      rw [step_n_succ, step_stopped _ still, ih]

theorem step_n_add (i k : Nat) (s : Session κ) : s.stepN (i + k) = (s.stepN i).stepN k := by
  induction k with
  | zero => rfl
  | succ k ih => rw [← Nat.add_assoc, step_n_succ, step_n_succ, ih]

theorem running_before (i k : Nat) (s : Session κ) (earlier : i ≤ k)
    (running : (s.stepN k).machine.status = .ok) : (s.stepN i).machine.status = .ok := by
  by_cases stopped : (s.stepN i).machine.status = .ok
  · exact stopped
  · obtain ⟨rest, rfl⟩ := Nat.exists_eq_add_of_le earlier
    rw [step_n_add, step_n_stopped rest _ stopped] at running
    exact running

theorem run_for_alike (limit : Nat) (first : Session κ) (second : Session μ)
    (alike : ∀ i ≤ limit, (first.stepN i).machine.status = (second.stepN i).machine.status) :
    (first.runFor limit = none ∧ second.runFor limit = none) ∨
      ∃ n ≤ limit, first.runFor limit = some (first.stepN n) ∧
        second.runFor limit = some (second.stepN n) := by
  induction limit generalizing first second with
  | zero => exact .inl ⟨rfl, rfl⟩
  | succ limit ih =>
      have status : first.step.machine.status = second.step.machine.status :=
        alike 1 (Nat.le_add_left 1 limit)
      rw [runFor, runFor, ← status]
      by_cases running : first.step.machine.status.isOk = true
      · rw [if_pos running, if_pos running]
        have later : ∀ i ≤ limit,
            (first.step.stepN i).machine.status = (second.step.stepN i).machine.status :=
          fun i inside => alike (i + 1) (Nat.succ_le_succ inside)
        rcases ih first.step second.step later with endless | ⟨n, inside, left, right⟩
        · exact .inl endless
        · exact .inr ⟨n + 1, Nat.succ_le_succ inside, left, right⟩
      · rw [if_neg running, if_neg running]
        exact .inr ⟨1, Nat.le_add_left 1 limit, rfl, rfl⟩

def StopsAfter (n : Nat) (s : Session κ) : Prop :=
  0 < n ∧ (s.stepN n).machine.status ≠ .ok ∧
    ∀ i, 0 < i → i < n → (s.stepN i).machine.status = .ok

theorem stops_after_one (n : Nat) (s : Session κ) (stopped : s.step.machine.status ≠ .ok) :
    s.StopsAfter n ↔ n = 1 := by
  refine ⟨?_, ?_⟩
  · intro stops
    obtain ⟨positive, -, running⟩ := stops
    by_cases more : 1 < n
    · exact absurd (running 1 Nat.one_pos more) stopped
    · omega
  · intro same
    subst same
    refine ⟨Nat.one_pos, stopped, ?_⟩
    intro i after before
    omega

theorem stops_after_succ (n : Nat) (s : Session κ) (running : s.step.machine.status = .ok) :
    s.StopsAfter (n + 1) ↔ s.step.StopsAfter n := by
  refine ⟨?_, ?_⟩
  · intro stops
    obtain ⟨-, stopped, before⟩ := stops
    refine ⟨?_, stopped, ?_⟩
    · apply Nat.pos_of_ne_zero
      intro zero
      subst zero
      exact stopped running
    · intro i after early
      exact before (i + 1) (Nat.succ_pos i) (Nat.succ_lt_succ early)
  · intro stops
    obtain ⟨-, stopped, before⟩ := stops
    refine ⟨Nat.succ_pos n, stopped, ?_⟩
    intro i after early
    cases i with
    | zero => contradiction
    | succ i =>
        cases i with
        | zero => exact running
        | succ i => exact before (i + 1) (Nat.succ_pos i) (Nat.lt_of_succ_lt_succ early)

theorem stops_after_unique (n k : Nat) (s : Session κ) (first : s.StopsAfter n)
    (second : s.StopsAfter k) : n = k := by
  rcases Nat.lt_trichotomy n k with less | same | more
  · exact absurd (second.2.2 n first.1 less) first.2.1
  · exact same
  · exact absurd (first.2.2 k second.1 more) second.2.1

theorem running_or_stopped (n : Nat) (s : Session κ) (begun : s.machine.status = .ok)
    (stops : s.StopsAfter n) (i : Nat) :
    (s.stepN i).machine.status = .ok ∨ (s.stepN i).machine = (s.stepN n).machine := by
  rcases Nat.lt_or_ge i n with before | after
  · rcases Nat.eq_zero_or_pos i with zero | positive
    · subst zero
      exact .inl begun
    · exact .inl (stops.2.2 i positive before)
  · obtain ⟨rest, rfl⟩ := Nat.exists_eq_add_of_le after
    rw [step_n_add]
    exact .inr (step_n_stopped rest _ stops.2.1)

theorem stops_within (k : Nat) (s : Session κ) (positive : 0 < k)
    (stopped : (s.stepN k).machine.status ≠ .ok) : ∃ n ≤ k, s.StopsAfter n := by
  induction k generalizing s with
  | zero => contradiction
  | succ k ih =>
      by_cases running : s.step.machine.status = .ok
      · have more : 0 < k := by
          apply Nat.pos_of_ne_zero
          intro zero
          subst zero
          exact stopped running
        obtain ⟨n, within, stops⟩ := ih s.step more stopped
        exact ⟨n + 1, Nat.succ_le_succ within, (stops_after_succ n s running).mpr stops⟩
      · exact ⟨1, Nat.succ_le_succ (Nat.zero_le k), (stops_after_one 1 s running).mpr rfl⟩

theorem run_for_iff (limit : Nat) (s final : Session κ) :
    s.runFor limit = some final ↔ ∃ n ≤ limit, s.StopsAfter n ∧ final = s.stepN n := by
  induction limit generalizing s with
  | zero =>
      refine ⟨fun ended => (nomatch ended), ?_⟩
      intro ends
      obtain ⟨n, within, ⟨positive, -⟩, -⟩ := ends
      omega
  | succ limit ih =>
      rw [runFor]
      by_cases running : s.step.machine.status = .ok
      · rw [if_pos ((Status.is_ok_iff _).mpr running), ih s.step]
        refine ⟨?_, ?_⟩
        · intro ends
          obtain ⟨n, within, stops, same⟩ := ends
          exact ⟨n + 1, Nat.succ_le_succ within, (stops_after_succ n s running).mpr stops, same⟩
        · intro ends
          obtain ⟨n, within, stops, same⟩ := ends
          cases n with
          | zero => exact absurd stops.1 (Nat.lt_irrefl 0)
          | succ n =>
              exact ⟨n, Nat.le_of_succ_le_succ within, (stops_after_succ n s running).mp stops, same⟩
      · rw [if_neg (fun ok => running ((Status.is_ok_iff _).mp ok)), Option.some.injEq]
        refine ⟨?_, ?_⟩
        · intro same
          exact ⟨1, Nat.le_add_left 1 limit, (stops_after_one 1 s running).mpr rfl, same.symm⟩
        · intro ends
          obtain ⟨n, -, stops, same⟩ := ends
          have first := (stops_after_one n s running).mp stops
          subst first
          exact same.symm

end RegisterMachine.Session
