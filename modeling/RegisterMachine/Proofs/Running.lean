import RegisterMachine.Proofs.LastNotice

set_option autoImplicit false

namespace RegisterMachine.Session

variable {κ : Type} [Console κ]

-- The loop of steps, with the status that it gives back and the session that it leaves. It need not
-- end, and then there is neither.
inductive Runs : Session κ → Status → Session κ → Prop
  | stop (s : Session κ) (stopped : s.step.machine.status ≠ .ok) :
      Runs s s.step.machine.status s.step
  | again (s final : Session κ) (status : Status) (running : s.step.machine.status = .ok)
      (later : Runs s.step status final) : Runs s status final

-- The loop ends, in `final` and nowhere else, and the limited run gets there if its limit allows
-- for that many steps.
structure EndsIn (s final : Session κ) (steps : Nat) : Prop where
  loop : ∀ status last, s.Runs status last ↔ status = final.machine.status ∧ last = final
  limited : ∀ limit, s.runFor limit = if steps ≤ limit then some final else none

theorem runs_of_stops_after (n : Nat) (s : Session κ) (stops : s.StopsAfter n) :
    s.Runs (s.stepN n).machine.status (s.stepN n) := by
  induction n generalizing s with
  | zero => exact absurd stops.1 (Nat.lt_irrefl 0)
  | succ n ih =>
      by_cases running : s.step.machine.status = .ok
      · exact .again s _ _ running (ih s.step ((stops_after_succ n s running).mp stops))
      · cases (stops_after_one (n + 1) s running).mp stops
        exact .stop s running

theorem stops_after_of_runs (s final : Session κ) (status : Status) (runs : s.Runs status final) :
    ∃ n, s.StopsAfter n ∧ status = final.machine.status ∧ final = s.stepN n := by
  induction runs with
  | stop s stopped => exact ⟨1, (stops_after_one 1 s stopped).mpr rfl, rfl, rfl⟩
  | again s final status running _ ih =>
      obtain ⟨n, stops, returned, same⟩ := ih
      exact ⟨n + 1, (stops_after_succ n s running).mpr stops, returned, same⟩

theorem ends_in_of_stops_after (n : Nat) (s : Session κ) (stops : s.StopsAfter n) :
    s.EndsIn (s.stepN n) n := by
  refine ⟨?_, ?_⟩
  · intro status last
    refine ⟨?_, ?_⟩
    · intro runs
      obtain ⟨k, again, returned, same⟩ := stops_after_of_runs s last status runs
      cases stops_after_unique n k s stops again
      subst same
      exact ⟨returned, rfl⟩
    · intro result
      obtain ⟨rfl, rfl⟩ := result
      exact runs_of_stops_after n s stops
  · intro limit
    by_cases within : n ≤ limit
    · rw [if_pos within]
      exact (run_for_iff limit s _).mpr ⟨n, within, stops, rfl⟩
    · rw [if_neg within]
      apply Option.eq_none_iff_forall_ne_some.mpr
      intro final ended
      obtain ⟨k, early, again, -⟩ := (run_for_iff limit s final).mp ended
      exact within (stops_after_unique n k s stops again ▸ early)

end RegisterMachine.Session
