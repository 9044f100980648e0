set_option autoImplicit false

namespace RegisterMachine

structure Capacity where
  size : Nat
  pos : 0 < size := by decide
  bounded : size ≤ 2147483647 := by decide
deriving DecidableEq, Repr

structure CapacityError where
  requested : Nat
deriving DecidableEq, Repr

def CapacityError.message (e : CapacityError) : String :=
  "memory capacity must be between 1 and 2147483647, got " ++ e.requested.repr

namespace Capacity

def standard : Capacity := { size := 1024 }

instance : Inhabited Capacity := ⟨standard⟩

def ofNat (requested : Nat) : Except CapacityError Capacity :=
  if range : 0 < requested ∧ requested ≤ 2147483647 then
    .ok { size := requested, pos := range.1, bounded := range.2 }
  else
    .error { requested }

theorem of_nat_ok_iff (requested : Nat) (c : Capacity) :
    ofNat requested = .ok c ↔ c.size = requested := by
  refine ⟨?_, ?_⟩
  · intro accepted
    by_cases range : 0 < requested ∧ requested ≤ 2147483647
    · rw [ofNat, dif_pos range, Except.ok.injEq] at accepted
      rw [← accepted]
    · rw [ofNat, dif_neg range] at accepted
      cases accepted
  · intro same
    subst same
    rw [ofNat, dif_pos ⟨c.pos, c.bounded⟩]

theorem of_nat_error_iff (requested : Nat) (e : CapacityError) :
    ofNat requested = .error e ↔
      (requested = 0 ∨ 2147483647 < requested) ∧ e.requested = requested := by
  by_cases range : 0 < requested ∧ requested ≤ 2147483647
  · rw [ofNat, dif_pos range]
    simp only [reduceCtorEq, false_iff]
    omega
  · rw [ofNat, dif_neg range, Except.error.injEq]
    refine ⟨?_, ?_⟩
    · intro same
      subst same
      exact ⟨by omega, rfl⟩
    · intro refused
      obtain ⟨-, same⟩ := refused
      rw [← same]

end Capacity

end RegisterMachine
