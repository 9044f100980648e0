import RegisterMachine.Console.Script
import RegisterMachine.Proofs.Memory
import RegisterMachine.Proofs.RegisterResults
import RegisterMachine.Proofs.StepAccount
import RegisterMachine.Proofs.StopConditions

set_option autoImplicit false

namespace RegisterMachine

namespace Machine

section Between

variable {α : Type} (cells : Array α) (first last : Nat)

theorem between_of_inside (inside : first ≤ last ∧ last < cells.size) :
    between? cells first last = some (cells.extract first (last + 1)) :=
  if_pos inside

theorem between_shown_iff :
    (∃ shown, between? cells first last = some shown) ↔ first ≤ last ∧ last < cells.size := by
  refine ⟨?_, fun inside => ⟨_, between_of_inside cells first last inside⟩⟩
  intro found
  obtain ⟨shown, found⟩ := found
  by_contra outside
  rw [between?, if_neg outside] at found
  cases found

theorem between_length (shown : Array α) (found : between? cells first last = some shown) :
    shown.size = last - first + 1 := by
  have inside := (between_shown_iff cells first last).mp ⟨shown, found⟩
  rw [between_of_inside cells first last inside, Option.some.injEq] at found
  rw [← found, Array.size_extract]
  omega

theorem between_cell (n : Nat) : between? cells n n = cells[n]?.map fun a => #[a] := by
  by_cases inside : n < cells.size
  · rw [between_of_inside cells n n ⟨Nat.le_refl n, inside⟩, Array.getElem?_eq_getElem inside,
      Option.map_some, Option.some.injEq]
    apply Array.ext_getElem?
    intro i
    cases i with
    | zero =>
        rw [Array.getElem?_extract, if_pos (by omega), Nat.add_zero,
          Array.getElem?_eq_getElem inside]
        rfl
    | succ i => rw [Array.getElem?_extract, if_neg (by omega), Array.getElem?_eq_none (by simp)]
  · rw [between?, if_neg fun both => inside both.2, Array.getElem?_eq_none (Nat.le_of_not_lt inside)]
    rfl

theorem between_cell_iff (n : Nat) (a : α) :
    between? cells n n = some #[a] ↔ cells[n]? = some a := by
  rw [between_cell]
  cases cells[n]? <;> simp

theorem between_cell_none_iff (n : Nat) : between? cells n n = none ↔ cells.size ≤ n := by
  rw [between_cell, Option.map_eq_none_iff, Array.getElem?_eq_none_iff]

theorem between_congr (other : Array α) (size : other.size = cells.size)
    (same : ∀ n, first ≤ n → n ≤ last → other[n]? = cells[n]?) :
    between? other first last = between? cells first last := by
  rw [between?, between?, size]
  by_cases inside : first ≤ last ∧ last < cells.size
  · rw [if_pos inside, if_pos inside, Option.some.injEq]
    apply Array.ext_getElem?
    intro i
    rw [Array.getElem?_extract, Array.getElem?_extract, size]
    by_cases within : i < min (last + 1) cells.size - first
    · rw [if_pos within, if_pos within, same (first + i) (by omega) (by omega)]
    · rw [if_neg within, if_neg within]
  · rw [if_neg inside, if_neg inside]

-- Inspection with bounds of 64 bits. The position after the last cell is only formed where there is
-- one; after the greatest bound there is none.
def between64? (first last : UInt64) : Option (Array α) :=
  if last < first ∨ last = 18446744073709551615 then none
  else if (last + 1).toNat ≤ cells.size then
    some (cells.extract first.toNat (last + 1).toNat)
  else none

theorem between64_eq (first last : UInt64) (bounded : cells.size ≤ 2147483647) :
    between64? cells first last = between? cells first.toNat last.toNat := by
  rw [between64?, between?]
  by_cases refused : last < first ∨ last = 18446744073709551615
  · have outside : ¬ (first.toNat ≤ last.toNat ∧ last.toNat < cells.size) := by
      rcases refused with below | greatest
      · have less := UInt64.lt_iff_toNat_lt.mp below
        omega
      · have bound : last.toNat = 18446744073709551615 := congrArg UInt64.toNat greatest
        omega
    rw [if_pos refused, if_neg outside]
  · obtain ⟨ordered, smaller⟩ := not_or.mp refused
    have low := UInt64.le_iff_toNat_le.mp (UInt64.not_lt.mp ordered)
    have apart : last.toNat ≠ 18446744073709551615 := fun same => smaller (UInt64.toNat_inj.mp same)
    have bound := last.toNat_lt
    have next : (last + 1).toNat = last.toNat + 1 := by
      rw [UInt64.toNat_add, UInt64.toNat_one, Nat.mod_eq_of_lt (by omega)]
    rw [if_neg refused, next]
    by_cases inside : last.toNat + 1 ≤ cells.size
    · rw [if_pos inside, if_pos ⟨low, inside⟩]
    · rw [if_neg inside, if_neg fun both => inside both.2]

end Between

structure Window {α : Type} (size : Nat) (cells : Array α) (view : Nat → Nat → Option (Array α)) :
    Prop where
  shown : ∀ first last, (∃ found, view first last = some found) ↔ first ≤ last ∧ last < size
  length : ∀ first last found, view first last = some found → found.size = last - first + 1
  wide : ∀ first last : UInt64, between64? cells first last = view first.toNat last.toNat

theorem between_window {α : Type} (size : Nat) (cells : Array α) (whole : cells.size = size)
    (bounded : size ≤ 2147483647) : Window size cells (between? cells) where
  shown first last := by
    rw [between_shown_iff, whole]
  length := between_length cells
  wide first last := between64_eq cells first last (whole ▸ bounded)

-- The next step loads a register from an address, or stores it there. The address wraps, and the
-- base is read with the counter already advanced.
def AccessesNext (m : Machine) (op : OffsetOp) (r : Register) (address : Word) : Prop :=
  (op = .load ∨ op = .store) ∧ ∃ a b, m.instructionAt? m.pc = some (.offset op r a b) ∧
    address.Represents (a.toInt + (m.operand b).toInt)

theorem outside_iff {α : Type} (size : Nat) (cells : Array α) (whole : cells.size = size)
    (address : Word) :
    Outside size address ↔
      address.toInt < 0 ∨ between? cells address.toInt.toNat address.toInt.toNat = none := by
  rw [between_cell_none_iff, whole, Outside]
  omega

theorem not_outside (size : Nat) (address : Word) (inside : ¬ Outside size address) :
    address.toInt = address.toInt.toNat ∧ address.toInt.toNat < size := by
  rw [Outside] at inside
  omega

section Accesses

variable (size : Nat) (m : Machine) (op : OffsetOp) (r : Register) (address : Word)
  (sound : m.Sound size) (accesses : m.AccessesNext op r address)

include sound accesses

theorem accesses_stops_iff : m.StopsNext .dataFault ↔ Outside size address := by
  obtain ⟨kind, a, b, fetched, represents⟩ := accesses
  rw [← sound.capacity]
  refine ⟨?_, ?_⟩
  · intro stops
    obtain ⟨_, _, _, _, other, -, again, same, outside⟩ := stops
    rw [fetched] at again
    cases again
    exact Word.represents_unique _ _ _ represents same ▸ outside
  · intro outside
    exact ⟨op, r, a, b, address, kind, fetched, represents, outside⟩

theorem accesses_advanced : ∃ a b, m.instructionAt? m.pc = some (.offset op r a b) ∧
    a + m.advance.get b = address := by
  obtain ⟨-, a, b, fetched, represents⟩ := accesses
  refine ⟨a, b, fetched, ?_⟩
  rw [advance_operand size m _ sound fetched]
  exact Word.represents_unique _ _ _ (Word.add_represents _ _) represents

end Accesses

end Machine

namespace Session

variable {κ : Type} [Console κ] (size : Nat) (s : Session κ) (r : Register) (address : Word)

structure LoadsShown : Prop where
  faults : s.step.machine.status = .dataFault ↔ address.toInt < 0 ∨
    s.machine.dataBetween? address.toInt.toNat address.toInt.toNat = none
  loads : s.step.machine.status ≠ .dataFault →
    s.machine.dataBetween? address.toInt.toNat address.toInt.toNat = some #[s.step.machine.get r]

structure StoresShown : Prop where
  faults : s.step.machine.status = .dataFault ↔ address.toInt < 0 ∨
    s.machine.dataBetween? address.toInt.toNat address.toInt.toNat = none
  stores : s.step.machine.status ≠ .dataFault →
    s.step.machine.dataBetween? address.toInt.toNat address.toInt.toNat =
      some #[s.machine.operand r]
  elsewhere : s.step.machine.status ≠ .dataFault → ∀ first last : Nat,
    ¬ (first ≤ address.toInt.toNat ∧ address.toInt.toNat ≤ last) →
      s.step.machine.dataBetween? first last = s.machine.dataBetween? first last

-- The instruction shown at the counter is the one that the step logs, and what it comes to under the
-- answers of the console is what the step comes to.
structure ExecutesShown (i : Instruction) : Prop where
  shown : s.machine.codeBetween? s.machine.pc.toInt.toNat s.machine.pc.toInt.toNat = some #[i]
  logged : (s.machine.step.events s.host).head? = some (.executing s.machine.pc i)
  executed : ∃ spoken, (s.machine.advance.execute i).Goes spoken (s.machine.step.answers s.host)
    s.step.machine

variable (sound : s.machine.Sound size) (running : s.machine.status = .ok)

include sound running

theorem access_faults_iff (op : OffsetOp) (accesses : s.machine.AccessesNext op r address) :
    s.step.machine.status = .dataFault ↔ Machine.Outside size address := by
  rw [step_status_iff size s sound running .dataFault (by decide)]
  exact Machine.accesses_stops_iff size s.machine op r address sound accesses

theorem load_shown (loads : s.machine.AccessesNext .load r address) :
    s.LoadsShown r address := by
  have faults := access_faults_iff size s r address sound running .load loads
  refine ⟨faults.trans (Machine.outside_iff size _ sound.data address), ?_⟩
  intro completed
  have inside := Machine.not_outside size address fun outside => completed (faults.mpr outside)
  obtain ⟨a, b, fetched, place⟩ :=
    Machine.accesses_advanced size s.machine .load r address sound loads
  have next : s.machine.LoadsNext r address.toInt.toNat :=
    ⟨running, a, b, fetched, place ▸ inside.1⟩
  apply (Machine.between_cell_iff _ _ _).mpr
  rw [step_machine]
  exact Dialogue.always_conduct _ s.host _
    (s.machine.step_loads r _ (sound.data ▸ inside.2) next)

theorem store_shown (stores : s.machine.AccessesNext .store r address) :
    s.StoresShown r address := by
  have faults := access_faults_iff size s r address sound running .store stores
  have within := fun completed : s.step.machine.status ≠ .dataFault =>
    Machine.not_outside size address fun outside => completed (faults.mpr outside)
  obtain ⟨a, b, fetched, place⟩ :=
    Machine.accesses_advanced size s.machine .store r address sound stores
  have next : ∀ n : Nat, address.toInt = n → s.machine.StoresNext n (s.machine.operand r) :=
    fun n named => ⟨running, r, a, b, fetched, place ▸ named,
      (Machine.advance_operand size s.machine _ sound fetched r).symm⟩
  refine ⟨faults.trans (Machine.outside_iff size _ sound.data address), ?_, ?_⟩
  · intro completed
    have inside := within completed
    apply (Machine.between_cell_iff _ _ _).mpr
    rw [step_machine]
    exact Dialogue.always_conduct _ s.host _
      (s.machine.step_stores _ _ (sound.data ▸ inside.2) (next _ inside.1))
  · intro completed first last apart
    have stepped : s.step.machine.Sound size :=
      step_keeps (Machine.sound_stable size).step s sound
    apply Machine.between_congr _ _ _ _ (stepped.data.trans sound.data.symm)
    intro n low high
    have idle : ∀ w, ¬ s.machine.StoresNext n w := by
      intro w other
      obtain ⟨-, _, _, _, again, here, -⟩ := other
      rw [fetched] at again
      cases again
      rw [place] at here
      omega
    rw [step_machine]
    exact Dialogue.always_conduct _ s.host _ (s.machine.step_keeps_cell n idle)

theorem step_fault_iff : s.step.machine.status = .instructionFault ↔
    s.machine.pc.toInt < 0 ∨
      s.machine.codeBetween? s.machine.pc.toInt.toNat s.machine.pc.toInt.toNat = none := by
  rw [step_status_iff size s sound running .instructionFault (by decide), Machine.codeBetween?,
    ← Machine.outside_iff size s.machine.code sound.code, Machine.StopsNext, sound.capacity]

omit sound in
theorem execution_shown (completed : s.step.machine.status ≠ .instructionFault) :
    ∃ i, s.ExecutesShown i := by
  obtain ⟨i, fetched⟩ : ∃ i, s.machine.instructionAt? s.machine.pc = some i := by
    apply Option.ne_none_iff_exists'.mp
    intro missing
    rw [step_faults s running missing] at completed
    exact completed rfl
  have filled := (Machine.instruction_at_iff _ _ _).mp fetched
  have goes := Dialogue.conduct_goes s.machine.step s.host
  refine ⟨i, (Machine.between_cell_iff _ _ _).mpr filled.2, ?_, ?_⟩
  · rw [step_logs, Machine.logs, Machine.executing?, Machine.fetched_of_running _ running, fetched]
    rfl
  · exact Machine.step_goes_executed _ _ i _ _ running fetched goes

end Session

theorem inspection_agrees_with_execution {κ : Type} [Console κ] (capacity : Capacity)
    (s : Session κ) (reached : Reachable capacity s.machine) :
    Machine.Window capacity.size s.machine.data s.machine.dataBetween? ∧
      Machine.Window capacity.size s.machine.code s.machine.codeBetween? ∧
      (s.machine.status = .ok →
        (∀ r address, s.machine.AccessesNext .load r address → s.LoadsShown r address) ∧
          (∀ r address, s.machine.AccessesNext .store r address → s.StoresShown r address) ∧
          (s.step.machine.status = .instructionFault ↔ s.machine.pc.toInt < 0 ∨
            s.machine.codeBetween? s.machine.pc.toInt.toNat s.machine.pc.toInt.toNat = none) ∧
          (s.step.machine.status ≠ .instructionFault → ∃ i, s.ExecutesShown i)) := by
  have sound := Machine.reachable_sound capacity s.machine reached
  refine ⟨?_, ?_, ?_⟩
  · exact Machine.between_window capacity.size _ sound.data capacity.bounded
  · exact Machine.between_window capacity.size _ sound.code capacity.bounded
  · intro running
    refine ⟨?_, ?_, ?_, ?_⟩
    · intro r address loads
      exact Session.load_shown capacity.size s r address sound running loads
    · intro r address stores
      exact Session.store_shown capacity.size s r address sound running stores
    · exact Session.step_fault_iff capacity.size s sound running
    · exact Session.execution_shown s running

theorem wrapped_store_shown :
    let program : Program := [.offset .loadConstant 2 (-2147483648) 0,
      .offset .store 7 (-2147483646) 2]
    let s := ((Session.start { size := 3 } ({ inputs := [] } : Script)).load program).2.step
    Reachable { size := 3 } s.machine ∧ s.machine.status = .ok ∧
      s.machine.AccessesNext .store 7 2 ∧
      s.step.machine.dataBetween? 2 2 = some #[2] ∧
      s.step.machine.dataBetween? 0 1 = s.machine.dataBetween? 0 1 ∧
      s.machine.dataBetween? 2 18446744073709551615 = none ∧ ∃ i, s.ExecutesShown i := by
  intro program s
  have reached : Reachable { size := 3 } s.machine :=
    .perform (.perform (.start ({ inputs := [] } : Script)) (.load program _)) (.step _)
  have running : s.machine.status = .ok := by decide
  have wrapped : Word.Represents 2 ((-2147483646 : Word).toInt + (s.machine.operand 2).toInt) :=
    (Word.represents_iff _ _).mpr (by decide)
  have stores : s.machine.AccessesNext .store 7 2 :=
    ⟨.inr rfl, -2147483646, 2, by decide, wrapped⟩
  have completed : s.step.machine.status = .ok := by decide
  have counter : s.machine.operand 7 = 2 := by decide
  obtain ⟨window, -, execution⟩ := inspection_agrees_with_execution { size := 3 } s reached
  obtain ⟨-, stored, -, executed⟩ := execution running
  have outcome := stored 7 2 stores
  have faultless : s.step.machine.status ≠ .dataFault := completed ▸ (by decide)
  have placed := outcome.stores faultless
  rw [counter] at placed
  have wide := window.wide 2 18446744073709551615
  exact ⟨reached, running, stores, placed, outcome.elsewhere faultless 0 1 (by decide), wide.symm,
    executed (completed ▸ by decide)⟩

end RegisterMachine
