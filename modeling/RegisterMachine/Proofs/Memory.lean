import RegisterMachine.Console.Script
import RegisterMachine.Proofs.Loading
import RegisterMachine.Proofs.Stepping

set_option autoImplicit false

namespace RegisterMachine

namespace Machine

-- The next step executes a store of `w` to an address. The operands are read from the registers
-- with the counter already advanced.
def StoresNext (m : Machine) (address : Nat) (w : Word) : Prop :=
  m.status = .ok ∧ ∃ r s t, m.instructionAt? m.pc = some (.offset .store r s t) ∧
    (s + m.advance.get t).toInt = address ∧ w = m.advance.get r

def LoadsNext (m : Machine) (r : Register) (address : Nat) : Prop :=
  m.status = .ok ∧ ∃ s t, m.instructionAt? m.pc = some (.offset .load r s t) ∧
    (s + m.advance.get t).toInt = address

theorem stores_next_unique (m : Machine) (address : Nat) (v w : Word)
    (first : m.StoresNext address v) (second : m.StoresNext address w) : v = w := by
  obtain ⟨-, r, s, t, fetched, -, rfl⟩ := first
  obtain ⟨-, r', s', t', again, -, rfl⟩ := second
  rw [fetched] at again
  cases again
  rfl

theorem execute_keeps_cell (m : Machine) (i : Instruction) (address : Nat)
    (elsewhere : ∀ r s t, i = .offset .store r s t → (s + m.get t).toInt ≠ address) :
    (m.execute i).Always fun later => later.data[address]? = m.data[address]? := by
  cases i with
  | registers op r s t =>
      cases op with
      | halt | output | add | sub | mul => exact rfl
      | input => exact fun answer => rfl
      | div =>
          rw [execute, divide_always]
          exact ⟨fun _ => rfl, fun _ => rfl⟩
  | offset op r s t =>
      cases op with
      | load =>
          rw [execute, executeOffset, load_cell_always]
          exact ⟨fun _ _ => rfl, fun _ => rfl⟩
      | store =>
          rw [execute, executeOffset, store_cell_always]
          refine ⟨?_, fun _ => rfl⟩
          intro a found
          have other : a ≠ address := by
            intro same
            exact elsewhere r s t rfl (same ▸ ((data_index_iff m _ a).mp found).1)
          exact Array.getElem?_setIfInBounds_ne other
      | loadAddress | loadConstant => exact rfl
      | jump test =>
          rw [execute, jump_always]
          exact ⟨fun _ => rfl, fun _ => rfl⟩

theorem step_keeps_cell (m : Machine) (address : Nat) (idle : ∀ w, ¬ m.StoresNext address w) :
    m.step.Always fun later => later.data[address]? = m.data[address]? := by
  rw [step_always]
  refine ⟨fun _ => rfl, fun running => ?_⟩
  rw [cycle_always]
  refine ⟨fun _ => rfl, fun i fetched => ?_⟩
  apply execute_keeps_cell m.advance i address
  intro r s t store here
  subst store
  exact idle _ ⟨running, r, s, t, fetched, here, rfl⟩

theorem step_stores (m : Machine) (address : Nat) (w : Word) (inside : address < m.data.size)
    (stores : m.StoresNext address w) :
    m.step.Always fun later => later.data[address]? = some w := by
  obtain ⟨running, r, s, t, fetched, here, rfl⟩ := stores
  have found : m.advance.dataIndex? (s + m.advance.get t) = some address :=
    (data_index_iff m.advance _ address).mpr ⟨here, inside⟩
  rw [step_executes m _ _ running fetched, execute, executeOffset, store_cell_always]
  refine ⟨?_, fun missing => by simp [missing] at found⟩
  intro a same
  cases found.symm.trans same
  exact Array.getElem?_setIfInBounds_self_of_lt inside

theorem step_loads (m : Machine) (r : Register) (address : Nat) (inside : address < m.data.size)
    (loads : m.LoadsNext r address) :
    m.step.Always fun later => m.data[address]? = some (later.get r) := by
  obtain ⟨running, s, t, fetched, here⟩ := loads
  have found : m.advance.dataIndex? (s + m.advance.get t) = some address :=
    (data_index_iff m.advance _ address).mpr ⟨here, inside⟩
  rw [step_executes m _ _ running fetched, execute, executeOffset, load_cell_always]
  refine ⟨?_, fun missing => by simp [missing] at found⟩
  intro a same
  cases found.symm.trans same
  rw [get_set_same, advance_data, Array.getElem?_eq_getElem inside]
  rfl

theorem load_blank_data (p : Program) (m : Machine) :
    (m.load p).2.data = blankData (m.load p).2.capacity := by
  rcases Nat.lt_or_ge m.capacity.size p.length with large | fits
  · rw [load_too_large p m large]
    rfl
  · rw [load_fits p m fits]
    rfl

end Machine

namespace Session

variable {κ : Type}

inductive Renewed : Session κ → Prop
  | start (capacity : Capacity) (console : κ) : Renewed (start capacity console)
  | restart (cleared : Bool) (s : Session κ) : Renewed (s.restart cleared)
  | reset (s : Session κ) : Renewed s.reset
  | load (p : Program) (s : Session κ) : Renewed (s.load p).2
  | loadSource (source : String) (s : Session κ) : Renewed (s.loadSource source).2

theorem load_renews_data (p : Program) (s : Session κ) :
    (s.load p).2.machine.data = Machine.blankData (s.load p).2.machine.capacity := by
  rw [load_leaves]
  exact Machine.load_blank_data p s.machine

theorem renewed_data (s : Session κ) (renewed : Renewed s) :
    s.machine.data = Machine.blankData s.machine.capacity := by
  cases renewed with
  | start | restart | reset => rfl
  | load p s => exact load_renews_data p s
  | loadSource source s =>
      rw [loadSource]
      cases Program.parse source with
      | ok p => exact load_renews_data p (s.restart true)
      | error e => rfl

variable [Console κ]

-- What a cell should hold after `k` steps: the word of the last store to it among them, or, if
-- there was none, the word of a cell that nothing was stored in.
def Remembers (s : Session κ) (k address : Nat) (w : Word) : Prop :=
  (∃ i < k, (s.stepN i).machine.StoresNext address w ∧
    ∀ j, i < j → j < k → ∀ v, ¬ (s.stepN j).machine.StoresNext address v) ∨
    (∀ j < k, ∀ v, ¬ (s.stepN j).machine.StoresNext address v) ∧
      Machine.Unwritten s.machine.capacity.size address w

theorem remembers_start (s : Session κ) (address : Nat) (w : Word) :
    s.Remembers 0 address w ↔ Machine.Unwritten s.machine.capacity.size address w := by
  simp [Remembers]

theorem remembers_store (s : Session κ) (k address : Nat) (v w : Word)
    (stores : (s.stepN k).machine.StoresNext address v) :
    s.Remembers (k + 1) address w ↔ w = v := by
  refine ⟨?_, ?_⟩
  · intro remembered
    rcases remembered with ⟨i, before, stored, untouched⟩ | ⟨untouched, -⟩
    · by_cases latest : i = k
      · subst latest
        exact Machine.stores_next_unique _ address w v stored stores
      · exact absurd stores (untouched k (by omega) (Nat.lt_succ_self k) v)
    · exact absurd stores (untouched k (Nat.lt_succ_self k) v)
  · intro same
    subst same
    refine .inl ⟨k, Nat.lt_succ_self k, stores, ?_⟩
    intro j after before
    omega

theorem remembers_idle (s : Session κ) (k address : Nat) (w : Word)
    (idle : ∀ v, ¬ (s.stepN k).machine.StoresNext address v) :
    s.Remembers (k + 1) address w ↔ s.Remembers k address w := by
  have extend : ∀ j, j < k + 1 → j = k ∨ j < k := fun j before => by omega
  refine ⟨?_, ?_⟩
  · intro remembered
    rcases remembered with ⟨i, before, stored, untouched⟩ | ⟨untouched, unwritten⟩
    · rcases extend i before with rfl | earlier
      · exact absurd stored (idle w)
      · refine .inl ⟨i, earlier, stored, ?_⟩
        intro j after early
        exact untouched j after (Nat.lt_succ_of_lt early)
    · exact .inr ⟨fun j early => untouched j (Nat.lt_succ_of_lt early), unwritten⟩
  · intro remembered
    rcases remembered with ⟨i, before, stored, untouched⟩ | ⟨untouched, unwritten⟩
    · refine .inl ⟨i, Nat.lt_succ_of_lt before, stored, ?_⟩
      intro j after early
      rcases extend j early with rfl | earlier
      · exact idle
      · exact untouched j after earlier
    · refine .inr ⟨?_, unwritten⟩
      intro j early
      rcases extend j early with rfl | earlier
      · exact idle
      · exact untouched j earlier

theorem step_n_data_size (k : Nat) (s : Session κ) :
    (s.stepN k).machine.data.size = s.machine.data.size := by
  apply step_n_keeps (P := fun m => m.data.size = s.machine.data.size) _ k s rfl
  intro m same
  refine Dialogue.always_mono _ _ _ ?_ m.step_frame
  intro later frame
  exact frame.2.2.trans same

theorem cell_remembers (s : Session κ) (renewed : Renewed s) (k address : Nat)
    (inside : address < s.machine.capacity.size) (w : Word) :
    (s.stepN k).machine.data[address]? = some w ↔ s.Remembers k address w := by
  have data := renewed_data s renewed
  have size : s.machine.data.size = s.machine.capacity.size := by
    rw [data]
    exact Machine.blank_data_size s.machine.capacity
  induction k with
  | zero =>
      rw [remembers_start, stepN, data]
      have fresh := Machine.start_fresh s.machine.capacity
      exact Machine.fresh_cell_iff _ [] _ fresh address inside w
  | succ k ih =>
      rw [step_n_succ, step_machine]
      by_cases stores : ∃ v, (s.stepN k).machine.StoresNext address v
      · obtain ⟨v, stores⟩ := stores
        have within : address < (s.stepN k).machine.data.size := by
          rw [step_n_data_size, size]
          exact inside
        have held := Dialogue.always_conduct _ (s.stepN k).host _
          ((s.stepN k).machine.step_stores address v within stores)
        rw [remembers_store s k address v w stores, held, Option.some.injEq, eq_comm]
      · have idle := not_exists.mp stores
        have held := Dialogue.always_conduct _ (s.stepN k).host _
          ((s.stepN k).machine.step_keeps_cell address idle)
        rw [remembers_idle s k address w idle, held]
        exact ih

theorem data_memory_is_faithful (s : Session κ) (renewed : Renewed s) (k address : Nat)
    (inside : address < s.machine.capacity.size) :
    (∀ w, (s.stepN k).machine.data[address]? = some w ↔ s.Remembers k address w) ∧
      ∀ r, (s.stepN k).machine.LoadsNext r address →
        s.Remembers k address ((s.stepN (k + 1)).machine.get r) := by
  have held := cell_remembers s renewed k address inside
  refine ⟨held, ?_⟩
  intro r loads
  have within : address < (s.stepN k).machine.data.size := by
    rw [step_n_data_size, renewed_data s renewed, Machine.blank_data_size]
    exact inside
  apply (held _).mp
  rw [step_n_succ, step_machine]
  exact Dialogue.always_conduct _ (s.stepN k).host _
    ((s.stepN k).machine.step_loads r address within loads)

theorem wrapped_store_is_remembered :
    let program : Program := [.offset .loadConstant 2 (-2147483648) 0,
      .offset .store 7 (-2147483646) 2, .offset .load 1 2 0]
    let s := ((start { size := 4 } ({ inputs := [] } : Script)).load program).2
    Renewed s ∧ 2 < s.machine.capacity.size ∧ s.Remembers 2 2 2 ∧
      (s.stepN 2).machine.LoadsNext 1 2 ∧ s.Remembers 2 2 ((s.stepN 3).machine.get 1) := by
  intro program s
  have renewed : Renewed s :=
    .load program (start { size := 4 } ({ inputs := [] } : Script))
  have inside : 2 < s.machine.capacity.size := by decide
  have loads : (s.stepN 2).machine.LoadsNext 1 2 := ⟨by decide, 2, 0, by decide, by decide⟩
  obtain ⟨held, loaded⟩ := data_memory_is_faithful s renewed 2 2 inside
  exact ⟨renewed, inside, (held 2).mp (by decide), loads, loaded 1 loads⟩

end Session

end RegisterMachine
