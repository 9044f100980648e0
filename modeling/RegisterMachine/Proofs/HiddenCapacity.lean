import RegisterMachine.Console.Script
import RegisterMachine.Proofs.Answers
import RegisterMachine.Proofs.Memory

set_option autoImplicit false

namespace RegisterMachine

namespace Machine

-- The larger machine is the smaller one in everything but data cell 0 and its size, and nothing was
-- stored past the smaller one's data.
structure Within (small large : Machine) : Prop where
  registers : large.registers = small.registers
  status : large.status = small.status
  trace : large.trace = small.trace
  code : ∀ slot : Nat, slot < small.code.size → large.code[slot]? = small.code[slot]?
  room : small.data.size ≤ large.data.size
  cells : ∀ address : Nat, 1 ≤ address → address < small.data.size →
    large.data[address]? = small.data[address]?
  beyond : ∀ address : Nat, small.data.size ≤ address → address < large.data.size →
    large.data[address]? = some 0

def Unfaulted (m : Machine) : Prop := m.status ≠ .instructionFault ∧ m.status ≠ .dataFault

variable {small large : Machine}

theorem within_get (within : small.Within large) (r : Register) : large.get r = small.get r :=
  congrArg (·[r]) within.registers

theorem within_set (within : small.Within large) (r : Register) (w : Word) :
    (small.set r w).Within (large.set r w) :=
  { within with registers := congrArg (·.set r w) within.registers }

theorem within_status (within : small.Within large) (status : Status) :
    Within { small with status } { large with status } :=
  { within with status := rfl }

theorem within_advance (within : small.Within large) : small.advance.Within large.advance := by
  rw [advance, advance, pc, pc, within_get within]
  exact within_set within _ _

theorem within_store (within : small.Within large) (a : Nat) (w : Word)
    (inside : a < small.data.size) :
    Within { small with data := small.data.setIfInBounds a w }
      { large with data := large.data.setIfInBounds a w } where
  registers := within.registers
  status := within.status
  trace := within.trace
  code := within.code
  room := by simpa using within.room
  cells address first before := by
    have kept := within.cells address first (by simpa using before)
    have room := within.room
    rw [Array.getElem?_setIfInBounds, Array.getElem?_setIfInBounds, kept]
    by_cases same : a = address
    · rw [if_pos same, if_pos same, if_pos inside, if_pos (by omega)]
    · rw [if_neg same, if_neg same]
  beyond address past before := by
    have past : small.data.size ≤ address := by simpa using past
    rw [Array.getElem?_setIfInBounds_ne (by omega)]
    exact within.beyond address past (by simpa using before)

theorem matched_stop (within : small.Within large) (status : Status) :
    Dialogue.Matched Unfaulted Within (small.stop status) (large.stop status) :=
  Dialogue.matched_log _ _ _ _ (Dialogue.matched_done _ _ (within_status within status))

-- A memory fault of the smaller machine matches anything.
theorem matched_fault (m : Machine) (status : Status)
    (fault : status = .instructionFault ∨ status = .dataFault) (right : Dialogue Machine) :
    Dialogue.Matched Unfaulted Within (m.stop status) right := by
  intro shown answers later goes unfaulted
  cases goes with
  | log _ _ _ _ _ goes =>
      cases goes
      rcases fault with rfl | rfl
      · exact absurd rfl unfaulted.1
      · exact absurd rfl unfaulted.2

theorem within_data_index (within : small.Within large) (address : Word) (a : Nat)
    (found : small.dataIndex? address = some a) : large.dataIndex? address = some a := by
  obtain ⟨value, inside⟩ := (data_index_iff small address a).mp found
  exact (data_index_iff large address a).mpr ⟨value, Nat.lt_of_lt_of_le inside within.room⟩

theorem matched_load_cell (within : small.Within large) (r : Register) (address : Word)
    (other : address.toInt ≠ 0) :
    Dialogue.Matched Unfaulted Within (small.loadCell r address) (large.loadCell r address) := by
  unfold loadCell
  cases found : small.dataIndex? address with
  | none => exact matched_fault small .dataFault (.inr rfl) _
  | some a =>
      obtain ⟨value, inside⟩ := (data_index_iff small address a).mp found
      have same := within.cells a (by omega) inside
      simp only [within_data_index within address a found, same]
      exact Dialogue.matched_done _ _ (within_set within r _)

theorem matched_store_cell (within : small.Within large) (r : Register) (address : Word) :
    Dialogue.Matched Unfaulted Within (small.storeCell r address) (large.storeCell r address) := by
  unfold storeCell
  cases found : small.dataIndex? address with
  | none => exact matched_fault small .dataFault (.inr rfl) _
  | some a =>
      have inside := ((data_index_iff small address a).mp found).2
      simp only [within_data_index within address a found, within_get within]
      exact Dialogue.matched_done _ _ (within_store within a _ inside)

theorem matched_execute (within : small.Within large) (i : Instruction)
    (quiet : ∀ r s t, i = .offset .load r s t → (s + small.get t).toInt ≠ 0) :
    Dialogue.Matched Unfaulted Within (small.execute i) (large.execute i) := by
  cases i with
  | registers op r s t =>
      simp only [execute, executeRegisters, within_get within]
      cases op with
      | halt => exact matched_stop within .halted
      | input =>
          exact Dialogue.matched_ask _ _ _ _ fun answer =>
            Dialogue.matched_done _ _ (within_set within r answer)
      | output => exact Dialogue.matched_report _ _ _ (Dialogue.matched_done _ _ within)
      | add | sub | mul => exact Dialogue.matched_done _ _ (within_set within r _)
      | div =>
          by_cases zero : small.get t = 0
          · simp only [if_pos zero]
            exact matched_stop within .divideByZero
          · simp only [if_neg zero]
            exact Dialogue.matched_done _ _ (within_set within r _)
  | offset op r s t =>
      simp only [execute, executeOffset, within_get within]
      cases op with
      | load => exact matched_load_cell within r _ (quiet r s t rfl)
      | store => exact matched_store_cell within r _
      | loadAddress | loadConstant => exact Dialogue.matched_done _ _ (within_set within r _)
      | jump test =>
          apply Dialogue.matched_done
          cases test.holds (small.get r) with
          | true => exact within_set within _ _
          | false => exact within

theorem within_fetch (within : small.Within large) (i : Instruction)
    (fetched : small.instructionAt? small.pc = some i) :
    large.instructionAt? large.pc = some i := by
  obtain ⟨start, filled⟩ := (instruction_at_iff small small.pc i).mp fetched
  obtain ⟨inside, -⟩ := Array.getElem?_eq_some_iff.mp filled
  have counter : large.pc = small.pc := within_get within Register.programCounter
  rw [counter]
  exact (instruction_at_iff large small.pc i).mpr ⟨start, (within.code _ inside).trans filled⟩

theorem matched_cycle (within : small.Within large) (running : small.status = .ok)
    (quiet : ∀ r, ¬ small.LoadsNext r 0) :
    Dialogue.Matched Unfaulted Within small.cycle large.cycle := by
  unfold cycle
  cases fetched : small.instructionAt? small.pc with
  | none => exact matched_fault small .instructionFault (.inl rfl) _
  | some i =>
      have executed : Dialogue.Matched Unfaulted Within (small.advance.execute i)
          (large.advance.execute i) := by
        apply matched_execute (within_advance within) i
        intro r s t load zero
        subst load
        exact quiet r ⟨running, s, t, fetched, zero⟩
      simp only [within_fetch within i fetched, within.trace]
      cases small.trace with
      | true => exact Dialogue.matched_report _ _ _ (Dialogue.matched_log _ _ _ _ executed)
      | false => exact Dialogue.matched_log _ _ _ _ executed

theorem matched_notice (within : small.Within large) :
    Dialogue.Matched Unfaulted Within small.showNotice large.showNotice := by
  rw [showNotice, showNotice, within.status]
  cases small.status.notice? with
  | none => exact Dialogue.matched_done _ _ within
  | some line => exact Dialogue.matched_report _ _ _ (Dialogue.matched_done _ _ within)

theorem matched_step (within : small.Within large) (quiet : ∀ r, ¬ small.LoadsNext r 0) :
    Dialogue.Matched Unfaulted Within small.step large.step := by
  rw [step, step, within.status]
  by_cases running : small.status.isOk = true
  · rw [if_pos running, if_pos running]
    intro shown answers result goes unfaulted
    obtain ⟨before, after, given, later, middle, rfl, rfl, first, second⟩ :=
      Dialogue.goes_bind_split _ _ _ _ _ goes
    obtain ⟨-, same⟩ := show_notice_goes middle result after later second
    subst same
    have ok := (Status.is_ok_iff _).mp running
    obtain ⟨other, onward, kept⟩ :=
      matched_cycle within ok quiet before given result first unfaulted
    obtain ⟨final, noticed, related⟩ := matched_notice kept after later result second unfaulted
    exact ⟨final, Dialogue.goes_bind _ _ _ _ _ _ _ _ onward noticed, related⟩
  · rw [if_neg running, if_neg running]
    exact matched_notice within

theorem fresh_cells_within (c c' : Nat) (p q : Program) (fresh : small.Fresh c p)
    (larger : large.Fresh c' q) (room : c ≤ c') (address : Nat) (later : 1 ≤ address)
    (inside : address < c) : large.data[address]? = small.data[address]? := by
  obtain ⟨w, held, unwritten⟩ := fresh.unwritten address inside
  have zero : Unwritten c' address w := by
    rw [Unwritten, if_neg (by omega)] at unwritten ⊢
    exact unwritten
  rw [held]
  exact (fresh_cell_iff c' q large larger address (by omega) w).mpr zero

theorem fresh_within (c c' : Nat) (p : Program) (fresh : small.Fresh c p)
    (larger : large.Fresh c' p) (room : c ≤ c') (trace : large.trace = small.trace) :
    small.Within large where
  registers := by
    apply Vector.ext
    intro i inside
    exact (larger.registers ⟨i, inside⟩).trans (fresh.registers ⟨i, inside⟩).symm
  status := larger.status.trans fresh.status.symm
  trace := trace
  code slot inside := by
    rw [fresh.slots] at inside
    cases named : p[slot]? with
    | some i => rw [fresh.program slot i named, larger.program slot i named]
    | none =>
        have past := List.getElem?_eq_none_iff.mp named
        rw [fresh.padding slot past inside, larger.padding slot past (by omega)]
  room := by
    rw [fresh.cells, larger.cells]
    exact room
  cells address later inside :=
    fresh_cells_within c c' p p fresh larger room address later (fresh.cells ▸ inside)
  beyond address past inside := by
    have pos := small.capacity.pos
    rw [fresh.capacity] at pos
    rw [fresh.cells] at past
    rw [larger.cells] at inside
    have zero : Unwritten c' address 0 := by
      rw [Unwritten, if_neg (by omega)]
      rfl
    exact (fresh_cell_iff c' p large larger address inside 0).mpr zero

end Machine

namespace Session

variable {κ μ : Type} [Console κ] [Console μ]

structure Discreet (k : Nat) (s : Session κ) : Prop where
  quiet : ∀ i < k, ∀ r, ¬ (s.stepN i).machine.LoadsNext r 0
  unfaulted : (s.stepN k).machine.Unfaulted

theorem discreet_step (k : Nat) (s : Session κ) (discreet : Discreet (k + 1) s) :
    s.step.machine.Unfaulted ∧ Discreet k s.step := by
  refine ⟨?_, ?_, discreet.unfaulted⟩
  · have later := discreet.unfaulted
    by_cases running : s.step.machine.status = .ok
    · simp [Machine.Unfaulted, running]
    · rw [stepN, step_n_stopped k s.step running] at later
      exact later
  · intro i before
    exact discreet.quiet (i + 1) (Nat.succ_lt_succ before)

theorem steps_within (k : Nat) (s : Session κ) (large : Machine) (within : s.machine.Within large)
    (discreet : Discreet k s) :
    ∃ later, (large.steps k).Goes (s.shown k) (s.answers k) later ∧
      (s.stepN k).machine.Within later := by
  induction k generalizing s large with
  | zero => exact ⟨large, .done large, within⟩
  | succ k ih =>
      obtain ⟨unfaulted, onward⟩ := discreet_step k s discreet
      have quiet := discreet.quiet 0 (Nat.succ_pos k)
      obtain ⟨next, first, kept⟩ := Machine.matched_step within quiet _ _ _
        (Dialogue.conduct_goes s.machine.step s.host) unfaulted
      obtain ⟨later, second, related⟩ := ih s.step next kept onward
      exact ⟨later, Dialogue.goes_bind _ _ _ _ _ _ _ _ first second, related⟩

-- The larger machine is compared as if it had the trace flag of the smaller one, which matters to
-- trace lines only.
theorem larger_follows (k : Nat) (sequence : List Word) (left : Session κ) (right : Session μ)
    (within : left.machine.Within (right.machine.setTrace left.machine.trace))
    (discreet : Discreet k left) (given : left.answers k <+: sequence)
    (answered : right.answers k <+: sequence) :
    right.answers k = left.answers k ∧
      Shown.untraced (right.shown k) = Shown.untraced (left.shown k) ∧
      (right.machine.trace = left.machine.trace → right.shown k = left.shown k) ∧
      (left.stepN k).machine.Within
        ((right.stepN k).machine.setTrace (left.stepN k).machine.trace) := by
  obtain ⟨later, goes, kept⟩ := steps_within k left _ within discreet
  have silent : ((right.machine.setTrace false).steps k).Goes (Shown.untraced (left.shown k))
      (left.answers k) (later.setTrace false) :=
    steps_go_untraced k (right.machine.setTrace left.machine.trace) _ _ _ goes
  obtain ⟨lines, words, bare⟩ := Dialogue.goes_determined _ sequence _ _ _ _ _ _
    (steps_go_untraced k _ _ _ _ (right.steps_go k)) silent answered given
  refine ⟨words, lines, ?_, ?_⟩
  · intro trace
    rw [← trace] at goes
    exact (Dialogue.goes_determined _ sequence _ _ _ _ _ _ (right.steps_go k) goes answered given).1
  · have same := (Machine.same_but_trace_iff _ _).mpr bare
    rw [← kept.trace, same]
    exact kept

end Session

theorem Machine.load_within (p : Program) (m n : Machine) (fits : p.length ≤ m.capacity.size)
    (smaller : m.capacity.size ≤ n.capacity.size) :
    (m.load p).2.Within ((n.load p).2.setTrace m.trace) := by
  have fresh := load_fresh p m fits
  have larger := load_fresh p n (Nat.le_trans fits smaller)
  exact fresh_within _ _ p fresh (set_trace_fresh _ p _ m.trace larger) smaller
    (load_trace p m).symm

theorem capacity_hidden_from_program {κ μ : Type} [Console κ] [Console μ] (p : Program)
    (small left : Session κ) (large right : Session μ) (k : Nat) (sequence : List Word)
    (fits : p.length ≤ small.machine.capacity.size)
    (smaller : small.machine.capacity.size ≤ large.machine.capacity.size)
    (loaded : (small.load p).2 = left) (alongside : (large.load p).2 = right)
    (discreet : Session.Discreet k left) (given : left.answers k <+: sequence)
    (answered : right.answers k <+: sequence) :
    (right.stepN k).machine.registers = (left.stepN k).machine.registers ∧
      (right.stepN k).machine.status = (left.stepN k).machine.status ∧
      right.answers k = left.answers k ∧
      Shown.untraced (right.shown k) = Shown.untraced (left.shown k) ∧
      (large.machine.trace = small.machine.trace → right.shown k = left.shown k) ∧
      (∀ address : Nat, 1 ≤ address → address < small.machine.capacity.size →
        ∃ w, (left.stepN k).machine.data[address]? = some w ∧
          (right.stepN k).machine.data[address]? = some w) ∧
      ∀ address : Nat, small.machine.capacity.size ≤ address →
        address < large.machine.capacity.size →
        (right.stepN k).machine.data[address]? = some 0 := by
  have leftMachine : left.machine = (small.machine.load p).2 := by
    rw [← loaded, Session.load_leaves]
  have rightMachine : right.machine = (large.machine.load p).2 := by
    rw [← alongside, Session.load_leaves]
  have leftTrace : left.machine.trace = small.machine.trace := by
    rw [leftMachine, Machine.load_trace]
  have rightTrace : right.machine.trace = large.machine.trace := by
    rw [rightMachine, Machine.load_trace]
  have within : left.machine.Within (right.machine.setTrace left.machine.trace) := by
    rw [leftTrace, leftMachine, rightMachine]
    exact Machine.load_within p small.machine large.machine fits smaller
  obtain ⟨words, lines, shown, kept⟩ :=
    Session.larger_follows k sequence left right within discreet given answered
  have leftSize : (left.stepN k).machine.data.size = small.machine.capacity.size := by
    rw [Session.step_n_data_size, leftMachine]
    exact (Machine.load_fresh p small.machine fits).cells
  have rightSize : (right.stepN k).machine.data.size = large.machine.capacity.size := by
    rw [Session.step_n_data_size, rightMachine]
    exact (Machine.load_fresh p large.machine (Nat.le_trans fits smaller)).cells
  refine ⟨kept.registers, kept.status, words, lines, ?_, ?_, ?_⟩
  · rw [leftTrace, rightTrace] at shown
    exact shown
  · intro address later inside
    have held := Array.getElem?_eq_getElem (leftSize ▸ inside)
    exact ⟨_, held, (kept.cells address later (leftSize ▸ inside)).trans held⟩
  · intro address past inside
    exact kept.beyond address (leftSize ▸ past) (rightSize ▸ inside)

theorem larger_machine_unnoticed :
    let program : Program := [.registers .input 1 0 0, .offset .store 1 0 0, .offset .load 2 2 7]
    let small := (Session.start { size := 6 } ({ inputs := [6] } : Script)).setTrace true
    let large := Session.start { size := 9 } ({ inputs := [6] } : Script)
    let left := (small.load program).2
    let right := (large.load program).2
    Session.Discreet 4 left ∧ (left.stepN 4).machine.status = .halted ∧
      left.shown 4 ≠ right.shown 4 ∧
      (right.stepN 4).machine.registers = (left.stepN 4).machine.registers ∧
      Shown.untraced (right.shown 4) = Shown.untraced (left.shown 4) ∧
      (right.stepN 4).machine.data[8]? = some 0 := by
  intro program small large left right
  have fetched : ∀ i < 4, (left.stepN i).machine.instructionAt? (left.stepN i).machine.pc =
      (program ++ [Instruction.halt])[i]? := by decide
  have halted : (left.stepN 4).machine.status = .halted := by decide
  have unfaulted : (left.stepN 4).machine.Unfaulted := by
    rw [Machine.Unfaulted, halted]
    decide
  have quiet : ∀ i < 4, ∀ r, ¬ (left.stepN i).machine.LoadsNext r 0 := by
    intro i before r loads
    obtain ⟨-, s, t, load, zero⟩ := loads
    rw [fetched i before] at load
    have cases : i = 0 ∨ i = 1 ∨ i = 2 ∨ i = 3 := by omega
    have counted : ((2 : Word) + (left.stepN 2).machine.advance.get 7).toInt ≠ (0 : Nat) := by
      decide
    rcases cases with rfl | rfl | rfl | rfl <;> cases load
    exact counted zero
  have discreet : Session.Discreet 4 left := ⟨quiet, unfaulted⟩
  obtain ⟨registers, -, -, lines, -, -, beyond⟩ :=
    capacity_hidden_from_program program small left large right 4 [6] (by decide) (by decide)
      rfl rfl discreet (by decide) (by decide)
  have counts : (left.shown 4).length ≠ (right.shown 4).length := by decide
  have apart : left.shown 4 ≠ right.shown 4 := fun same => counts (congrArg List.length same)
  have above : (right.stepN 4).machine.data[8]? = some 0 := beyond 8 (by decide) (by decide)
  exact ⟨discreet, halted, apart, registers, lines, above⟩

end RegisterMachine
