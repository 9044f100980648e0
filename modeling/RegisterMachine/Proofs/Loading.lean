import RegisterMachine.Console.Script
import RegisterMachine.Proofs.Annotated
import RegisterMachine.Proofs.Sound

set_option autoImplicit false

namespace RegisterMachine

theorem Capacity.eq_of_size (a b : Capacity) (same : a.size = b.size) : a = b := by
  cases a
  cases b
  cases same
  rfl

theorem Program.parse_error (source : String) (e : LoadError) (failed : parse source = .error e) :
    ∃ number line cause, e = .decode number line cause := by
  obtain ⟨before, line, -, cause, -, -, -, same⟩ := (of_lines_error_iff 1 _ e).mp failed
  exact ⟨1 + before.length, String.ofList line, cause, same⟩

namespace Machine

def Unwritten (size address : Nat) (w : Word) : Prop :=
  w.toInt = if address = 0 then (size : Int) - 1 else 0

structure Fresh (size : Nat) (p : Program) (m : Machine) : Prop where
  capacity : m.capacity.size = size
  registers : ∀ r, m.get r = 0
  cells : m.data.size = size
  unwritten : ∀ address : Nat, address < size →
     ∃ w, m.data[address]? = some w ∧ Unwritten size address w
  slots : m.code.size = size
  program : ∀ (slot : Nat) (i : Instruction), p[slot]? = some i → m.code[slot]? = some i
  padding : ∀ slot : Nat, p.length ≤ slot → slot < size → m.code[slot]? = some .halt
  status : m.status = .ok

theorem unwritten_unique (size address : Nat) (v w : Word) (first : Unwritten size address v)
    (second : Unwritten size address w) : v = w :=
  Int32.toInt_inj.mp (first.trans second.symm)

theorem fresh_cell_iff (size : Nat) (p : Program) (m : Machine) (fresh : m.Fresh size p)
    (address : Nat) (inside : address < size) (w : Word) :
    m.data[address]? = some w ↔ Unwritten size address w := by
  obtain ⟨v, held, unwritten⟩ := fresh.unwritten address inside
  rw [held, Option.some.injEq]
  refine ⟨?_, ?_⟩
  · intro same
    exact same ▸ unwritten
  · intro expected
    exact unwritten_unique size address v w unwritten expected

theorem fresh_data_unique (size : Nat) (p : Program) (m n : Machine) (first : m.Fresh size p)
    (second : n.Fresh size p) : m.data = n.data := by
  apply Array.ext_getElem?
  intro address
  by_cases inside : address < size
  · obtain ⟨w, held, unwritten⟩ := first.unwritten address inside
    rw [held, (fresh_cell_iff size p n second address inside w).mpr unwritten]
  · rw [Array.getElem?_eq_none (first.cells ▸ Nat.le_of_not_lt inside),
      Array.getElem?_eq_none (second.cells ▸ Nat.le_of_not_lt inside)]

theorem fresh_code_unique (size : Nat) (p : Program) (m n : Machine) (first : m.Fresh size p)
    (second : n.Fresh size p) : m.code = n.code := by
  apply Array.ext_getElem?
  intro slot
  by_cases inside : slot < size
  · cases named : p[slot]? with
    | some i => rw [first.program slot i named, second.program slot i named]
    | none =>
        have past := List.getElem?_eq_none_iff.mp named
        rw [first.padding slot past inside, second.padding slot past inside]
  · rw [Array.getElem?_eq_none (first.slots ▸ Nat.le_of_not_lt inside),
      Array.getElem?_eq_none (second.slots ▸ Nat.le_of_not_lt inside)]

-- The description leaves nothing open but the trace flag.
theorem fresh_unique (size : Nat) (p : Program) (m n : Machine) (first : m.Fresh size p)
    (second : n.Fresh size p) (trace : m.trace = n.trace) : m = n := by
  have capacity := Capacity.eq_of_size _ _ (first.capacity.trans second.capacity.symm)
  have registers : m.registers = n.registers := by
    apply Vector.ext
    intro i inside
    exact (first.registers ⟨i, inside⟩).trans (second.registers ⟨i, inside⟩).symm
  have data := fresh_data_unique size p m n first second
  have code := fresh_code_unique size p m n first second
  have status := first.status.trans second.status.symm
  cases m
  cases n
  simp_all

theorem set_trace_fresh (size : Nat) (p : Program) (m : Machine) (on : Bool)
    (fresh : m.Fresh size p) : (m.setTrace on).Fresh size p :=
  { fresh with }

theorem blank_data_unwritten (capacity : Capacity) (address : Nat)
    (inside : address < capacity.size) :
    ∃ w, (blankData capacity)[address]? = some w ∧ Unwritten capacity.size address w := by
  by_cases first : address = 0
  · subst first
    have exact : (Int32.ofNat (capacity.size - 1)).toInt = (capacity.size : Int) - 1 := by
      have pos := capacity.pos
      have bounded := capacity.bounded
      have low : Word.least ≤ ((capacity.size - 1 : Nat) : Int) := by
        simp only [Word.least]
        omega
      have high : ((capacity.size - 1 : Nat) : Int) ≤ Word.greatest := by
        simp only [Word.greatest]
        omega
      rw [← Int32.ofInt_eq_ofNat, Word.to_int_of_int _ low high]
      omega
    refine ⟨Int32.ofNat (capacity.size - 1), ?_, ?_⟩
    · simp [blankData, capacity.pos]
    · rw [Unwritten, if_pos rfl, exact]
  · refine ⟨0, ?_, ?_⟩
    · simp [blankData, inside, Ne.symm first]
    · rw [Unwritten, if_neg first, Int32.toInt_zero]

theorem restart_cleared (m : Machine) : m.restart true = (start m.capacity).setTrace m.trace := rfl

theorem start_fresh (capacity : Capacity) : (start capacity).Fresh capacity.size [] where
  capacity := rfl
  registers r := by simp [start, get]
  cells := blank_data_size capacity
  unwritten := blank_data_unwritten capacity
  slots := blank_code_size capacity
  program slot i named := by simp at named
  padding slot _ inside := by simp [start, blankCode, inside]
  status := rfl

theorem restart_cleared_fresh (m : Machine) : (m.restart true).Fresh m.capacity.size [] :=
  set_trace_fresh _ [] _ m.trace (start_fresh m.capacity)

theorem code_of_program (capacity : Capacity) (p : Program) (slot : Nat) (i : Instruction)
    (named : p[slot]? = some i) : (codeOf capacity p)[slot]? = some i := by
  obtain ⟨inside, -⟩ := List.getElem?_eq_some_iff.mp named
  rw [codeOf, Array.getElem?_append_left (by simpa using inside), List.getElem?_toArray]
  exact named

theorem code_of_padding (capacity : Capacity) (p : Program) (slot : Nat) (past : p.length ≤ slot)
    (inside : slot < capacity.size) : (codeOf capacity p)[slot]? = some .halt := by
  have within : slot - p.length < capacity.size - p.length := by omega
  rw [codeOf, Array.getElem?_append_right (by simpa using past), List.size_toArray,
    Array.getElem?_replicate, if_pos within]

theorem load_too_large (p : Program) (m : Machine) (large : m.capacity.size < p.length) :
    m.load p = (.error (.tooLarge p.length m.capacity.size), m.restart true) :=
  if_neg (Nat.not_le_of_lt large)

theorem load_fits (p : Program) (m : Machine) (fits : p.length ≤ m.capacity.size) :
    m.load p = (.ok p.length, { m.restart true with code := codeOf m.capacity p }) :=
  if_pos fits

theorem load_fresh (p : Program) (m : Machine) (fits : p.length ≤ m.capacity.size) :
    (m.load p).2.Fresh m.capacity.size p := by
  have cleared := restart_cleared_fresh m
  rw [load_fits p m fits]
  exact
    { cleared with
      slots := code_of_size m.capacity p fits
      program := code_of_program m.capacity p
      padding := code_of_padding m.capacity p }

theorem load_trace (p : Program) (m : Machine) : (m.load p).2.trace = m.trace := by
  rcases Nat.lt_or_ge m.capacity.size p.length with large | fits
  · rw [load_too_large p m large]
    rfl
  · rw [load_fits p m fits]
    rfl

theorem load_same (p : Program) (m n : Machine) (capacity : m.capacity = n.capacity)
    (trace : m.trace = n.trace) : m.load p = n.load p := by
  have cleared : m.restart true = n.restart true := by
    rw [restart_cleared, restart_cleared, capacity, trace]
  rw [load, load, cleared]

theorem load_source_same (source : String) (m n : Machine) (capacity : m.capacity = n.capacity)
    (trace : m.trace = n.trace) : m.loadSource source = n.loadSource source := by
  rw [loadSource, loadSource]
  cases Program.parse source with
  | ok p => exact load_same p m n capacity trace
  | error e => rw [restart_cleared, restart_cleared, capacity, trace]

theorem reachable_capacity (capacity : Capacity) (m : Machine) (reached : Reachable capacity m) :
    m.capacity = capacity :=
  Capacity.eq_of_size _ _ (reachable_sound capacity m reached).capacity

end Machine

structure LoadOutcome (capacity : Capacity) (trace : Bool) (read : Except LoadError Program)
    (result : Except LoadError Nat) (m : Machine) : Prop where
  unreadable : ∀ number line cause,
    result = .error (.decode number line cause) ↔ read = .error (.decode number line cause)
  tooLarge : ∀ length size, result = .error (.tooLarge length size) ↔
    size = capacity.size ∧ capacity.size < length ∧ ∃ p, read = .ok p ∧ p.length = length
  done : ∀ length, result = .ok length ↔
    length ≤ capacity.size ∧ ∃ p, read = .ok p ∧ p.length = length
  cleared : ∀ e, result = .error e → m = (Machine.start capacity).setTrace trace
  holds : ∀ p, read = .ok p → p.length ≤ capacity.size → m.Fresh capacity.size p
  trace : m.trace = trace

theorem Machine.load_outcome (p : Program) (m : Machine) :
    LoadOutcome m.capacity m.trace (.ok p) (m.load p).1 (m.load p).2 := by
  rcases Nat.lt_or_ge m.capacity.size p.length with large | fits
  · rw [load_too_large p m large]
    refine ⟨by simp, ?_, ?_, fun _ _ => m.restart_cleared, ?_, rfl⟩
    · intro length size
      simp only [Except.error.injEq, LoadError.tooLarge.injEq, Except.ok.injEq, exists_eq_left']
      omega
    · intro length
      simp only [reduceCtorEq, Except.ok.injEq, exists_eq_left', false_iff]
      omega
    · intro q same fits
      cases same
      omega
  · have fresh := load_fresh p m fits
    have trace := load_trace p m
    rw [load_fits p m fits] at fresh trace ⊢
    refine ⟨by simp, ?_, ?_, by simp, ?_, trace⟩
    · intro length size
      simp only [reduceCtorEq, Except.ok.injEq, exists_eq_left', false_iff]
      omega
    · intro length
      simp only [Except.ok.injEq, exists_eq_left']
      omega
    · intro q same _
      cases same
      exact fresh

theorem Machine.load_source_outcome (source : String) (m : Machine) :
    LoadOutcome m.capacity m.trace (Program.parse source) (m.loadSource source).1
      (m.loadSource source).2 := by
  rw [loadSource]
  cases parsed : Program.parse source with
  | ok p => exact m.load_outcome p
  | error e =>
      obtain ⟨number, line, cause, rfl⟩ := Program.parse_error source e parsed
      refine ⟨by simp, by simp, by simp, fun _ _ => m.restart_cleared, ?_, rfl⟩
      intro p same
      cases same

def Host.map {κ μ : Type} (f : κ → μ) (host : Host κ) : Host μ :=
  { console := f host.console, log := host.log }

namespace Session

variable {κ μ : Type}

def map (f : κ → μ) (s : Session κ) : Session μ := { machine := s.machine, host := s.host.map f }

-- A load leaves the console alone, so it does not matter what that is.
theorem load_map (f : κ → μ) (p : Program) (s : Session κ) :
    (s.map f).load p = ((s.load p).1, (s.load p).2.map f) := by
  have same : ((s.map f).restart true).machine = (s.restart true).machine := rfl
  cases loaded : (s.restart true).machine.load p with
  | mk result machine =>
      simp only [load, same, loaded]
      cases result <;> rfl

theorem load_source_map (f : κ → μ) (source : String) (s : Session κ) :
    (s.map f).loadSource source = ((s.loadSource source).1, (s.loadSource source).2.map f) := by
  rw [loadSource, loadSource]
  cases Program.parse source with
  | ok p => exact load_map f p (s.restart true)
  | error e => rfl

theorem load_console (p : Program) (s : Session κ) :
    (s.load p).2.host.console = s.host.console := by
  cases loaded : (s.restart true).machine.load p with
  | mk result machine =>
      simp only [load, loaded]
      cases result <;> rfl

theorem load_source_console (source : String) (s : Session κ) :
    (s.loadSource source).2.host.console = s.host.console := by
  rw [loadSource]
  cases Program.parse source with
  | ok p => exact load_console p (s.restart true)
  | error e => rfl

def bare (s : Session κ) : Session Unit := { machine := s.machine, host := { console := () } }

theorem restart_log (s : Session κ) :
    (s.restart true).host.log = s.host.log ++ #[.restarted s.machine.capacity.size true] :=
  Array.push_eq_append

theorem load_log (p : Program) (s : Session κ) :
    (s.load p).2.host.log = s.host.log ++ (s.bare.load p).2.host.log := by
  have same : (s.bare.restart true).machine = (s.restart true).machine := rfl
  have capacity : s.bare.machine.capacity = s.machine.capacity := rfl
  have empty : s.bare.host.log = #[] := rfl
  cases loaded : (s.restart true).machine.load p with
  | mk result machine =>
      simp only [load, same, loaded]
      apply Array.toList_inj.mp
      cases result <;> simp [Host.note, restart_log, empty, capacity]

theorem load_source_log (source : String) (s : Session κ) :
    (s.loadSource source).2.host.log = s.host.log ++ (s.bare.loadSource source).2.host.log := by
  have capacity : s.bare.machine.capacity = s.machine.capacity := rfl
  have empty : s.bare.host.log = #[] := rfl
  rw [loadSource, loadSource]
  cases Program.parse source with
  | ok p =>
      have same : (s.bare.restart true).bare = (s.restart true).bare := rfl
      simp only [load_log p (s.restart true), load_log p (s.bare.restart true), same, restart_log,
        empty, capacity, Array.append_assoc, Array.empty_append]
  | error e => simp [restart_log, empty, capacity]

-- The machine is cleared once more before a program is put into it, which changes nothing.
theorem load_eq_machine (p : Program) (s : Session κ) :
    ((s.load p).1, (s.load p).2.machine) = s.machine.load p := by
  rw [load_result, load_machine]
  rfl

theorem load_leaves (p : Program) (s : Session κ) :
    (s.load p).2.machine = (s.machine.load p).2 :=
  congrArg Prod.snd (load_eq_machine p s)

theorem load_source_eq_machine (source : String) (s : Session κ) :
    ((s.loadSource source).1, (s.loadSource source).2.machine) = s.machine.loadSource source := by
  rw [loadSource, Machine.loadSource]
  cases Program.parse source with
  | ok p => exact load_eq_machine p (s.restart true)
  | error e => rfl

end Session

theorem loading_forgets_history {κ : Type} (capacity : Capacity) (s : Session κ)
    (reached : Reachable capacity s.machine) :
    (∀ source, LoadOutcome capacity s.machine.trace (Program.parse source) (s.loadSource source).1
      (s.loadSource source).2.machine) ∧
      (∀ p, LoadOutcome capacity s.machine.trace (.ok p) (s.load p).1 (s.load p).2.machine) ∧
      (Machine.start capacity).Fresh capacity.size [] ∧
      ∀ (μ : Type) (other : Session μ), Reachable capacity other.machine →
        other.machine.trace = s.machine.trace →
        (∀ source, (other.loadSource source).1 = (s.loadSource source).1 ∧
          (other.loadSource source).2.machine = (s.loadSource source).2.machine) ∧
        ∀ p, (other.load p).1 = (s.load p).1 ∧ (other.load p).2.machine = (s.load p).2.machine := by
  have size := Machine.reachable_capacity capacity s.machine reached
  refine ⟨?_, ?_, Machine.start_fresh capacity, ?_⟩
  · intro source
    have outcome := s.machine.load_source_outcome source
    rw [← Session.load_source_eq_machine, size] at outcome
    exact outcome
  · intro p
    have outcome := s.machine.load_outcome p
    rw [← Session.load_eq_machine, size] at outcome
    exact outcome
  · intro μ other otherReached trace
    have otherSize := Machine.reachable_capacity capacity other.machine otherReached
    refine ⟨?_, ?_⟩
    · intro source
      have same := Machine.load_source_same source _ _ (otherSize.trans size.symm) trace
      rw [← Session.load_source_eq_machine, ← Session.load_source_eq_machine, Prod.mk.injEq] at same
      exact same
    · intro p
      have same := Machine.load_same p _ _ (otherSize.trans size.symm) trace
      rw [← Session.load_eq_machine, ← Session.load_eq_machine, Prod.mk.injEq] at same
      exact same

theorem traced_fault_reachable :
    ∃ m : Machine, Reachable { size := 2 } m ∧ m.status = .dataFault ∧ m.trace = true := by
  let program : Program := [.offset .load Register.first (-3) Register.programCounter]
  let fresh := Session.start { size := 2 } ({ inputs := [] } : Script)
  let loaded := (fresh.load program).2.setTrace true
  have reached : Reachable { size := 2 } loaded.step.machine :=
    .perform (.perform (.perform (.start fresh.host.console) (.load program fresh))
      (.setTrace true _)) (.step loaded)
  exact ⟨loaded.step.machine, reached, by decide, by decide⟩

theorem bad_line_after_a_fault_clears :
    ∃ m : Machine, Reachable { size := 2 } m ∧ m.status = .dataFault ∧
      ∀ (κ : Type) (host : Host κ),
        let outcome := Session.loadSource "HALT 0,0,0\nHALT 0,0,0\nHALT 0,0,0\nx" ⟨m, host⟩
        outcome.1 = .error (.decode 4 "x" (.invalidInstruction "x")) ∧
          outcome.2.machine = (Machine.start { size := 2 }).setTrace true := by
  obtain ⟨m, reached, stopped, traced⟩ := traced_fault_reachable
  refine ⟨m, reached, stopped, ?_⟩
  intro κ host outcome
  have loaded := (loading_forgets_history { size := 2 } (Session.mk m host) reached).1
    "HALT 0,0,0\nHALT 0,0,0\nHALT 0,0,0\nx"
  have failed := (loaded.unreadable 4 "x" (.invalidInstruction "x")).mpr rfl
  have cleared := loaded.cleared _ failed
  rw [traced] at cleared
  exact ⟨failed, cleared⟩

end RegisterMachine
