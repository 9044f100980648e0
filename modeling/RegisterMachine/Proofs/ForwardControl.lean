import RegisterMachine.Proofs.Loading
import RegisterMachine.Proofs.Running
import RegisterMachine.Proofs.StopConditions

set_option autoImplicit false

namespace RegisterMachine

namespace Instruction

-- Writes the program counter, if at all, by adding to the advanced counter a constant that is not
-- negative.
def Forward : Instruction → Prop
  | .offset .loadAddress r s t =>
      r = Register.programCounter → t = Register.programCounter ∧ 0 ≤ s.toInt
  | .offset (.jump _) _ s t => t = Register.programCounter ∧ 0 ≤ s.toInt
  | i => i.written? ≠ some Register.programCounter

def Straight (i : Instruction) : Prop :=
  i.written? ≠ some Register.programCounter ∧ ∀ r s t, i ≠ .registers .halt r s t

end Instruction

namespace Machine

theorem execute_forward (m : Machine) (i : Instruction) (started : 0 ≤ m.pc.toInt)
    (forward : i.Forward) :
    (m.execute i).Always fun later => later.pc.toInt < 0 ∨ m.pc.toInt ≤ later.pc.toInt := by
  have transfer : ∀ s : Word, 0 ≤ s.toInt →
      (m.set Register.programCounter (s + m.pc)).pc.toInt < 0 ∨
        m.pc.toInt ≤ (m.set Register.programCounter (s + m.pc)).pc.toInt := by
    intro s ahead
    rw [pc, get_set_same]
    exact Word.add_forward s m.pc ahead started
  by_cases writes : i.written? = some Register.programCounter
  · cases i with
    | registers op r s t => exact absurd writes forward
    | offset op r s t =>
        cases op with
        | load | store | loadConstant => exact absurd writes forward
        | loadAddress =>
            have target : r = Register.programCounter := Option.some.inj writes
            subst target
            obtain ⟨rfl, ahead⟩ := forward rfl
            exact transfer s ahead
        | jump test =>
            obtain ⟨rfl, ahead⟩ := forward
            rw [execute, jump_always]
            exact ⟨fun _ => transfer s ahead, fun _ => .inr (Int.le_refl _)⟩
  · refine Dialogue.always_mono _ _ _ ?_ (m.execute_keeps_registers i _ writes)
    intro later kept
    right
    rw [pc, pc, kept]

def TransfersNext (m : Machine) (target : Int) : Prop :=
  m.status = .ok ∧ ∃ s : Word, target = m.pc.toInt + 1 + s.toInt ∧
    ((∃ test r, m.instructionAt? m.pc = some (.offset (.jump test) r s Register.programCounter) ∧
        test.holds (m.operand r) = true) ∨
      m.instructionAt? m.pc =
        some (.offset .loadAddress Register.programCounter s Register.programCounter))

structure Holds (size : Nat) (p : Program) (m : Machine) : Prop where
  sound : m.Sound size
  program : ∀ (slot : Nat) (i : Instruction), p[slot]? = some i → m.code[slot]? = some i
  padding : ∀ slot : Nat, p.length ≤ slot → slot < size → m.code[slot]? = some .halt

theorem fresh_holds (size : Nat) (p : Program) (m : Machine) (fresh : m.Fresh size p) :
    m.Holds size p where
  sound := ⟨fresh.capacity, fresh.cells, fresh.slots, fun i _ => i.names_registers⟩
  program := fresh.program
  padding := fresh.padding

theorem step_holds (size : Nat) (p : Program) (m : Machine) (holds : m.Holds size p) :
    m.step.Always (Holds size p) := by
  refine Dialogue.always_mono _ _ _ ?_
    (Dialogue.always_and _ _ _ (step_sound size m holds.sound) m.step_frame)
  intro later stepped
  obtain ⟨sound, -, code, -⟩ := stepped
  exact ⟨sound, code.symm ▸ holds.program, code.symm ▸ holds.padding⟩

section Holds

variable (size : Nat) (p : Program) (m : Machine) (holds : m.Holds size p)

include holds

theorem fetched_from_program (i : Instruction) (fetched : m.instructionAt? m.pc = some i) :
    (m.pc.toInt < p.length ∧ i ∈ p) ∨ (p.length ≤ m.pc.toInt ∧ i = .halt) := by
  obtain ⟨low, high⟩ := fetched_inside size m i holds.sound fetched
  obtain ⟨-, filled⟩ := (instruction_at_iff m m.pc i).mp fetched
  rcases Int.lt_or_le m.pc.toInt p.length with within | past
  · left
    have inside : m.pc.toInt.toNat < p.length := by omega
    have placed := holds.program _ _ (List.getElem?_eq_getElem inside)
    have same := Option.some.inj (placed.symm.trans filled)
    exact ⟨within, same ▸ List.getElem_mem inside⟩
  · right
    have padded := holds.padding m.pc.toInt.toNat (by omega) (by omega)
    exact ⟨past, Option.some.inj (filled.symm.trans padded)⟩

theorem forward_fetched (forward : ∀ i ∈ p, i.Forward) (i : Instruction)
    (fetched : m.instructionAt? m.pc = some i) : i.Forward := by
  rcases fetched_from_program size p m holds i fetched with ⟨-, member⟩ | ⟨-, rfl⟩
  · exact forward i member
  · simp [Instruction.Forward, Instruction.halt, Instruction.written?]

theorem outside_faults (outside : Outside size m.pc) : m.StopsNext .instructionFault := by
  rw [← holds.sound.capacity] at outside
  exact outside

theorem padding_halts (past : p.length ≤ m.pc.toInt) (inside : m.pc.toInt < size) :
    m.StopsNext .halted := by
  have padded := holds.padding m.pc.toInt.toNat (by omega) (by omega)
  have fetched : m.instructionAt? m.pc = some .halt :=
    (instruction_at_iff m m.pc .halt).mpr ⟨by omega, padded⟩
  exact ⟨_, _, _, fetched⟩

theorem past_program_stops (past : m.pc.toInt < 0 ∨ p.length ≤ m.pc.toInt) :
    m.StopsNext .instructionFault ∨ m.StopsNext .halted := by
  by_cases outside : Outside size m.pc
  · exact .inl (outside_faults size p m holds outside)
  · simp only [Outside, not_or, Int.not_lt, Int.not_le] at outside
    exact .inr (padding_halts size p m holds (by omega) outside.2)

end Holds

end Machine

namespace Session

variable {κ : Type} [Console κ] (size : Nat) (p : Program)

theorem step_n_holds (k : Nat) (s : Session κ) (holds : s.machine.Holds size p) :
    (s.stepN k).machine.Holds size p :=
  step_n_keeps (Machine.step_holds size p) k s holds

theorem step_forward (s : Session κ) (i : Instruction) (bounded : size ≤ 2147483647)
    (holds : s.machine.Holds size p) (running : s.machine.status = .ok)
    (fetched : s.machine.instructionAt? s.machine.pc = some i) (forward : i.Forward) :
    s.step.machine.pc.toInt < 0 ∨ s.machine.pc.toInt + 1 ≤ s.step.machine.pc.toInt := by
  have counter := Machine.advance_exact _ i (holds.sound.code ▸ bounded) fetched
  obtain ⟨low, -⟩ := Machine.fetched_inside size _ i holds.sound fetched
  rw [← counter]
  exact step_after s i _ running fetched
    (Machine.execute_forward s.machine.advance i (by omega) forward)

theorem step_beyond (s : Session κ) (target : Int) (bounded : size ≤ 2147483647)
    (holds : s.machine.Holds size p) (transfers : s.machine.TransfersNext target)
    (beyond : Word.greatest < target) :
    s.step.machine.pc.toInt < 0 ∧ s.step.machine.status = .ok := by
  obtain ⟨running, c, rfl, kind⟩ := transfers
  obtain ⟨i, fetched, sets⟩ : ∃ i, s.machine.instructionAt? s.machine.pc = some i ∧
      s.machine.advance.execute i = .done
        (s.machine.advance.set Register.programCounter (c + s.machine.advance.pc)) := by
    rcases kind with ⟨test, r, fetched, taken⟩ | fetched
    · refine ⟨_, fetched, ?_⟩
      rw [← Machine.advance_operand size _ _ holds.sound fetched] at taken
      rw [Machine.execute, Machine.executeOffset, if_pos taken]
      rfl
    · exact ⟨_, fetched, rfl⟩
  have counter := Machine.advance_exact _ i (holds.sound.code ▸ bounded) fetched
  apply step_after s i (fun later => later.pc.toInt < 0 ∧ later.status = .ok) running fetched
  rw [sets]
  refine ⟨?_, running⟩
  rw [Machine.pc, Machine.get_set_same]
  exact Word.add_beyond _ _ (by omega)

theorem beyond_faults (s : Session κ) (target : Int) (bounded : size ≤ 2147483647)
    (holds : s.machine.Holds size p) (transfers : s.machine.TransfersNext target)
    (beyond : Word.greatest < target) :
    s.step.machine.pc.toInt < 0 ∧ s.step.step.machine.status = .instructionFault := by
  obtain ⟨negative, running⟩ := step_beyond size p s target bounded holds transfers beyond
  have held : s.step.machine.Holds size p := step_n_holds size p 1 s holds
  have faults := Machine.outside_faults size p _ held (.inl negative)
  exact ⟨negative, step_ends size _ held.sound running _ faults⟩

theorem step_straight (s : Session κ) (i : Instruction) (bounded : size ≤ 2147483647)
    (holds : s.machine.Holds size p) (running : s.machine.status = .ok)
    (fetched : s.machine.instructionAt? s.machine.pc = some i)
    (elsewhere : i.written? ≠ some Register.programCounter) :
    s.step.machine.pc.toInt = s.machine.pc.toInt + 1 := by
  rw [← Machine.advance_exact _ i (holds.sound.code ▸ bounded) fetched]
  apply step_after s i (fun later => later.pc.toInt = _) running fetched
  refine Dialogue.always_mono _ _ _ ?_
    (Machine.execute_keeps_registers s.machine.advance i _ elsewhere)
  intro later kept
  rw [Machine.pc, Machine.pc, kept]

-- Every step that leaves the machine running has moved the counter on, or out of memory.
theorem forward_ahead (k : Nat) (s : Session κ) (bounded : size ≤ 2147483647)
    (holds : s.machine.Holds size p) (forward : ∀ i ∈ p, i.Forward)
    (start : s.machine.pc.toInt = 0) (running : (s.stepN k).machine.status = .ok) :
    (s.stepN k).machine.pc.toInt < 0 ∨ k ≤ (s.stepN k).machine.pc.toInt := by
  induction k with
  | zero =>
      right
      rw [stepN, start]
      rfl
  | succ k ih =>
      have before := running_before k (k + 1) s (Nat.le_succ k) running
      have ahead := ih before
      have held := step_n_holds size p k s holds
      rw [step_n_succ] at running ⊢
      cases fetched : (s.stepN k).machine.instructionAt? (s.stepN k).machine.pc with
      | none =>
          rw [step_faults _ before fetched] at running
          cases running
      | some i =>
          obtain ⟨low, -⟩ := Machine.fetched_inside size _ i held.sound fetched
          have ahead' := step_forward size p _ i bounded held before fetched
            (Machine.forward_fetched size p _ held forward i fetched)
          omega

theorem forward_stops (s : Session κ) (bounded : size ≤ 2147483647)
    (holds : s.machine.Holds size p) (forward : ∀ i ∈ p, i.Forward)
    (start : s.machine.pc.toInt = 0) : (s.stepN (p.length + 1)).machine.status ≠ .ok := by
  intro running
  have before := running_before p.length (p.length + 1) s (Nat.le_succ _) running
  have held := step_n_holds size p p.length s holds
  have past := forward_ahead size p p.length s bounded holds forward start before
  rw [step_n_succ] at running
  rcases Machine.past_program_stops size p _ held past with fault | halt
  · rw [step_ends size _ held.sound before _ fault] at running
    cases running
  · rw [step_ends size _ held.sound before _ halt] at running
    cases running

theorem step_straight_status (s : Session κ) (i : Instruction) (holds : s.machine.Holds size p)
    (running : s.machine.status = .ok)
    (fetched : s.machine.instructionAt? s.machine.pc = some i) (straight : i.Straight)
    (divides : s.step.machine.status ≠ .divideByZero)
    (addresses : s.step.machine.status ≠ .dataFault) : s.step.machine.status = .ok := by
  have exactly := step_status_iff size s holds.sound running
  cases ended : s.step.machine.status with
  | ok => rfl
  | divideByZero => exact absurd ended divides
  | dataFault => exact absurd ended addresses
  | halted =>
      obtain ⟨r, a, b, again⟩ := (exactly .halted (by decide)).mp ended
      cases fetched.symm.trans again
      exact absurd rfl (straight.2 r a b)
  | instructionFault =>
      have outside := (exactly .instructionFault (by decide)).mp ended
      have inside := Machine.fetched_inside size _ i holds.sound fetched
      rw [← holds.sound.capacity] at inside
      simp only [Machine.StopsNext, Machine.Outside] at outside
      omega

theorem straight_along (k : Nat) (s : Session κ) (bounded : size ≤ 2147483647)
    (holds : s.machine.Holds size p) (begun : s.machine.status = .ok)
    (straight : ∀ i ∈ p, i.Straight) (start : s.machine.pc.toInt = 0)
    (divides : ∀ i, (s.stepN i).machine.status ≠ .divideByZero)
    (addresses : ∀ i, (s.stepN i).machine.status ≠ .dataFault) (within : k ≤ p.length) :
    (s.stepN k).machine.status = .ok ∧ (s.stepN k).machine.pc.toInt = k := by
  induction k with
  | zero => exact ⟨begun, start⟩
  | succ k ih =>
      obtain ⟨running, counter⟩ := ih (Nat.le_of_succ_le within)
      have held := step_n_holds size p k s holds
      have place : (s.stepN k).machine.pc.toInt.toNat = k := by omega
      have placed := held.program k p[k] (List.getElem?_eq_getElem within)
      have fetched : (s.stepN k).machine.instructionAt? (s.stepN k).machine.pc = some p[k] := by
        refine (Machine.instruction_at_iff _ _ _).mpr ⟨by omega, ?_⟩
        rw [place]
        exact placed
      have next : p[k].Straight := straight _ (List.getElem_mem within)
      have divides' := divides (k + 1)
      have addresses' := addresses (k + 1)
      rw [step_n_succ] at divides' addresses' ⊢
      refine ⟨step_straight_status size p _ _ held running fetched next divides' addresses', ?_⟩
      rw [step_straight size p _ _ bounded held running fetched next.1, counter]
      rfl

theorem straight_to_end (n : Nat) (s : Session κ) (bounded : size ≤ 2147483647)
    (holds : s.machine.Holds size p) (begun : s.machine.status = .ok)
    (straight : ∀ i ∈ p, i.Straight) (start : s.machine.pc.toInt = 0) (stops : s.StopsAfter n)
    (within : n ≤ p.length + 1) (divides : (s.stepN n).machine.status ≠ .divideByZero)
    (addresses : (s.stepN n).machine.status ≠ .dataFault) :
    n = p.length + 1 ∧ (s.stepN p.length).machine.status = .ok ∧
      (s.stepN p.length).machine.pc.toInt = p.length := by
  have along : ∀ status, status ≠ .ok → (s.stepN n).machine.status ≠ status →
      ∀ i, (s.stepN i).machine.status ≠ status := by
    intro status stopped other i
    rcases running_or_stopped n s begun stops i with running | same
    · rw [running]
      exact stopped.symm
    · rw [same]
      exact other
  obtain ⟨running, counter⟩ := straight_along size p p.length s bounded holds begun straight start
    (along _ (by decide) divides) (along _ (by decide) addresses) (Nat.le_refl _)
  refine ⟨?_, running, counter⟩
  by_contra early
  have before := running_before n p.length s (by omega) running
  exact stops.2.1 before

theorem step_at_end (s : Session κ) (bounded : size ≤ 2147483647)
    (holds : s.machine.Holds size p) (running : s.machine.status = .ok)
    (counter : s.machine.pc.toInt = p.length) :
    (p.length < size →
      s.step.machine.status = .halted ∧ s.step.machine.pc.toInt = p.length + 1) ∧
      (p.length = size →
        s.step.machine.status = .instructionFault ∧ s.step.machine.pc.toInt = size) := by
  refine ⟨?_, ?_⟩
  · intro room
    have halts := Machine.padding_halts size p _ holds (by omega) (by omega)
    have left := step_stopped_by_instruction size s holds.sound running .halted (by decide) halts
    obtain ⟨r, a, b, fetched⟩ := halts
    have advanced := Machine.operand_counter size _ _ holds.sound bounded fetched
    rw [counter] at advanced
    rw [left]
    exact ⟨rfl, advanced⟩
  · intro full
    have faults := Machine.outside_faults size p _ holds (.inr (by omega))
    have missing : s.machine.instructionAt? s.machine.pc = none := by
      apply (Machine.instruction_at_none_iff _ _).mpr
      rw [holds.sound.code]
      omega
    rw [step_faults s running missing]
    exact ⟨rfl, by rw [← full]; exact counter⟩

end Session

theorem forward_program_ends {κ : Type} [Console κ] (p : Program) (m : Machine) (host : Host κ)
    (fits : p.length ≤ m.capacity.size) (forward : ∀ i ∈ p, i.Forward) :
    let s : Session κ := ⟨(m.load p).2, host⟩
    (m.load p).1 = .ok p.length ∧ ∃ n ≤ p.length + 1, s.StopsAfter n ∧ s.EndsIn (s.stepN n) n ∧
      (∀ k target, (s.stepN k).machine.TransfersNext target → Word.greatest < target →
        (s.stepN (k + 1)).machine.pc.toInt < 0 ∧
          (s.stepN (k + 2)).machine.status = .instructionFault) ∧
      ((∀ i ∈ p, i.Straight) → (s.stepN n).machine.status ≠ .divideByZero →
        (s.stepN n).machine.status ≠ .dataFault →
        n = p.length + 1 ∧
          (p.length < m.capacity.size → (s.stepN n).machine.status = .halted ∧
            (s.stepN n).machine.pc.toInt = p.length + 1) ∧
          (p.length = m.capacity.size → (s.stepN n).machine.status = .instructionFault ∧
            (s.stepN n).machine.pc.toInt = m.capacity.size)) := by
  intro s
  have fresh := Machine.load_fresh p m fits
  have holds := Machine.fresh_holds _ p s.machine fresh
  have start : s.machine.pc.toInt = 0 := by
    rw [Machine.pc, fresh.registers, Int32.toInt_zero]
  have bounded := m.capacity.bounded
  obtain ⟨n, within, stops⟩ := Session.stops_within (p.length + 1) s (Nat.succ_pos _)
    (Session.forward_stops m.capacity.size p s bounded holds forward start)
  refine ⟨by rw [Machine.load_fits p m fits], n, within, stops,
    Session.ends_in_of_stops_after n s stops, ?_, ?_⟩
  · intro k target transfers beyond
    have held := Session.step_n_holds m.capacity.size p k s holds
    rw [Session.step_n_succ (k + 1), Session.step_n_succ k]
    exact Session.beyond_faults m.capacity.size p _ target bounded held transfers beyond
  · intro straight divides addresses
    obtain ⟨rfl, running, counter⟩ := Session.straight_to_end m.capacity.size p n s bounded holds
      fresh.status straight start stops within divides addresses
    have held := Session.step_n_holds m.capacity.size p p.length s holds
    have ended := Session.step_at_end m.capacity.size p _ bounded held running counter
    rw [← Session.step_n_succ] at ended
    exact ⟨rfl, ended⟩

theorem forward_jump_past_greatest_word :
    let jumping : Program := [.registers .output 0 0 0, .offset (.jump .notNegative) 0 2147483647 7]
    let straight : Program := [.offset .loadConstant 1 5 0, .registers .output 7 0 0]
    let m := Machine.start { size := 2 }
    let host : Host Script := { console := { inputs := [] } }
    let s : Session Script := ⟨(m.load jumping).2, host⟩
    let full : Session Script := ⟨(m.load straight).2, host⟩
    (jumping.length ≤ m.capacity.size ∧ ∀ i ∈ jumping, i.Forward) ∧
      (∃ n ≤ 3, s.StopsAfter n ∧ s.EndsIn (s.stepN n) n) ∧
      (s.stepN 1).machine.TransfersNext 2147483649 ∧ (s.stepN 2).machine.pc = -2147483647 ∧
      (s.stepN 3).machine.status = .instructionFault ∧
      (straight.length ≤ m.capacity.size ∧ ∀ i ∈ straight, i.Forward ∧ i.Straight) ∧
      full.StopsAfter 3 ∧ (full.stepN 3).machine.status = .instructionFault ∧
      (full.stepN 3).machine.pc.toInt = 2 := by
  intro jumping straight m host s full
  have ahead : ∀ i ∈ jumping, i.Forward := by
    simp [jumping, Instruction.Forward, Instruction.written?, Register.programCounter]
  have ahead' : ∀ i ∈ straight, i.Forward := by
    simp [straight, Instruction.Forward, Instruction.written?, Register.programCounter]
  have straightly : ∀ i ∈ straight, i.Straight := by
    simp [straight, Instruction.Straight, Instruction.written?, Register.programCounter]
  have wrapped : (s.stepN 2).machine.pc = -2147483647 := by decide
  have transfers : (s.stepN 1).machine.TransfersNext 2147483649 :=
    ⟨by decide, 2147483647, by decide, .inl ⟨.notNegative, 0, by decide, by decide⟩⟩
  have running : ∀ i < 3, (full.stepN i).machine.status = .ok := by decide
  have ended : (full.stepN 3).machine.status = .instructionFault := by decide
  have third : full.StopsAfter 3 := ⟨by decide, by rw [ended]; decide, fun i _ => running i⟩
  obtain ⟨-, n, within, stops, ends, beyond, -⟩ :=
    forward_program_ends jumping m host (by decide) ahead
  obtain ⟨-, faulted⟩ := beyond 1 2147483649 transfers (by decide)
  have loaded : (⟨(m.load jumping).2, host⟩ : Session Script) = s := rfl
  simp only [loaded, Nat.reduceAdd] at faulted
  obtain ⟨-, k, -, again, -, -, exactly⟩ := forward_program_ends straight m host (by decide) ahead'
  cases Session.stops_after_unique 3 k full third again
  obtain ⟨-, -, filled⟩ := exactly straightly (by rw [ended]; decide) (by rw [ended]; decide)
  have whole : straight.length = m.capacity.size := by decide
  have size : (m.capacity.size : Int) = 2 := by decide
  have counter := (filled whole).2.trans size
  exact ⟨⟨by decide, ahead⟩, ⟨n, within, stops, ends⟩, transfers, wrapped, faulted,
    ⟨by decide, fun i member => ⟨ahead' i member, straightly i member⟩⟩, third, ended, counter⟩

end RegisterMachine
