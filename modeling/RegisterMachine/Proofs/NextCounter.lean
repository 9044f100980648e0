import RegisterMachine.Proofs.RegisterResults

set_option autoImplicit false

namespace RegisterMachine

namespace Test

def Asks : Test → Int → Prop
  | .negative, n => n < 0
  | .notPositive, n => n ≤ 0
  | .positive, n => 0 < n
  | .notNegative, n => 0 ≤ n
  | .zero, n => n = 0
  | .notZero, n => n ≠ 0

theorem holds_iff (test : Test) (w : Word) : test.holds w = true ↔ test.Asks w.toInt := by
  cases test <;>
    simp [holds, Asks, Int32.lt_iff_toInt_lt, Int32.le_iff_toInt_le, ← Int32.toInt_inj]

theorem asks_positive_iff (test : Test) (n : Int) (positive : 0 < n) :
    test.Asks n ↔ test = .positive ∨ test = .notNegative ∨ test = .notZero := by
  cases test <;> simp [Asks] <;> omega

end Test

namespace Machine

inductive Jumps (m : Machine) : Instruction → Word → Prop
  | taken (test : Test) (r : Register) (a : Word) (b : Register) (target : Word)
      (asked : test.Asks (m.operand r).toInt)
      (relative : target.Represents (a.toInt + (m.operand b).toInt)) :
      Jumps m (.offset (.jump test) r a b) target

inductive Writes (m : Machine) (answers : List Word) : Instruction → Register → Word → Prop
  | input (r a b : Register) (w : Word) (answered : answers = [w]) :
      Writes m answers (.registers .input r a b) r w
  | add (r a b : Register) (w : Word)
      (sum : w.Represents ((m.operand a).toInt + (m.operand b).toInt)) :
      Writes m answers (.registers .add r a b) r w
  | sub (r a b : Register) (w : Word)
      (difference : w.Represents ((m.operand a).toInt - (m.operand b).toInt)) :
      Writes m answers (.registers .sub r a b) r w
  | mul (r a b : Register) (w : Word)
      (product : w.Represents ((m.operand a).toInt * (m.operand b).toInt)) :
      Writes m answers (.registers .mul r a b) r w
  | div (r a b : Register) (w : Word) (divisor : m.operand b ≠ 0)
      (quotient : w.Represents ((m.operand a).toInt.tdiv (m.operand b).toInt)) :
      Writes m answers (.registers .div r a b) r w
  | load (r : Register) (a : Word) (b : Register) (w address : Word)
      (place : address.Represents (a.toInt + (m.operand b).toInt)) (low : 0 ≤ address.toInt)
      (held : m.data[address.toInt.toNat]? = some w) : Writes m answers (.offset .load r a b) r w
  | loadAddress (r : Register) (a : Word) (b : Register) (w : Word)
      (sum : w.Represents (a.toInt + (m.operand b).toInt)) :
      Writes m answers (.offset .loadAddress r a b) r w
  | loadConstant (r : Register) (a : Word) (b : Register) :
      Writes m answers (.offset .loadConstant r a b) r a

inductive NextCounter (m : Machine) (answers : List Word) (i : Instruction) (w : Word) : Prop
  | jumps (taken : m.Jumps i w)
  | writes (written : m.Writes answers i Register.programCounter w)
  | advances (untaken : ∀ target, ¬ m.Jumps i target)
      (unwritten : ∀ v, ¬ m.Writes answers i Register.programCounter v)
      (next : w.toInt = m.pc.toInt + 1)

variable {m : Machine} {answers : List Word} {i : Instruction}

theorem jumps_unique {v w : Word} (first : m.Jumps i v) (second : m.Jumps i w) : v = w := by
  cases first with
  | taken _ _ _ _ _ _ relative =>
      cases second with
      | taken _ _ _ _ _ _ again => exact Word.represents_unique _ _ _ relative again

theorem writes_unique {r : Register} {v w : Word} (first : m.Writes answers i r v)
    (second : m.Writes answers i r w) : v = w := by
  cases first with
  | input _ _ _ _ answered =>
      cases second with
      | input _ _ _ _ again => exact (List.cons.inj (answered.symm.trans again)).1
  | add _ _ _ _ exactly | sub _ _ _ _ exactly | mul _ _ _ _ exactly
  | div _ _ _ _ _ exactly | loadAddress _ _ _ _ exactly =>
      cases second
      rename_i again
      exact Word.represents_unique _ _ _ exactly again
  | load _ _ _ _ address place _ held =>
      cases second with
      | load _ _ _ _ other place' _ held' =>
          cases Word.represents_unique _ _ _ place place'
          exact Option.some.inj (held.symm.trans held')
  | loadConstant =>
      cases second
      rfl

theorem writes_written {r : Register} {w : Word} (writes : m.Writes answers i r w) :
    i.written? = some r := by
  cases writes <;> rfl

theorem jumps_not_writes {r : Register} {target w : Word} (jumps : m.Jumps i target) :
    ¬ m.Writes answers i r w := by
  intro writes
  cases jumps
  cases writes

theorem next_counter_unique (v w : Word) (first : m.NextCounter answers i v)
    (second : m.NextCounter answers i w) : v = w := by
  cases first with
  | jumps taken =>
      cases second with
      | jumps again => exact jumps_unique taken again
      | writes written => exact absurd written (jumps_not_writes taken)
      | advances untaken => exact absurd taken (untaken v)
  | writes written =>
      cases second with
      | jumps taken => exact absurd written (jumps_not_writes taken)
      | writes again => exact writes_unique written again
      | advances _ unwritten => exact absurd written (unwritten v)
  | advances untaken unwritten next =>
      cases second with
      | jumps taken => exact absurd taken (untaken w)
      | writes written => exact absurd written (unwritten w)
      | advances _ _ again => exact Int32.toInt_inj.mp (next.trans again.symm)

theorem not_jumps (target : Word) (other : ∀ test r a b, i ≠ .offset (.jump test) r a b) :
    ¬ m.Jumps i target := by
  intro taken
  cases taken with
  | taken test r a b => exact other test r a b rfl

theorem writes_of_yields (later : Machine) (r : Register) (target : i.written? = some r)
    (other : ∀ test q a b, i ≠ .offset (.jump test) q a b) (completed : later.status = .ok)
    (yields : m.Yields later answers i) : m.Writes answers i r (later.get r) := by
  cases i with
  | registers op q a b =>
      cases op with
      | halt | output => cases target
      | input =>
          cases target
          exact .input r a b _ yields
      | add =>
          cases target
          exact .add r a b _ yields
      | sub =>
          cases target
          exact .sub r a b _ yields
      | mul =>
          cases target
          exact .mul r a b _ yields
      | div =>
          cases target
          exact .div r a b _ (yields.1.mp completed) (yields.2 completed)
  | offset op q a b =>
      cases op with
      | store => cases target
      | jump test => exact absurd rfl (other test q a b)
      | load =>
          cases target
          obtain ⟨address, place, low, held⟩ := yields completed
          exact .load r a b _ address place low held
      | loadAddress =>
          cases target
          exact .loadAddress r a b _ yields
      | loadConstant =>
          cases target
          have constant : later.get r = a := yields
          rw [constant]
          exact .loadConstant r a b

theorem writes_completes (size : Nat) (sound : m.Sound size)
    (fetched : m.instructionAt? m.pc = some i) (r : Register) (w : Word)
    (writes : m.Writes answers i r w) : m.advance.stopStatus? i = none := by
  have found := advance_operand size m i sound fetched
  cases writes with
  | input | add | sub | mul | loadAddress | loadConstant => rfl
  | div r a b w divisor =>
      rw [← found] at divisor
      exact if_neg divisor
  | load r a b w address place low held =>
      obtain ⟨inside, -⟩ := Array.getElem?_eq_some_iff.mp held
      have sum : a + m.advance.get b = address := by
        rw [found]
        exact Word.represents_unique _ _ _ (Word.add_represents a (m.operand b)) place
      have index : m.advance.dataIndex? (a + m.advance.get b) = some address.toInt.toNat := by
        rw [sum]
        exact (data_index_iff _ _ _).mpr ⟨by omega, inside⟩
      exact if_neg (by simp [index])

theorem fetched_of_inside (size : Nat) (m : Machine) (sound : m.Sound size)
    (inside : 0 ≤ m.pc.toInt ∧ m.pc.toInt < size) : ∃ i, m.instructionAt? m.pc = some i := by
  apply Option.ne_none_iff_exists'.mp
  intro missing
  have outside := (instruction_at_none_iff m m.pc).mp missing
  rw [sound.code] at outside
  omega

theorem advance_set_counter (m : Machine) (w : Word) :
    m.advance.set Register.programCounter w = m.set Register.programCounter w := by
  simp [advance, set]

def replacing (m : Machine) (slot : Word) (i : Instruction) : Machine :=
  { m with code := m.code.setIfInBounds slot.toInt.toNat i }

theorem replacing_fetched (m : Machine) (i j : Instruction)
    (fetched : m.instructionAt? m.pc = some i) :
    (m.replacing m.pc j).instructionAt? m.pc = some j := by
  obtain ⟨start, filled⟩ := (instruction_at_iff m m.pc i).mp fetched
  obtain ⟨inside, -⟩ := Array.getElem?_eq_some_iff.mp filled
  refine (instruction_at_iff _ _ _).mpr ⟨start, ?_⟩
  exact Array.getElem?_setIfInBounds_self_of_lt inside

end Machine

namespace Session

variable {κ : Type} [Console κ] (s : Session κ) (running : s.machine.status = .ok)

include running

theorem step_done (i : Instruction) (later : Machine)
    (fetched : s.machine.instructionAt? s.machine.pc = some i)
    (done : s.machine.advance.execute i = .done later) : s.step.machine = later := by
  apply step_after s i (· = later) running fetched
  rw [done]
  rfl

theorem step_completes (i : Instruction)
    (fetched : s.machine.instructionAt? s.machine.pc = some i)
    (passes : s.machine.advance.stopStatus? i = none) : s.step.machine.status = .ok := by
  have outcome := step_outcome s i running fetched
  rw [passes] at outcome
  exact outcome.trans running

theorem step_stopped_advances (i : Instruction)
    (fetched : s.machine.instructionAt? s.machine.pc = some i)
    (stopped : s.step.machine.status ≠ .ok) : s.step.machine.pc = s.machine.advance.pc := by
  have outcome := step_outcome s i running fetched
  cases cause : s.machine.advance.stopStatus? i with
  | none => exact absurd (step_completes s running i fetched cause) stopped
  | some status =>
      rw [cause] at outcome
      have left : s.step.machine = { s.machine.advance with status } := outcome
      rw [left]
      rfl

section Jump

variable (test : Test) (r : Register) (a : Word) (b : Register)
  (fetched : s.machine.instructionAt? s.machine.pc = some (.offset (.jump test) r a b))

include fetched

theorem step_jump_taken (holds : test.holds (s.machine.advance.get r) = true) :
    s.step.machine = s.machine.set Register.programCounter (a + s.machine.advance.get b) := by
  rw [← Machine.advance_set_counter]
  apply step_done s running _ _ fetched
  rw [Machine.execute, Machine.executeOffset, if_pos holds]

theorem step_jump_untaken (fails : ¬ test.holds (s.machine.advance.get r) = true) :
    s.step.machine = s.machine.advance := by
  apply step_done s running _ _ fetched
  rw [Machine.execute, Machine.executeOffset, if_neg fails]

theorem step_jump_moves : s.step.machine =
    s.machine.set Register.programCounter s.step.machine.pc := by
  by_cases holds : test.holds (s.machine.advance.get r) = true
  · rw [step_jump_taken s running test r a b fetched holds, Machine.pc, Machine.get_set_same]
  · rw [step_jump_untaken s running test r a b fetched holds, Machine.advance_pc]
    rfl

theorem step_jump_target (size : Nat) (sound : s.machine.Sound size)
    (asked : test.Asks (s.machine.operand r).toInt) :
    s.step.machine.pc.Represents (a.toInt + (s.machine.operand b).toInt) := by
  have found := Machine.advance_operand size s.machine _ sound fetched
  rw [← found] at asked
  rw [step_jump_taken s running test r a b fetched ((test.holds_iff _).mpr asked), Machine.pc,
    Machine.get_set_same, found]
  exact Word.add_represents _ _

theorem step_jump_passed (size : Nat) (sound : s.machine.Sound size) (bounded : size ≤ 2147483647)
    (refused : ¬ test.Asks (s.machine.operand r).toInt) :
    s.step.machine.pc.toInt = s.machine.pc.toInt + 1 := by
  rw [← Machine.advance_operand size s.machine _ sound fetched, ← test.holds_iff] at refused
  rw [step_jump_untaken s running test r a b fetched refused]
  exact Machine.advance_exact s.machine _ (sound.code ▸ bounded) fetched

end Jump

theorem step_next_counter (size : Nat) (i : Instruction) (sound : s.machine.Sound size)
    (bounded : size ≤ 2147483647) (fetched : s.machine.instructionAt? s.machine.pc = some i) :
    s.machine.NextCounter (s.machine.step.answers s.host) i s.step.machine.pc := by
  have next := Machine.advance_exact s.machine i (sound.code ▸ bounded) fetched
  by_cases jump : ∃ test r a b, i = .offset (.jump test) r a b
  · obtain ⟨test, r, a, b, rfl⟩ := jump
    by_cases asked : test.Asks (s.machine.operand r).toInt
    · have target := step_jump_target s running test r a b fetched size sound asked
      exact .jumps (.taken test r a b _ asked target)
    · refine .advances ?_ (fun v written => nomatch written)
        (step_jump_passed s running test r a b fetched size sound bounded asked)
      intro target taken
      cases taken with
      | taken _ _ _ _ _ met => exact asked met
  · have other : ∀ test r a b, i ≠ .offset (.jump test) r a b :=
      fun test r a b same => jump ⟨test, r, a, b, same⟩
    have untaken := fun target => Machine.not_jumps (m := s.machine) target other
    by_cases completed : s.step.machine.status = .ok
    · by_cases target : i.written? = some Register.programCounter
      · have yields := step_yields size s i sound running fetched
        exact .writes (Machine.writes_of_yields _ _ target other completed yields)
      · refine .advances untaken (fun v written => target (Machine.writes_written written)) ?_
        have kept := step_after s i _ running fetched
          (Machine.execute_keeps_registers s.machine.advance i _ target)
        rw [Machine.pc, kept]
        exact next
    · refine .advances untaken ?_ ?_
      · intro v written
        have passes := Machine.writes_completes size sound fetched _ v written
        exact completed (step_completes s running i fetched passes)
      · rw [step_stopped_advances s running i fetched completed, next]

theorem step_load_as_jump (a : Word) (b : Register) (test : Test) (r : Register) (host : Host κ)
    (fetched : s.machine.instructionAt? s.machine.pc =
      some (.offset .loadAddress Register.programCounter a b))
    (holds : test.holds (s.machine.advance.get r) = true) :
    (step ⟨s.machine.replacing s.machine.pc (.offset (.jump test) r a b), host⟩).machine =
      s.step.machine.replacing s.machine.pc (.offset (.jump test) r a b) := by
  have placed := s.machine.replacing_fetched _ (.offset (.jump test) r a b) fetched
  have loaded := step_done s running _ _ fetched rfl
  rw [Machine.advance_set_counter] at loaded
  rw [loaded]
  exact step_jump_taken ⟨s.machine.replacing s.machine.pc (.offset (.jump test) r a b), host⟩
    running test r a b placed holds

end Session

theorem next_counter_determined {κ : Type} [Console κ] (capacity : Capacity) (s : Session κ)
    (reached : Reachable capacity s.machine) (running : s.machine.status = .ok)
    (inside : 0 ≤ s.machine.pc.toInt ∧ s.machine.pc.toInt < capacity.size) :
    ∃ i, s.machine.instructionAt? s.machine.pc = some i ∧
      ((s.machine.operand Register.programCounter).toInt = s.machine.pc.toInt + 1 ∧
        ∀ r, r ≠ Register.programCounter → s.machine.operand r = s.machine.get r) ∧
      (∀ w, s.step.machine.pc = w ↔
        s.machine.NextCounter (s.machine.step.answers s.host) i w) ∧
      (s.step.machine.status ≠ .ok → s.step.machine.pc.toInt = s.machine.pc.toInt + 1) ∧
      (∀ test r a b, i = .offset (.jump test) r a b →
        s.step.machine = s.machine.set Register.programCounter s.step.machine.pc ∧
          (r = Register.programCounter →
            (test = .positive ∨ test = .notNegative ∨ test = .notZero →
              s.step.machine.pc.Represents (a.toInt + (s.machine.operand b).toInt)) ∧
            (test = .negative ∨ test = .notPositive ∨ test = .zero →
              s.step.machine.pc.toInt = s.machine.pc.toInt + 1))) ∧
      ∀ a b, i = .offset .loadAddress Register.programCounter a b →
        ∀ test r, test.Asks (s.machine.operand r).toInt → ∀ host : Host κ,
          (Session.step ⟨s.machine.replacing s.machine.pc (.offset (.jump test) r a b),
              host⟩).machine =
            s.step.machine.replacing s.machine.pc (.offset (.jump test) r a b) := by
  have sound := Machine.reachable_sound capacity s.machine reached
  obtain ⟨i, fetched⟩ := Machine.fetched_of_inside capacity.size s.machine sound inside
  have found := Machine.advance_operand capacity.size s.machine i sound fetched
  have counter := Machine.operand_counter capacity.size s.machine i sound capacity.bounded fetched
  have moved := Session.step_next_counter s running capacity.size i sound capacity.bounded fetched
  have next : s.machine.advance.pc.toInt = s.machine.pc.toInt + 1 :=
    (congrArg Int32.toInt (found Register.programCounter)).trans counter
  refine ⟨i, fetched, ⟨counter, ?_⟩, ?_, ?_, ?_, ?_⟩
  · intro r other
    rw [← found]
    exact Machine.get_set_of_ne s.machine _ r _ other.symm
  · intro w
    refine ⟨?_, Machine.next_counter_unique _ w moved⟩
    intro same
    exact same ▸ moved
  · intro stopped
    rw [Session.step_stopped_advances s running i fetched stopped, next]
  · intro test r a b same
    subst same
    refine ⟨Session.step_jump_moves s running test r a b fetched, ?_⟩
    intro same
    subst same
    have asks := test.asks_positive_iff (s.machine.operand Register.programCounter).toInt (by omega)
    refine ⟨?_, ?_⟩
    · intro always
      exact Session.step_jump_target s running test _ a b fetched capacity.size sound
        (asks.mpr always)
    · intro never
      apply Session.step_jump_passed s running test _ a b fetched capacity.size sound
        capacity.bounded
      rw [asks]
      rcases never with rfl | rfl | rfl <;> simp
  · intro a b same test r asked host
    subst same
    rw [← found] at asked
    exact Session.step_load_as_jump s running a b test r host fetched
      ((test.holds_iff _).mpr asked)

theorem wrapped_address_as_jump :
    let program : Program := [.offset .loadAddress 7 2147483647 7]
    let jump : Instruction := .offset (.jump .notNegative) 7 2147483647 7
    let s := ((Session.start { size := 2 } ({ inputs := [] } : Script)).load program).2
    Reachable { size := 2 } s.machine ∧ s.machine.status = .ok ∧
      (0 ≤ s.machine.pc.toInt ∧ s.machine.pc.toInt < 2) ∧ s.step.machine.pc = -2147483648 ∧
      ∀ host : Host Script, (Session.step ⟨s.machine.replacing s.machine.pc jump, host⟩).machine =
        s.step.machine.replacing s.machine.pc jump := by
  intro program jump s
  have reached : Reachable { size := 2 } s.machine :=
    .perform (.start ({ inputs := [] } : Script)) (.load program _)
  have inside : 0 ≤ s.machine.pc.toInt ∧ s.machine.pc.toInt < 2 := by decide
  have wrapped : Word.Represents (-2147483648)
      ((2147483647 : Word).toInt + (s.machine.operand 7).toInt) :=
    (Word.represents_iff _ _).mpr (by decide)
  obtain ⟨i, fetched, -, counter, -, -, alike⟩ :=
    next_counter_determined { size := 2 } s reached rfl inside
  have same : i = .offset .loadAddress 7 2147483647 7 := (Option.some.inj fetched).symm
  subst same
  have moved := (counter (-2147483648)).mpr (.writes (.loadAddress 7 2147483647 7 _ wrapped))
  have asked : 0 ≤ (s.machine.operand 7).toInt := by decide
  exact ⟨reached, rfl, inside, moved, alike 2147483647 7 rfl .notNegative 7 asked⟩

end RegisterMachine
