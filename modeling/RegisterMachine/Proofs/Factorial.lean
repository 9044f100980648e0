import Mathlib.Data.Nat.Factorial.Basic
import RegisterMachine.Proofs.Delivery
import RegisterMachine.Proofs.Loading
import RegisterMachine.Proofs.NextCounter
import RegisterMachine.Proofs.Running

set_option autoImplicit false

namespace RegisterMachine

namespace Session

variable {κ : Type}

structure Executes (i : Instruction) (s : Session κ) : Prop where
  running : s.machine.status = .ok
  fetched : s.machine.instructionAt? s.machine.pc = some i

theorem executes_input (i : Instruction) (s : Session κ) (executes : s.Executes i) :
    s.machine.input? = i.inputs? := by
  rw [Machine.input?, s.machine.fetched_of_running executes.running, executes.fetched]
  rfl

theorem executes_output (i : Instruction) (s : Session κ) (executes : s.Executes i) :
    s.machine.output? = i.outputs?.map s.machine.advance.get := by
  rw [Machine.output?, s.machine.fetched_of_running executes.running, executes.fetched]
  rfl

variable [Console κ]

structure Finishes (k : Nat) (asked : List Register) (told : List Word) (s : Session κ) :
    Prop where
  stops : s.StopsAfter k
  halted : (s.stepN k).machine.status = .halted
  inputs : s.inputs k = asked
  outputs : s.outputs k = told

theorem finishes_step (k : Nat) (asked : List Register) (told : List Word) (s : Session κ)
    (running : s.step.machine.status = .ok) (rest : s.step.Finishes k asked told) :
    s.Finishes (k + 1) (s.machine.input?.toList ++ asked) (s.machine.output?.toList ++ told) where
  stops := (stops_after_succ k s running).mpr rest.stops
  halted := rest.halted
  inputs := by rw [inputs_succ, rest.inputs]
  outputs := by rw [outputs_succ, rest.outputs]

variable {i : Instruction} {s : Session κ}

theorem finishes_halt (executes : s.Executes .halt) : s.Finishes 1 [] [] := by
  have halted : s.step.machine.status = .halted := by
    have outcome := step_outcome s _ executes.running executes.fetched
    exact congrArg Machine.status outcome
  refine ⟨(stops_after_one 1 s (by simp [halted])).mpr rfl, halted, ?_, ?_⟩
  · rw [inputs_succ, executes_input _ s executes]
    rfl
  · rw [outputs_succ, executes_output _ s executes]
    rfl

theorem finishes_silent (k : Nat) (asked : List Register) (told : List Word) (later : Machine)
    (executes : s.Executes i) (silent : i.inputs? = none ∧ i.outputs? = none)
    (reached : s.step.machine = later) (running : later.status = .ok)
    (rest : s.step.Finishes k asked told) : s.Finishes (k + 1) asked told := by
  have finishes := finishes_step k asked told s (reached ▸ running) rest
  rw [executes_input _ s executes, executes_output _ s executes, silent.1, silent.2] at finishes
  exact finishes

end Session

namespace Factorial

def source : String :=
"* Compute n! for a number read from input
* r0 = n, r1 = accumulator, r2 = 1
  IN  0,0,0
  LDC 1,1(0)
  LDC 2,1(0)
* loop: if n <= 0 goto done
  JLE 0,4(7)
  MUL 1,1,0
  SUB 0,0,2
  LDA 7,-4(7)
  HALT 0,0,0
* done:
  OUT 1,0,0
  HALT 0,0,0
"

def program : Program := [
  .registers .input 0 0 0,
  .offset .loadConstant 1 1 0,
  .offset .loadConstant 2 1 0,
  .offset (.jump .notPositive) 0 4 7,
  .registers .mul 1 1 0,
  .registers .sub 0 0 2,
  .offset .loadAddress 7 (-4) 7,
  .halt,
  .registers .output 1 0 0,
  .halt]

set_option maxRecDepth 1000 in
theorem source_read : Program.parse source = .ok program := by
  apply Program.parse_spelled source _ program rfl
  decide +kernel

theorem slot_word (slot : Nat) (inside : slot < program.length) :
    (Int32.ofNat slot).toInt = slot := by
  have within : slot < 10 := inside
  have low : Word.least ≤ slot := by
    simp only [Word.least]
    omega
  have high : (slot : Int) ≤ Word.greatest := by
    simp only [Word.greatest]
    omega
  rw [← Int32.ofInt_eq_ofNat, Word.to_int_of_int _ low high]

theorem count_lowered (n : Word) (k : Nat) (count : n.toInt.toNat = k + 1) :
    (n - 1).toInt.toNat = k := by
  have high := n.to_int_le_greatest
  have represents := Word.sub_represents n 1
  rw [Int32.toInt_one] at represents
  have low : Word.least ≤ n.toInt - 1 := by
    simp only [Word.least]
    omega
  have lowered := Word.represents_exactly _ _ represents low (by omega)
  omega

theorem product_residue (n product : Word) (k : Nat) (count : n.toInt.toNat = k + 1) (w : Word)
    (result : w.Represents (product.toInt * (k + 1).factorial)) :
    w.Represents ((product * n).toInt * k.factorial) := by
  have number : n.toInt = (k + 1 : Nat) := by omega
  have whole : product.toInt * (k + 1).factorial = product.toInt * n.toInt * k.factorial := by
    rw [Nat.factorial_succ, number, Nat.cast_mul, Int.mul_assoc]
  rw [whole] at result
  exact result.trans ((Word.mul_represents product n).symm.mul_right _)

structure Ready (m : Machine) : Prop where
  code : ∀ (slot : Nat) (i : Instruction), program[slot]? = some i → m.code[slot]? = some i
  running : m.status = .ok
  silent : m.trace = false

def holding (m : Machine) (n product one : Word) (slot : Nat) : Machine :=
  { m with registers := #v[n, product, one, 0, 0, 0, 0, Int32.ofNat slot] }

variable {m : Machine} (ready : Ready m) {s : Session Script} {n product one : Word}

include ready

theorem holding_executes (slot : Nat) (i : Instruction)
    (held : s.machine = holding m n product one slot) (listed : program[slot]? = some i) :
    s.Executes i where
  running := by rw [held]; exact ready.running
  fetched := by
    obtain ⟨inside, -⟩ := List.getElem?_eq_some_iff.mp listed
    have place : (Int32.ofNat slot).toInt = slot := slot_word slot inside
    rw [held]
    apply (Machine.instruction_at_iff _ _ i).mpr
    change 0 ≤ (Int32.ofNat slot).toInt ∧ m.code[(Int32.ofNat slot).toInt.toNat]? = some i
    rw [place]
    exact ⟨Int.natCast_nonneg slot, ready.code slot i listed⟩

theorem holding_steps (slot : Nat) (i : Instruction) (n' product' one' : Word) (slot' : Nat)
    (held : s.machine = holding m n product one slot) (listed : program[slot]? = some i)
    (silent : i.inputs? = none ∧ i.outputs? = none)
    (done : (holding m n product one slot).advance.execute i =
      .done (holding m n' product' one' slot')) :
    s.step.machine = holding m n' product' one' slot' ∧
      ∀ k asked told, s.step.Finishes k asked told → s.Finishes (k + 1) asked told := by
  have executes := holding_executes ready slot i held listed
  have reached : s.step.machine = holding m n' product' one' slot' := by
    rw [← held] at done
    exact Session.step_done s executes.running i _ executes.fetched done
  refine ⟨reached, fun k asked told => ?_⟩
  exact Session.finishes_silent k asked told _ executes silent reached ready.running

theorem end_finishes (held : s.machine = holding m n product one 8) :
    s.Finishes 2 [] [product] := by
  have executes := holding_executes ready 8 _ held rfl
  have shown : s.step.machine = holding m n product one 9 := by
    apply Session.step_after s _ (· = holding m n product one 9) executes.running executes.fetched
    rw [held]
    rfl
  have halts := Session.finishes_halt (holding_executes ready 9 .halt shown rfl)
  have finishes := Session.finishes_step 1 [] [] s (shown ▸ ready.running) halts
  rw [Session.executes_input _ s executes, Session.executes_output _ s executes, held] at finishes
  exact finishes

theorem round_returns (held : s.machine = holding m n product 1 3) (more : 0 < n.toInt) :
    (s.stepN 4).machine = holding m (n - 1) (product * n) 1 3 ∧
      ∀ k asked told, (s.stepN 4).Finishes k asked told → s.Finishes (k + 4) asked told := by
  have remains : ¬ Test.notPositive.holds n = true := by
    rw [Test.holds_iff, Test.Asks]
    omega
  have back : (-4 : Word) + (Int32.ofNat 6 + 1) = Int32.ofNat 3 := by decide
  obtain ⟨tested, first⟩ := holding_steps ready 3 _ n product 1 4 held rfl ⟨rfl, rfl⟩
    (congrArg Dialogue.done (if_neg remains))
  obtain ⟨multiplied, second⟩ := holding_steps ready 4 _ n (product * n) 1 5 tested rfl
    ⟨rfl, rfl⟩ rfl
  obtain ⟨lowered, third⟩ := holding_steps ready 5 _ (n - 1) (product * n) 1 6 multiplied rfl
    ⟨rfl, rfl⟩ rfl
  obtain ⟨returned, fourth⟩ := holding_steps ready 6 _ (n - 1) (product * n) 1 3 lowered rfl
    ⟨rfl, rfl⟩
    (congrArg (fun w => Dialogue.done ((holding m (n - 1) (product * n) 1 6).set 7 w)) back)
  refine ⟨returned, fun k asked told rest => ?_⟩
  exact first _ _ _ (second _ _ _ (third _ _ _ (fourth _ _ _ rest)))

-- The product times the factorial of what is left to multiply keeps its residue in every round.
theorem loop_finishes (k : Nat) (held : s.machine = holding m n product 1 3)
    (count : n.toInt.toNat = k) (w : Word)
    (result : w.Represents (product.toInt * k.factorial)) :
    s.Finishes (4 * k + 3) [] [w] := by
  induction k generalizing s n product with
  | zero =>
      have exhausted : Test.notPositive.holds n = true :=
        (Test.holds_iff _ n).mpr (Int.toNat_eq_zero.mp count)
      obtain ⟨left, jump⟩ := holding_steps ready 3 _ n product 1 8 held rfl ⟨rfl, rfl⟩
        (congrArg Dialogue.done (if_pos exhausted))
      have same : w = product := by
        apply Word.represents_unique w product product.toInt _ (Int.ModEq.refl _)
        rw [Nat.factorial_zero, Nat.cast_one, Int.mul_one] at result
        exact result
      subst same
      exact jump _ _ _ (end_finishes ready left)
  | succ k ih =>
      obtain ⟨returned, round⟩ := round_returns ready held (by omega)
      have residue := product_residue n product k count w result
      exact round _ _ _ (ih returned (count_lowered n k count) residue)

theorem program_finishes (held : s.machine = holding m 0 0 0 0) (w : Word)
    (read : s.host.console.inputs.headD 0 = n)
    (result : w.Represents n.toInt.toNat.factorial) :
    s.Finishes (4 * n.toInt.toNat + 6) [0] [w] := by
  have executes := holding_executes ready 0 _ held rfl
  obtain ⟨x, taken⟩ : ∃ x, s.step.machine = holding m x 0 0 1 := by
    apply Session.step_after s _ (fun later => ∃ x, later = holding m x 0 0 1) executes.running
      executes.fetched
    rw [held]
    intro x
    exact ⟨x, rfl⟩
  have asks : s.machine.input? = some 0 := Session.executes_input _ s executes
  have stored := Session.step_takes_next s 0 asks
  rw [taken, read] at stored
  have same : x = n := stored
  subst same
  obtain ⟨begun, first⟩ := holding_steps ready 1 _ x 1 0 2 taken rfl ⟨rfl, rfl⟩ rfl
  obtain ⟨prepared, second⟩ := holding_steps ready 2 _ x 1 1 3 begun rfl ⟨rfl, rfl⟩ rfl
  have whole : w.Represents ((1 : Word).toInt * x.toInt.toNat.factorial) := by
    rw [Int32.toInt_one, Int.one_mul]
    exact result
  have loop := loop_finishes ready x.toInt.toNat prepared rfl w whole
  have rest := first _ _ _ (second _ _ _ loop)
  have finishes := Session.finishes_step _ _ _ s (taken ▸ ready.running) rest
  rw [asks, Session.executes_output _ s executes] at finishes
  exact finishes

omit ready

def loaded (inputs : List Word) : Except LoadError Nat × Session Script :=
  (Session.start .standard { inputs }).loadSource source

theorem loaded_eq (inputs : List Word) :
    loaded inputs = ((Session.start .standard ({ inputs } : Script)).restart true).load program :=
  Session.load_source_of_parse source program _ source_read

theorem program_fits : program.length ≤ Capacity.standard.size := by decide

theorem loaded_result (inputs : List Word) : (loaded inputs).1 = .ok 10 := by
  rw [loaded_eq, Session.load_outcome]
  exact if_pos program_fits

theorem loaded_console (inputs : List Word) : (loaded inputs).2.host.console = { inputs } := by
  rw [loaded, Session.load_source_console]
  rfl

theorem loaded_with_inputs (inputs : List Word) :
    (loaded inputs).2 = (loaded []).2.withInputs inputs := by
  rw [loaded, loaded, ← Session.load_source_with_inputs]
  rfl

theorem loaded_machine (inputs : List Word) :
    (loaded inputs).2.machine = ((Machine.start .standard).load program).2 := by
  rw [loaded_eq, Session.load_machine]
  exact congrArg Prod.snd (Machine.load_same program _ _ rfl rfl)

theorem loaded_ready : Ready ((Machine.start .standard).load program).2 where
  code := (Machine.load_fresh program (.start .standard) program_fits).program
  running := (Machine.load_fresh program (.start .standard) program_fits).status
  silent := Machine.load_trace program (.start .standard)

theorem loaded_holding (inputs : List Word) :
    (loaded inputs).2.machine =
      holding ((Machine.start .standard).load program).2 0 0 0 0 := by
  have zeros : ((Machine.start .standard).load program).2.registers =
      #v[0, 0, 0, 0, 0, 0, 0, Int32.ofNat 0] := by
    rw [Machine.load_fits program _ program_fits]
    rfl
  rw [loaded_machine, holding, ← zeros]

def steps (n : Word) : Nat := 4 * (max n.toInt 0).toNat + 6

structure Computes (n : Word) (s : Session Script) : Prop where
  stops : s.StopsAfter (steps n)
  run : s.EndsIn (s.stepN (steps n)) (steps n)
  halted : (s.stepN (steps n)).machine.status = .halted
  prompts : (s.stepN (steps n)).host.console.prompts = #["Enter number to store in register 0"]
  lines : ∃ w : Word, w.Represents (max n.toInt 0).toNat.factorial ∧ (n.toInt ≤ 0 → w = 1) ∧
    (s.stepN (steps n)).host.console.lines = #[toString w.toInt, "Program halted."]

theorem loaded_computes (inputs : List Word) (n : Word) (read : inputs.headD 0 = n) :
    Computes n (loaded inputs).2 := by
  have whole : (max n.toInt 0).toNat = n.toInt.toNat := by omega
  obtain ⟨w, result, -⟩ := Word.represented_once n.toInt.toNat.factorial
  have console := loaded_console inputs
  have finishes : (loaded inputs).2.Finishes (steps n) [0] [w] := by
    rw [steps, whole]
    exact program_finishes loaded_ready (loaded_holding inputs) w (console ▸ read) result
  have silent : (loaded inputs).2.machine.trace = false := by
    rw [loaded_machine]
    exact loaded_ready.silent
  have shown := Session.shown_to_stop (steps n) (loaded inputs).2 "Program halted." silent
    finishes.stops (by rw [finishes.halted]; rfl)
  obtain ⟨lines, prompts⟩ := Session.step_n_script (steps n) (loaded inputs).2
  rw [shown, Shown.lines_append, Session.lines_of_said, finishes.outputs, console] at lines
  rw [shown, Shown.prompts_append, Session.prompts_of_said, finishes.inputs, console] at prompts
  refine ⟨finishes.stops, Session.ends_in_of_stops_after _ _ finishes.stops, finishes.halted,
    Array.toList_inj.mp prompts, w, ?_, ?_, ?_⟩
  · rw [whole]
    exact result
  · intro low
    have nothing : n.toInt.toNat = 0 := by omega
    rw [nothing] at result
    exact Word.represents_unique w 1 1 result (Int.ModEq.refl _)
  · apply Array.toList_inj.mp
    apply lines.trans
    exact congrArg (fun text => [text, "Program halted."]) w.text_decimal

end Factorial

theorem factorial_program_correct :
    (∀ n : Word, (Factorial.loaded [n]).1 = .ok 10 ∧
      Factorial.Computes n (Factorial.loaded [n]).2) ∧
    Factorial.Computes 0 (Factorial.loaded []).2 ∧
    ∀ k, ((Factorial.loaded []).2.stepN k).withInputs [] =
      ((Factorial.loaded [0]).2.stepN k).withInputs [] := by
  refine ⟨?_, Factorial.loaded_computes [] 0 rfl, ?_⟩
  · intro n
    exact ⟨Factorial.loaded_result [n], Factorial.loaded_computes [n] n rfl⟩
  · intro k
    have alike : Alike (Session.requests ((Factorial.loaded []).2.track k)).length
        (Factorial.loaded []).2.host.console.inputs [0] := by
      rw [Factorial.loaded_console]
      exact alike_zeros _ 1 []
    obtain ⟨same, -⟩ := Session.track_with_inputs k _ [0] alike
    rw [Factorial.loaded_with_inputs [0], same]
    rfl

end RegisterMachine
