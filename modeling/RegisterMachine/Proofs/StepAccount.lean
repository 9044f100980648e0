import RegisterMachine.Proofs.Answers

set_option autoImplicit false

namespace RegisterMachine

namespace Dialogue

variable {α β κ : Type}

-- What the dialogue itself logs. What a console adds to the log is left out.
def events [Console κ] : Dialogue α → Host κ → List Event
  | .done _, _ => []
  | .report line next, host => next.events (host.report line)
  | .ask prompt default next, host =>
      let (answer, host) := host.ask prompt default
      (next answer).events host
  | .log event next, host => event :: next.events (host.note event)

-- `P` holds of what is shown, what is logged and the result, whatever is answered on the way.
def Tells : Dialogue α → (List Shown → List Event → α → Prop) → Prop
  | .done result, P => P [] [] result
  | .report line next, P =>
      next.Tells fun shown events result => P (.line line :: shown) events result
  | .ask prompt _ next, P =>
      ∀ answer, (next answer).Tells fun shown events result => P (.prompt prompt :: shown) events result
  | .log event next, P => next.Tells fun shown events result => P shown (event :: events) result

theorem tells_conduct [Console κ] (dialogue : Dialogue α) (host : Host κ)
    (P : List Shown → List Event → α → Prop) (told : dialogue.Tells P) :
    P (dialogue.shown host) (dialogue.events host) (dialogue.conduct host).1 := by
  induction dialogue generalizing host P with
  | done result => exact told
  | report line next ih => exact ih (host.report line) _ told
  | ask prompt default next ih => exact ih _ (host.ask prompt default).2 _ (told _)
  | log event next ih => exact ih (host.note event) _ told

theorem tells_bind (dialogue : Dialogue α) (follow : α → Dialogue β)
    (P : List Shown → List Event → β → Prop) :
    (dialogue.bind follow).Tells P ↔
      dialogue.Tells fun before first middle =>
        (follow middle).Tells fun after later result => P (before ++ after) (first ++ later) result := by
  induction dialogue generalizing P with
  | done result => rfl
  | report line next ih => exact ih _
  | ask prompt default next ih => exact forall_congr' fun answer => ih answer _
  | log event next ih => exact ih _

theorem tells_mono (dialogue : Dialogue α) (P Q : List Shown → List Event → α → Prop)
    (within : ∀ shown events result, P shown events result → Q shown events result)
    (told : dialogue.Tells P) : dialogue.Tells Q := by
  induction dialogue generalizing P Q with
  | done result => exact within [] [] result told
  | report line next ih => exact ih _ _ (fun shown => within (.line line :: shown)) told
  | ask prompt default next ih =>
      exact fun answer => ih answer _ _ (fun shown => within (.prompt prompt :: shown)) (told answer)
  | log event next ih => exact ih _ _ (fun shown events => within shown (event :: events)) told

end Dialogue

namespace Instruction

def outputs? : Instruction → Option Register
  | .registers .output r _ _ => some r
  | _ => none

def inputs? : Instruction → Option Register
  | .registers .input r _ _ => some r
  | _ => none

end Instruction

namespace Machine

def fetched? (m : Machine) : Option Instruction :=
  if m.status.isOk then m.instructionAt? m.pc else none

-- The word that the next step shows; the program counter is shown as it is after its advance.
def output? (m : Machine) : Option Word :=
  (m.fetched?.bind Instruction.outputs?).map m.advance.get

def input? (m : Machine) : Option Register := m.fetched?.bind Instruction.inputs?

def announced (m : Machine) : List Shown :=
  if m.trace then (m.fetched?.map fun i => Shown.line (traceLine i)).toList else []

def said (m : Machine) : List Shown :=
  (m.output?.map fun w => Shown.line w.text).toList ++
    (m.input?.map fun r => Shown.prompt (inputPrompt r)).toList

def notified (m : Machine) : List Shown := (m.status.notice?.map Shown.line).toList

def executing? (m : Machine) : Option Event := m.fetched?.map (.executing m.pc)

def final? (m : Machine) : Option Event :=
  if m.status.isOk then none else some (.stopped m.status m.pc)

def shows (m later : Machine) : List Shown := m.announced ++ (m.said ++ later.notified)

def logs (m later : Machine) : List Event :=
  m.executing?.toList ++ if m.status.isOk then later.final?.toList else []

theorem final_of_running (m : Machine) (running : m.status = .ok) : m.final? = none :=
  if_pos ((Status.is_ok_iff m.status).mpr running)

theorem final_of_stopped (m : Machine) (stopped : m.status ≠ .ok) :
    m.final? = some (.stopped m.status m.pc) :=
  if_neg fun running => stopped ((Status.is_ok_iff m.status).mp running)

theorem fetched_of_running (m : Machine) (running : m.status = .ok) :
    m.fetched? = m.instructionAt? m.pc :=
  if_pos ((Status.is_ok_iff m.status).mpr running)

theorem fetched_of_stopped (m : Machine) (stopped : m.status ≠ .ok) : m.fetched? = none :=
  if_neg fun running => stopped ((Status.is_ok_iff m.status).mp running)

def Executes (said shown : List Shown) (events : List Event) (later : Machine) : Prop :=
  shown = said ∧ events = later.final?.toList

theorem done_executes (m : Machine) (running : m.status = .ok) :
    (Dialogue.done m).Tells (Executes []) := by
  refine ⟨rfl, ?_⟩
  rw [final_of_running m running]
  rfl

theorem stop_executes (m : Machine) (status : Status) (stopped : status ≠ .ok) :
    (m.stop status).Tells (Executes []) := by
  refine ⟨rfl, ?_⟩
  rw [final_of_stopped _ stopped]
  rfl

theorem load_cell_executes (m : Machine) (r : Register) (address : Word)
    (running : m.status = .ok) : (m.loadCell r address).Tells (Executes []) := by
  rw [loadCell]
  cases m.dataIndex? address with
  | none => exact stop_executes m .dataFault (by decide)
  | some i => exact done_executes _ running

theorem store_cell_executes (m : Machine) (r : Register) (address : Word)
    (running : m.status = .ok) : (m.storeCell r address).Tells (Executes []) := by
  rw [storeCell]
  cases m.dataIndex? address with
  | none => exact stop_executes m .dataFault (by decide)
  | some i => exact done_executes _ running

def speech (m : Machine) (i : Instruction) : List Shown :=
  (i.outputs?.map fun r => Shown.line (m.get r).text).toList ++
    (i.inputs?.map fun r => Shown.prompt (inputPrompt r)).toList

theorem execute_tells (m : Machine) (i : Instruction) (running : m.status = .ok) :
    (m.execute i).Tells (Executes (m.speech i)) := by
  cases i with
  | registers op r s t =>
      cases op with
      | halt => exact stop_executes m .halted (by decide)
      | input =>
          intro answer
          obtain ⟨-, logged⟩ := done_executes (m.set r answer) running
          exact ⟨rfl, logged⟩
      | output =>
          obtain ⟨-, logged⟩ := done_executes m running
          exact ⟨rfl, logged⟩
      | add | sub | mul => exact done_executes _ running
      | div =>
          rw [execute, executeRegisters]
          by_cases zero : m.get t = 0
          · rw [if_pos zero]
            exact stop_executes m .divideByZero (by decide)
          · rw [if_neg zero]
            exact done_executes _ running
  | offset op r s t =>
      cases op with
      | load => exact load_cell_executes m r (s + m.get t) running
      | store => exact store_cell_executes m r (s + m.get t) running
      | loadAddress | loadConstant => exact done_executes _ running
      | jump test =>
          apply done_executes
          cases test.holds (m.get r) <;> exact running

theorem said_of_fetched (m : Machine) (i : Instruction) (fetched : m.fetched? = some i) :
    m.said = m.advance.speech i := by
  simp only [said, output?, input?, fetched, Option.bind_some, speech, Option.map_map]
  rfl

theorem lines_said (m : Machine) : Shown.lines m.said = (m.output?.map Word.text).toList := by
  rw [said]
  cases m.output? <;> cases m.input? <;> rfl

theorem prompts_said (m : Machine) : Shown.prompts m.said = (m.input?.map inputPrompt).toList := by
  rw [said]
  cases m.output? <;> cases m.input? <;> rfl

theorem prompts_shows (m later : Machine) :
    Shown.prompts (m.shows later) = (m.input?.map inputPrompt).toList := by
  have announced : Shown.prompts m.announced = [] := by
    rw [Machine.announced]
    cases m.trace <;> cases m.fetched? <;> rfl
  have notified : Shown.prompts later.notified = [] := by
    rw [Machine.notified]
    cases later.status.notice? <;> rfl
  rw [shows, Shown.prompts_append, Shown.prompts_append, announced, prompts_said, notified,
    List.nil_append, List.append_nil]

theorem cycle_tells (m : Machine) (running : m.status = .ok) :
    m.cycle.Tells fun shown events later =>
      shown = m.announced ++ m.said ∧ events = m.executing?.toList ++ later.final?.toList := by
  have fetched := fetched_of_running m running
  rw [cycle, ← fetched]
  cases found : m.fetched? with
  | none =>
      obtain ⟨-, logged⟩ := stop_executes m .instructionFault (by decide)
      refine ⟨?_, ?_⟩
      · simp [announced, said, output?, input?, found]
      · rw [executing?, found]
        exact logged
  | some i =>
      have executed := m.advance.execute_tells i running
      rw [← said_of_fetched m i found] at executed
      have logged : ∀ later : Machine, m.executing?.toList ++ later.final?.toList =
          .executing m.pc i :: later.final?.toList := by
        intro later
        rw [executing?, found]
        rfl
      cases traced : m.trace with
      | false =>
          simp only [Bool.false_eq_true, if_false, Dialogue.Tells]
          refine Dialogue.tells_mono _ _ _ ?_ executed
          intro shown events later account
          obtain ⟨rfl, rfl⟩ := account
          exact ⟨by simp [announced, traced], (logged later).symm⟩
      | true =>
          simp only [if_true, Dialogue.Tells]
          refine Dialogue.tells_mono _ _ _ ?_ executed
          intro shown events later account
          obtain ⟨rfl, rfl⟩ := account
          exact ⟨by simp [announced, traced, found], (logged later).symm⟩

theorem show_notice_tells (m : Machine) :
    m.showNotice.Tells fun shown events later => shown = m.notified ∧ events = [] ∧ later = m := by
  rw [showNotice, notified]
  cases m.status.notice? with
  | none => exact ⟨rfl, rfl, rfl⟩
  | some notice => exact ⟨rfl, rfl, rfl⟩

theorem step_tells (m : Machine) :
    m.step.Tells fun shown events later => shown = m.shows later ∧ events = m.logs later := by
  rw [step]
  by_cases running : m.status = .ok
  · have ok := (Status.is_ok_iff m.status).mpr running
    rw [if_pos ok, Dialogue.tells_bind]
    refine Dialogue.tells_mono _ _ _ ?_ (m.cycle_tells running)
    intro before first middle account
    obtain ⟨rfl, rfl⟩ := account
    refine Dialogue.tells_mono _ _ _ ?_ middle.show_notice_tells
    intro after later result notice
    obtain ⟨rfl, rfl, rfl⟩ := notice
    exact ⟨by rw [shows, List.append_assoc], by rw [logs, if_pos ok, List.append_nil]⟩
  · have stopped : ¬ m.status.isOk = true := fun ok => running ((Status.is_ok_iff m.status).mp ok)
    have nothing := fetched_of_stopped m running
    rw [if_neg stopped]
    refine Dialogue.tells_mono _ _ _ ?_ m.show_notice_tells
    intro shown events later notice
    obtain ⟨rfl, rfl, rfl⟩ := notice
    refine ⟨?_, ?_⟩
    · simp [shows, announced, said, output?, input?, nothing]
    · simp [logs, executing?, nothing, stopped]

end Machine

namespace Session

variable {κ : Type} [Console κ]

theorem step_shows (s : Session κ) : s.machine.step.shown s.host = s.machine.shows s.step.machine :=
  (Dialogue.tells_conduct s.machine.step s.host _ s.machine.step_tells).1

theorem step_logs (s : Session κ) : s.machine.step.events s.host = s.machine.logs s.step.machine :=
  (Dialogue.tells_conduct s.machine.step s.host _ s.machine.step_tells).2

theorem shown_succ (k : Nat) (s : Session κ) :
    s.shown (k + 1) = s.shown k ++ (s.stepN k).machine.shows (s.stepN (k + 1)).machine := by
  induction k generalizing s with
  | zero =>
      change s.machine.step.shown s.host ++ [] = [] ++ s.machine.shows s.step.machine
      rw [step_shows, List.append_nil, List.nil_append]
  | succ k ih =>
      change s.machine.step.shown s.host ++ s.step.shown (k + 1) =
        s.machine.step.shown s.host ++ s.step.shown k ++ _
      rw [ih s.step, List.append_assoc]
      rfl

end Session

end RegisterMachine
