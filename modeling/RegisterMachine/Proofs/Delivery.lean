import Mathlib.Data.List.TakeDrop
import RegisterMachine.Proofs.LastNotice
import RegisterMachine.Proofs.Loading
import RegisterMachine.Proofs.RegisterResults

set_option autoImplicit false

namespace RegisterMachine

def Alike (n : Nat) (xs ys : List Word) : Prop := List.takeD n xs 0 = List.takeD n ys 0

theorem padded_add (i k : Nat) (xs : List Word) :
    List.takeD (i + k) xs 0 = List.takeD i xs 0 ++ List.takeD k (xs.drop i) 0 := by
  induction i generalizing xs with
  | zero => rw [Nat.zero_add, List.drop_zero, List.takeD_zero, List.nil_append]
  | succ i ih => rw [Nat.succ_add, List.takeD, List.takeD, ih, List.drop_tail, List.cons_append]

theorem alike_add (i k : Nat) (xs ys : List Word) :
    Alike (i + k) xs ys ↔ Alike i xs ys ∧ Alike k (xs.drop i) (ys.drop i) := by
  rw [Alike, padded_add, padded_add]
  refine ⟨?_, ?_⟩
  · intro same
    exact List.append_inj same (by rw [List.takeD_length, List.takeD_length])
  · intro parts
    obtain ⟨first, rest⟩ := parts
    rw [Alike] at first rest
    rw [first, rest]

theorem alike_succ (n : Nat) (xs ys : List Word) :
    Alike (n + 1) xs ys ↔ xs.headD 0 = ys.headD 0 ∧ Alike n xs.tail ys.tail := by
  rw [Alike, List.takeD, List.takeD, List.cons.injEq]
  rfl

theorem alike_zeros (n k : Nat) (xs : List Word) : Alike n xs (xs ++ List.replicate k 0) := by
  induction n generalizing xs k with
  | zero => rfl
  | succ n ih =>
      cases xs with
      | nil =>
          cases k with
          | zero => rfl
          | succ k => exact (alike_succ _ _ _).mpr ⟨rfl, ih k []⟩
      | cons x xs => exact (alike_succ _ _ _).mpr ⟨rfl, ih k xs⟩

theorem alike_beyond (n : Nat) (xs more : List Word) :
    Alike n xs (List.takeD n xs 0 ++ more) :=
  (List.takeD_left' (List.takeD_length n xs 0)).symm

def Host.withInputs (inputs : List Word) (host : Host Script) : Host Script :=
  { host with console := { host.console with inputs } }

def Session.withInputs (inputs : List Word) (s : Session Script) : Session Script :=
  { s with host := s.host.withInputs inputs }

namespace Dialogue

variable {α κ : Type}

theorem answers_length [Console κ] (dialogue : Dialogue α) (host : Host κ) :
    (dialogue.answers host).length = (Shown.prompts (dialogue.shown host)).length := by
  induction dialogue generalizing host with
  | done result => rfl
  | report line next ih => exact ih (host.report line)
  | ask prompt default next ih => exact congrArg (· + 1) (ih _ (host.ask prompt default).2)
  | log event next ih => exact ih (host.note event)

theorem conduct_unread (dialogue : Dialogue α) (host : Host Script) :
    (dialogue.conduct host).2.console.inputs =
      host.console.inputs.drop (dialogue.answers host).length := by
  induction dialogue generalizing host with
  | done result => rfl
  | report line next ih => exact ih (host.report line)
  | ask prompt default next ih =>
      apply (ih _ (host.ask prompt default).2).trans
      exact List.drop_tail
  | log event next ih => exact ih (host.note event)

theorem answers_padded (dialogue : Dialogue α) (within : dialogue.Within Machine.traced)
    (host : Host Script) :
    dialogue.answers host = List.takeD (dialogue.answers host).length host.console.inputs 0 := by
  induction dialogue generalizing host with
  | done result => rfl
  | report line next ih => exact ih within.2 (host.report line)
  | ask prompt default next ih =>
      obtain ⟨⟨rfl, -⟩, later⟩ := within
      exact congrArg (_ :: ·) (ih _ (later _) (host.ask prompt 0).2)
  | log event next ih => exact ih within (host.note event)

theorem conduct_with_inputs (dialogue : Dialogue α) (within : dialogue.Within Machine.traced)
    (host : Host Script) (ys : List Word)
    (alike : Alike (dialogue.answers host).length host.console.inputs ys) :
    dialogue.conduct (host.withInputs ys) =
      ((dialogue.conduct host).1,
        (dialogue.conduct host).2.withInputs (ys.drop (dialogue.answers host).length)) := by
  induction dialogue generalizing host ys with
  | done result => rfl
  | report line next ih => exact ih within.2 (host.report line) ys alike
  | ask prompt default next ih =>
      obtain ⟨⟨rfl, -⟩, later⟩ := within
      obtain ⟨same, onward⟩ := (alike_succ _ _ _).mp alike
      have asked : (host.withInputs ys).ask prompt 0 =
          ((host.ask prompt 0).1, (host.ask prompt 0).2.withInputs ys.tail) :=
        congrArg (fun answer => (answer, (host.ask prompt 0).2.withInputs ys.tail)) same.symm
      rw [conduct_ask, conduct_ask, asked]
      apply (ih _ (later _) (host.ask prompt 0).2 ys.tail onward).trans
      rw [List.drop_tail]
      rfl
  | log event next ih => exact ih within (host.note event) ys alike

end Dialogue

namespace Session

section Stepped

variable {κ : Type}

def requests (stepped : List (Session κ)) : List Register :=
  stepped.filterMap fun now => now.machine.input?

theorem requests_append (first second : List (Session κ)) :
    requests (first ++ second) = requests first ++ requests second :=
  List.filterMap_append

theorem requests_singleton (s : Session κ) : requests [s] = s.machine.input?.toList := by
  rw [requests]
  cases found : s.machine.input? <;> simp [found]

variable [Console κ]

def track : Nat → Session κ → List (Session κ)
  | 0, _ => []
  | k + 1, s => s :: track k s.step

theorem step_answers_length (s : Session κ) :
    (s.machine.step.answers s.host).length = (requests [s]).length := by
  rw [Dialogue.answers_length, step_shows, Machine.prompts_shows, requests_singleton]
  cases s.machine.input? <;> rfl

end Stepped

theorem step_unread (s : Session Script) :
    s.step.host.console.inputs = s.host.console.inputs.drop (requests [s]).length := by
  rw [← step_answers_length]
  exact s.machine.step.conduct_unread s.host

theorem step_answers_padded (s : Session Script) :
    s.machine.step.answers s.host = List.takeD (requests [s]).length s.host.console.inputs 0 := by
  rw [← step_answers_length]
  exact s.machine.step.answers_padded s.machine.step_traced s.host

theorem input_fetched (m : Machine) (r : Register) (asks : m.input? = some r) :
    m.status = .ok ∧ ∃ a b, m.instructionAt? m.pc = some (.registers .input r a b) := by
  obtain ⟨i, fetched, takes⟩ := Option.bind_eq_some_iff.mp asks
  by_cases running : m.status = .ok
  · rw [m.fetched_of_running running] at fetched
    refine ⟨running, ?_⟩
    cases i with
    | registers op q a b =>
        cases op <;> cases takes
        exact ⟨a, b, fetched⟩
    | offset => cases takes
  · rw [m.fetched_of_stopped running] at fetched
    cases fetched

theorem step_takes_next (s : Session Script) (r : Register) (asks : s.machine.input? = some r) :
    s.step.machine.get r = s.host.console.inputs.headD 0 := by
  obtain ⟨running, a, b, fetched⟩ := input_fetched s.machine r asks
  have answers := step_answers_padded s
  rw [step_input s r a b running fetched, requests_singleton, asks] at answers
  exact (List.cons.inj answers).1

theorem step_with_inputs (s : Session Script) (ys : List Word)
    (alike : Alike (requests [s]).length s.host.console.inputs ys) :
    (s.withInputs ys).step = s.step.withInputs (ys.drop (requests [s]).length) := by
  rw [← step_answers_length] at alike ⊢
  have conducted :=
    s.machine.step.conduct_with_inputs s.machine.step_traced s.host ys alike
  exact congrArg (fun result => Session.mk result.1 result.2) conducted

-- How the inputs stand in the course of some steps: at each, those are left that the questions
-- before it did not take, and so they are at the end.
structure Delivers (xs : List Word) (stepped : List (Session Script)) (final : Session Script) :
    Prop where
  unread : ∀ before now after, stepped = before ++ now :: after →
    now.host.console.inputs = xs.drop (requests before).length
  left : final.host.console.inputs = xs.drop (requests stepped).length

theorem delivers_nothing (s final : Session Script)
    (same : final.host.console = s.host.console) : Delivers s.host.console.inputs [] final where
  unread before now after split := by simp at split
  left := congrArg Script.inputs same

theorem delivers_step (s : Session Script) : Delivers s.host.console.inputs [s] s.step where
  unread before now after split := by
    cases before with
    | nil =>
        cases split
        rfl
    | cons first before => simp at split
  left := step_unread s

theorem delivers_append (xs : List Word) (first second : List (Session Script))
    (middle final : Session Script) (left : Delivers xs first middle)
    (right : Delivers middle.host.console.inputs second final) :
    Delivers xs (first ++ second) final where
  unread before now after split := by
    rcases List.append_eq_append_iff.mp split with ⟨more, rfl, onward⟩ | ⟨more, rfl, onward⟩
    · rw [right.unread more now after onward, left.left, List.drop_drop, requests_append,
        List.length_append]
    · cases more with
      | nil =>
          rw [right.unread [] now after onward.symm, left.left, List.append_nil]
          rfl
      | cons head rest =>
          cases onward
          exact left.unread before now rest rfl
  left := by
    rw [right.left, left.left, List.drop_drop, requests_append, List.length_append]

theorem delivers_track (k : Nat) (s : Session Script) :
    Delivers s.host.console.inputs (s.track k) (s.stepN k) := by
  induction k generalizing s with
  | zero => exact delivers_nothing s s rfl
  | succ k ih => exact delivers_append _ [s] _ s.step _ (delivers_step s) (ih s.step)

def Matches (taken stepped : List (Session Script)) : Prop :=
  taken.map (withInputs []) = stepped.map (withInputs [])

theorem matches_append (first second first' second' : List (Session Script))
    (left : Matches first first') (right : Matches second second') :
    Matches (first ++ second) (first' ++ second') := by
  rw [Matches, List.map_append, List.map_append, left, right]

theorem requests_track (k : Nat) (s : Session Script) :
    requests (s.track (k + 1)) = requests [s] ++ requests (s.step.track k) :=
  requests_append [s] (s.step.track k)

theorem alike_track (k : Nat) (s : Session Script) (ys : List Word)
    (alike : Alike (requests (s.track (k + 1))).length s.host.console.inputs ys) :
    Alike (requests [s]).length s.host.console.inputs ys ∧
      Alike (requests (s.step.track k)).length s.step.host.console.inputs
        (ys.drop (requests [s]).length) := by
  rw [requests_track, List.length_append, alike_add, ← step_unread] at alike
  exact alike

theorem track_with_inputs (k : Nat) (s : Session Script) (ys : List Word)
    (alike : Alike (requests (s.track k)).length s.host.console.inputs ys) :
    (s.withInputs ys).stepN k =
        (s.stepN k).withInputs (ys.drop (requests (s.track k)).length) ∧
      Matches ((s.withInputs ys).track k) (s.track k) := by
  induction k generalizing s ys with
  | zero => exact ⟨rfl, rfl⟩
  | succ k ih =>
      obtain ⟨first, onward⟩ := alike_track k s ys alike
      obtain ⟨ended, tracked⟩ := ih s.step _ onward
      rw [← step_with_inputs s ys first] at ended tracked
      refine ⟨?_, matches_append [s.withInputs ys] _ [s] _ rfl tracked⟩
      apply ended.trans
      rw [requests_track, List.length_append, List.drop_drop]
      rfl

theorem stops_with_inputs (n : Nat) (s : Session Script) (ys : List Word)
    (alike : Alike (requests (s.track n)).length s.host.console.inputs ys)
    (stops : s.StopsAfter n) : (s.withInputs ys).StopsAfter n := by
  induction n generalizing s ys with
  | zero => exact absurd stops.1 (Nat.lt_irrefl 0)
  | succ n ih =>
      obtain ⟨first, onward⟩ := alike_track n s ys alike
      have stepped := step_with_inputs s ys first
      have status : (s.withInputs ys).step.machine.status = s.step.machine.status := by
        rw [stepped]
        rfl
      by_cases running : s.step.machine.status = .ok
      · apply (stops_after_succ n _ (status.trans running)).mpr
        rw [stepped]
        exact ih s.step _ onward ((stops_after_succ n s running).mp stops)
      · have last := (stops_after_one (n + 1) s running).mp stops
        exact (stops_after_one (n + 1) _ (status ▸ running)).mpr last

section Operations

variable {κ : Type} [Console κ]

inductive Takes : Operation → Session κ → List (Session κ) → Prop
  | step (s : Session κ) : Takes .step s [s]
  | run (n : Nat) (s : Session κ) (stops : s.StopsAfter n) : Takes .run s (s.track n)
  | quiet (operation : Operation) (s : Session κ)
      (other : operation ≠ .step ∧ operation ≠ .run) : Takes operation s []

inductive Course : List Operation → Session κ → List (Session κ) → Session κ → Prop
  | done (s : Session κ) : Course [] s [] s
  | perform (operation : Operation) (later : List Operation) (s middle final : Session κ)
      (stepped onward : List (Session κ)) (performed : Performs operation s middle)
      (takes : Takes operation s stepped) (course : Course later middle onward final) :
      Course (operation :: later) s (stepped ++ onward) final

theorem performs_unique (operation : Operation) (s first second : Session κ)
    (performed : Performs operation s first) (again : Performs operation s second) :
    first = second := by
  cases performed with
  | run limit _ _ ended =>
      cases again with
      | run limit' _ _ ended' =>
          obtain ⟨n, -, stops, rfl⟩ := (run_for_iff limit s first).mp ended
          obtain ⟨k, -, stops', rfl⟩ := (run_for_iff limit' s second).mp ended'
          rw [stops_after_unique n k s stops stops']
  | restart | reset | load | loadSource | step | setTrace | toggleTrace =>
      cases again
      rfl

theorem takes_unique (operation : Operation) (s : Session κ) (first second : List (Session κ))
    (takes : Takes operation s first) (again : Takes operation s second) : first = second := by
  cases takes with
  | step =>
      cases again with
      | step => rfl
      | quiet _ _ other => exact absurd rfl other.1
  | run n _ stops =>
      cases again with
      | run k _ stops' => rw [stops_after_unique n k s stops stops']
      | quiet _ _ other => exact absurd rfl other.2
  | quiet _ _ other =>
      cases again with
      | step => exact absurd rfl other.1
      | run => exact absurd rfl other.2
      | quiet => rfl

theorem course_unique (operations : List Operation) (s first second : Session κ)
    (stepped stepped' : List (Session κ)) (course : Course operations s stepped first)
    (again : Course operations s stepped' second) : stepped = stepped' ∧ first = second := by
  induction course generalizing stepped' with
  | done s =>
      cases again
      exact ⟨rfl, rfl⟩
  | perform operation later s middle first stepped onward performed takes _ ih =>
      cases again with
      | perform _ _ _ middle' _ taken onward' performed' takes' course' =>
          cases performs_unique operation s middle middle' performed performed'
          cases takes_unique operation s stepped taken takes takes'
          obtain ⟨rfl, same⟩ := ih onward' course'
          exact ⟨rfl, same⟩

end Operations

theorem with_inputs_map (s : Session Script) (ys : List Word) :
    s.withInputs ys = s.map fun console : Script => { console with inputs := ys } := rfl

theorem load_with_inputs (p : Program) (s : Session Script) (ys : List Word) :
    ((s.withInputs ys).load p).2 = (s.load p).2.withInputs ys := by
  rw [with_inputs_map, load_map, with_inputs_map]

theorem load_source_with_inputs (source : String) (s : Session Script) (ys : List Word) :
    ((s.withInputs ys).loadSource source).2 = (s.loadSource source).2.withInputs ys := by
  rw [with_inputs_map, load_source_map, with_inputs_map]

-- The operations that step nothing leave the console as it is, and the inputs do not matter to them.
theorem quiet_performs (operation : Operation) (s after : Session Script)
    (quiet : operation ≠ .step ∧ operation ≠ .run) (performed : Performs operation s after) :
    after.host.console = s.host.console ∧
      ∀ ys, Performs operation (s.withInputs ys) (after.withInputs ys) := by
  cases performed with
  | restart cleared => exact ⟨rfl, fun ys => .restart cleared (s.withInputs ys)⟩
  | reset => exact ⟨rfl, fun ys => .reset (s.withInputs ys)⟩
  | load p =>
      refine ⟨load_console p s, fun ys => ?_⟩
      rw [← load_with_inputs]
      exact .load p (s.withInputs ys)
  | loadSource source =>
      refine ⟨load_source_console source s, fun ys => ?_⟩
      rw [← load_source_with_inputs]
      exact .loadSource source (s.withInputs ys)
  | step => exact absurd rfl quiet.1
  | run => exact absurd rfl quiet.2
  | setTrace on => exact ⟨rfl, fun ys => .setTrace on (s.withInputs ys)⟩
  | toggleTrace => exact ⟨rfl, fun ys => .toggleTrace (s.withInputs ys)⟩

theorem performs_delivers (operation : Operation) (s after : Session Script)
    (stepped : List (Session Script)) (performed : Performs operation s after)
    (takes : Takes operation s stepped) : Delivers s.host.console.inputs stepped after := by
  cases takes with
  | step =>
      cases performed
      exact delivers_step s
  | run n _ stops =>
      cases performed with
      | run limit _ _ ended =>
          obtain ⟨k, -, stops', rfl⟩ := (run_for_iff limit s after).mp ended
          rw [stops_after_unique n k s stops stops']
          exact delivers_track k s
  | quiet _ _ other =>
      have console := (quiet_performs operation s after other performed).1
      exact delivers_nothing s after console

theorem performs_with_inputs (operation : Operation) (s after : Session Script)
    (stepped : List (Session Script)) (ys : List Word) (performed : Performs operation s after)
    (takes : Takes operation s stepped)
    (alike : Alike (requests stepped).length s.host.console.inputs ys) :
    ∃ taken, Performs operation (s.withInputs ys)
        (after.withInputs (ys.drop (requests stepped).length)) ∧
      Takes operation (s.withInputs ys) taken ∧ Matches taken stepped := by
  cases takes with
  | step =>
      cases performed
      refine ⟨[s.withInputs ys], ?_, .step _, rfl⟩
      rw [← step_with_inputs s ys alike]
      exact .step _
  | run n _ stops =>
      cases performed with
      | run limit _ _ ended =>
          obtain ⟨k, within, stops', rfl⟩ := (run_for_iff limit s after).mp ended
          cases stops_after_unique n k s stops stops'
          obtain ⟨same, tracked⟩ := track_with_inputs n s ys alike
          have again := stops_with_inputs n s ys alike stops
          refine ⟨(s.withInputs ys).track n, ?_, .run n _ again, tracked⟩
          rw [← same]
          exact .run limit _ _ ((run_for_iff limit _ _).mpr ⟨n, within, again, rfl⟩)
  | quiet _ _ other =>
      have same := (quiet_performs operation s after other performed).2 ys
      exact ⟨[], same, .quiet operation _ other, rfl⟩

theorem course_delivers (operations : List Operation) (s final : Session Script)
    (stepped : List (Session Script)) (course : Course operations s stepped final) :
    Delivers s.host.console.inputs stepped final := by
  induction course with
  | done s => exact delivers_nothing s s rfl
  | perform operation later s middle final stepped onward performed takes _ ih =>
      have first := performs_delivers operation s middle stepped performed takes
      exact delivers_append _ stepped onward middle final first ih

theorem course_with_inputs (operations : List Operation) (s final : Session Script)
    (stepped : List (Session Script)) (course : Course operations s stepped final)
    (ys : List Word) (alike : Alike (requests stepped).length s.host.console.inputs ys) :
    ∃ taken, Course operations (s.withInputs ys) taken
        (final.withInputs (ys.drop (requests stepped).length)) ∧ Matches taken stepped := by
  induction course generalizing ys with
  | done s => exact ⟨[], .done _, rfl⟩
  | perform operation later s middle final stepped onward performed takes _ ih =>
      rw [requests_append, List.length_append] at alike ⊢
      obtain ⟨first, rest⟩ := (alike_add _ _ _ _).mp alike
      rw [← (performs_delivers operation s middle stepped performed takes).left] at rest
      obtain ⟨taken, performs, takes', same⟩ :=
        performs_with_inputs operation s middle stepped ys performed takes first
      obtain ⟨taken', course', same'⟩ := ih _ rest
      rw [List.drop_drop] at course'
      exact ⟨taken ++ taken', .perform _ _ _ _ _ _ _ performs takes' course',
        matches_append _ _ _ _ same same'⟩

-- With these inputs the operations do the same: they step sessions that are no different but for
-- their inputs, and end in one that is no different but for what is left.
def Indifferent (operations : List Operation) (s final : Session Script)
    (stepped : List (Session Script)) (ys : List Word) : Prop :=
  ∃ taken, Matches taken stepped ∧ ∀ other last,
    Course operations (s.withInputs ys) other last ↔
      other = taken ∧ last = final.withInputs (ys.drop (requests stepped).length)

theorem course_indifferent (operations : List Operation) (s final : Session Script)
    (stepped : List (Session Script)) (course : Course operations s stepped final)
    (ys : List Word) (alike : Alike (requests stepped).length s.host.console.inputs ys) :
    Indifferent operations s final stepped ys := by
  obtain ⟨taken, again, same⟩ := course_with_inputs operations s final stepped course ys alike
  refine ⟨taken, same, fun other last => ⟨?_, ?_⟩⟩
  · intro found
    exact course_unique _ _ _ _ _ _ found again
  · rintro ⟨rfl, rfl⟩
    exact again

end Session

theorem inputs_delivered_in_order (operations : List Operation) (s final : Session Script)
    (stepped : List (Session Script)) (course : Session.Course operations s stepped final) :
    let xs := s.host.console.inputs
    let m := (Session.requests stepped).length
    (∀ before now after, stepped = before ++ now :: after →
      now.host.console.inputs = xs.drop (Session.requests before).length ∧
      ∀ r, now.machine.input? = some r →
        now.step.machine.get r = xs.getD (Session.requests before).length 0) ∧
    final.host.console.inputs = xs.drop m ∧
    (∀ ys, Alike m xs ys → Session.Indifferent operations s final stepped ys) ∧
    (∀ k, Session.Indifferent operations s final stepped (xs ++ List.replicate k 0)) ∧
    ∀ more, Session.Indifferent operations s final stepped (List.takeD m xs 0 ++ more) := by
  intro xs m
  have delivers := Session.course_delivers operations s final stepped course
  have indifferent := Session.course_indifferent operations s final stepped course
  refine ⟨?_, delivers.left, indifferent, ?_, ?_⟩
  · intro before now after split
    have unread := delivers.unread before now after split
    refine ⟨unread, fun r asks => ?_⟩
    rw [Session.step_takes_next now r asks, unread, List.headD_eq_head?_getD, List.head?_drop,
      List.getD_eq_getElem?_getD]
  · intro k
    exact indifferent _ (alike_zeros m k xs)
  · intro more
    exact indifferent _ (alike_beyond m xs more)

theorem delivery_across_a_fault :
    let program : Program := [.registers .input 1 0 0, .registers .input 2 0 0,
      .registers .div 3 1 0]
    let operations : List Operation := [.load program, .run, .step, .reset, .step, .step, .step]
    let s := Session.start { size := 4 } ({ inputs := [5, 6, 7] } : Script)
    let loaded := (s.load program).2
    let faulted := loaded.stepN 3
    let again := faulted.step.reset
    let final := again.stepN 3
    let stepped := loaded.track 3 ++ [faulted] ++ again.track 3
    Session.Course operations s stepped final ∧ (Session.requests stepped).length = 4 ∧
      faulted.machine.status = .divideByZero ∧ final.host.console.inputs = [] ∧
      again.step.machine.get 1 = 7 ∧ again.step.step.machine.get 2 = 0 ∧
      Session.Indifferent operations s final stepped [5, 6, 7, 0, 9] := by
  intro program operations s loaded faulted again final stepped
  have stops : loaded.StopsAfter 3 := by
    have running : ∀ i < 3, (loaded.stepN i).machine.status = .ok := by decide
    exact ⟨by decide, by decide, fun i _ before => running i before⟩
  have ran : Session.Performs .run loaded faulted :=
    .run 3 _ _ ((Session.run_for_iff 3 loaded faulted).mpr ⟨3, Nat.le.refl, stops, rfl⟩)
  have course : Session.Course operations s stepped final :=
    .perform _ _ _ _ _ [] _ (.load program s) (.quiet _ _ (by simp))
      (.perform _ _ _ _ _ _ _ ran (.run 3 _ stops)
      (.perform _ _ _ _ _ _ _ (.step faulted) (.step _)
      (.perform _ _ _ _ _ [] _ (.reset faulted.step) (.quiet _ _ (by simp))
      (.perform _ _ _ _ _ _ _ (.step again) (.step _)
      (.perform _ _ _ _ _ _ _ (.step again.step) (.step _)
      (.perform _ _ _ _ _ _ _ (.step _) (.step _) (.done final)))))))
  have asked : (Session.requests stepped).length = 4 := by decide
  obtain ⟨delivered, left, -, -, beyond⟩ :=
    inputs_delivered_in_order operations s final stepped course
  rw [asked] at left beyond
  have two : (Session.requests (loaded.track 3 ++ [faulted])).length = 2 := by decide
  have three : (Session.requests (loaded.track 3 ++ [faulted, again])).length = 3 := by decide
  obtain ⟨-, third⟩ := delivered (loaded.track 3 ++ [faulted]) again (again.step.track 2) rfl
  obtain ⟨-, fourth⟩ := delivered (loaded.track 3 ++ [faulted, again]) again.step
    (again.step.step.track 1) rfl
  rw [two] at third
  rw [three] at fourth
  have seven := third 1 (by decide)
  have zero := fourth 2 (by decide)
  have stopped : faulted.machine.status = .divideByZero := by decide
  exact ⟨course, asked, stopped, left, seven, zero, beyond [9]⟩

end RegisterMachine
