import RegisterMachine.Console.Terminal
import RegisterMachine.Proofs.Transcript
import RegisterMachine.Proofs.TypedInput

set_option autoImplicit false

namespace RegisterMachine

open Text

namespace Terminal

theorem report_working (terminal : Terminal) (line : String)
    (working : terminal.output = .working) :
    terminal.report line = ({ terminal with written := terminal.written ++ (line ++ "\n") }, []) := by
  rw [report, write, working]
  rfl

theorem report_unread (terminal : Terminal) (line : String) :
    (terminal.report line).1.unread = terminal.unread := by
  rw [report, write]
  cases terminal.output.writeError? <;> rfl

theorem read_working (terminal : Terminal) (prompt : String)
    (working : terminal.output = .working) :
    terminal.read prompt =
      (Reading.ofLine (Reading.splitLine terminal.unread).1,
        { terminal with
          written := terminal.written ++ (prompt ++ ": ")
          unread := (Reading.splitLine terminal.unread).2 }) := by
  rw [read, write, working]
  rfl

theorem ask_number (terminal : Terminal) (prompt : String) (default w : Word)
    (line rest : List UInt8) (working : terminal.output = .working)
    (split : Reading.splitLine terminal.unread = (line, rest))
    (number : Reading.ofLine line = .number w) :
    terminal.ask prompt default =
      (w, { terminal with written := terminal.written ++ (prompt ++ ": "), unread := rest }, []) := by
  rw [ask, read_working terminal prompt working, split, number]
  rfl

theorem ask_end_of_input (terminal : Terminal) (prompt : String) (default : Word)
    (working : terminal.output = .working) (finished : terminal.unread = []) :
    terminal.ask prompt default =
      (default,
        { terminal with
          written := terminal.written ++ (prompt ++ ": ") ++
            ("Error reading input. Returning default " ++ default.text ++ "\n") }, []) := by
  obtain ⟨_, written, _⟩ := terminal
  cases working
  cases finished
  rfl

theorem ask_typed (terminal : Terminal) (prompt : String) (inputs : List Word) (text : List Char)
    (working : terminal.output = .working) (unread : terminal.unread = utf8 text)
    (typed : OnLines (inputs.map Word.write) text) :
    ∃ rest, OnLines (inputs.tail.map Word.write) rest ∧
      terminal.ask prompt 0 =
        (inputs.headD 0,
          { terminal with
            written := terminal.written ++ (Shown.prompt prompt).text inputs.length
            unread := utf8 rest }, []) := by
  cases inputs with
  | nil =>
      cases typed
      refine ⟨[], .empty, ?_⟩
      rw [ask_end_of_input terminal prompt 0 working unread, String.append_assoc]
      obtain ⟨_, written, _⟩ := terminal
      cases unread
      rfl
  | cons w later =>
      obtain ⟨line, rest, split, number, onward⟩ := Reading.typed_word w later text typed
      rw [← unread] at split
      have more : (w :: later).length ≠ 0 := Nat.succ_ne_zero later.length
      refine ⟨rest, onward, ?_⟩
      rw [ask_number terminal prompt 0 w line (utf8 rest) working split number, Shown.text,
        if_neg more, String.append_empty]
      rfl

end Terminal

-- The words that are left stand on the lines that are left.
structure TypedAlong (inputs : List Word) (left : Host (Recorder Script)) (right : Host Terminal) :
    Prop where
  working : right.console.output = .working
  remaining : left.console.console.inputs = inputs.drop (Shown.prompts left.console.shown).length
  typed : ∃ text, OnLines (left.console.console.inputs.map Word.write) text ∧
    right.console.unread = utf8 text
  written : right.console.written = Shown.transcript inputs.length left.console.shown

theorem typed_along_report (inputs : List Word) (left : Host (Recorder Script))
    (right : Host Terminal) (line : String) (along : TypedAlong inputs left right) :
    TypedAlong inputs (left.report line) (right.report line) := by
  have shown : (left.report line).console.shown = left.console.shown ++ [.line line] := rfl
  have reported : (right.report line).console =
      { right.console with written := right.console.written ++ (line ++ "\n") } :=
    congrArg Prod.fst (right.console.report_working line along.working)
  refine ⟨?_, ?_, ?_, ?_⟩
  · rw [reported]
    exact along.working
  · rw [shown, Shown.prompts_append_line]
    exact along.remaining
  · rw [reported]
    exact along.typed
  · rw [reported, shown, Shown.transcript_append, along.written]
    rfl

theorem typed_along_ask (inputs : List Word) (left : Host (Recorder Script))
    (right : Host Terminal) (prompt : String) (along : TypedAlong inputs left right) :
    (left.ask prompt 0).1 = (right.ask prompt 0).1 ∧
      TypedAlong inputs (left.ask prompt 0).2 (right.ask prompt 0).2 := by
  obtain ⟨text, typed, unread⟩ := along.typed
  obtain ⟨rest, onward, answered⟩ :=
    right.console.ask_typed prompt left.console.console.inputs text along.working unread typed
  have asked := congrArg (fun result => result.2.1) answered
  have shown : (left.ask prompt 0).2.console.shown = left.console.shown ++ [.prompt prompt] := rfl
  have consumed : (left.ask prompt 0).2.console.console.inputs =
      left.console.console.inputs.tail := rfl
  have count : left.console.console.inputs.length =
      inputs.length - (Shown.prompts left.console.shown).length := by
    rw [along.remaining, List.length_drop]
  refine ⟨(congrArg Prod.fst answered).symm, ?_, ?_, ?_, ?_⟩
  · exact (congrArg Terminal.output asked).trans along.working
  · rw [consumed, shown, Shown.prompts_append_prompt, List.length_append, List.length_singleton,
      ← List.tail_drop, ← along.remaining]
  · rw [consumed]
    exact ⟨rest, onward, congrArg Terminal.unread asked⟩
  · apply (congrArg Terminal.written asked).trans
    rw [shown, Shown.transcript_append, ← along.written, ← count]

theorem typed_along_simulation (inputs : List Word) :
    Simulation Machine.traced (TypedAlong inputs) where
  report line left right _ along := typed_along_report inputs left right line along
  ask prompt default left right question along := by
    obtain ⟨rfl, _⟩ := question
    exact typed_along_ask inputs left right prompt along
  note _ _ _ along := ⟨along.working, along.remaining, along.typed, along.written⟩

theorem typed_along_start (inputs : List Word) (text : List Char)
    (typed : OnLines (inputs.map Word.write) text) :
    TypedAlong inputs { console := { console := { inputs } } }
      { console := { unread := utf8 text } } where
  working := rfl
  remaining := rfl
  typed := ⟨text, typed, rfl⟩
  written := rfl

-- The record beside the script keeps the order in which lines and prompts were shown.
theorem terminal_agrees_with_script (m : Machine) (inputs : List Word) (text : List Char)
    (typed : OnLines (inputs.map Word.write) text) (k : Nat) :
    let scripted := (Session.of m ({ inputs } : Script)).stepN k
    let recorded := (Session.of m ({ console := { inputs } } : Recorder Script)).stepN k
    let terminal := (Session.of m ({ unread := utf8 text } : Terminal)).stepN k
    let shown := recorded.host.console.shown
    terminal.machine = scripted.machine ∧ recorded.machine = scripted.machine ∧
      scripted.host.console.lines.toList = Shown.lines shown ∧
      scripted.host.console.prompts.toList = Shown.prompts shown ∧
      terminal.host.console.written = Shown.transcript inputs.length shown := by
  obtain ⟨kept, records⟩ := Session.step_n_related Records (records_simulation Machine.traced) k
    (Session.of m { console := { inputs } }) (Session.of m { inputs }) rfl ⟨rfl, rfl, rfl⟩
  obtain ⟨same, along⟩ := Session.step_n_related (TypedAlong inputs) (typed_along_simulation inputs)
    k (Session.of m { console := { inputs } }) (Session.of m { unread := utf8 text }) rfl
    (typed_along_start inputs text typed)
  refine ⟨?_, kept, records.lines, records.prompts, along.written⟩
  exact same.symm.trans kept

theorem terminal_agrees_past_last_word :
    let program : Program := [.registers .input 1 0 0, .registers .input 2 0 0,
      .registers .output 1 0 0]
    let m := ((Machine.start { size := 4 }).load program).2
    let text := ['-', '7', '\r', '\n']
    OnLines ([(-7 : Word)].map Word.write) text ∧
      ((Session.of m ({ unread := utf8 text } : Terminal)).stepN 3).machine =
        ((Session.of m ({ inputs := [-7] } : Script)).stepN 3).machine ∧
      ((Session.of m ({ unread := utf8 text } : Terminal)).stepN 3).host.console.written =
        "Enter number to store in register 1: Enter number to store in register 2: " ++
          "Error reading input. Returning default 0\n-7\n" := by
  intro program m text
  have typed : OnLines ([(-7 : Word)].map Word.write) text := .ended _ _ _ _ .returnFeed .empty
  obtain ⟨same, -, -, -, written⟩ := terminal_agrees_with_script m [-7] text typed 3
  refine ⟨typed, same, ?_⟩
  rw [written]
  decide

end RegisterMachine
