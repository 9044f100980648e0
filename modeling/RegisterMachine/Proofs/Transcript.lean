import RegisterMachine.Console.Script
import RegisterMachine.Proofs.Simulation

set_option autoImplicit false

namespace RegisterMachine

inductive Shown where
  | line (text : String)
  | prompt (text : String)
deriving DecidableEq, Repr

namespace Shown

def line? : Shown → Option String
  | .line text => some text
  | .prompt _ => none

def prompt? : Shown → Option String
  | .line _ => none
  | .prompt text => some text

def lines (shown : List Shown) : List String := shown.filterMap line?

def prompts (shown : List Shown) : List String := shown.filterMap prompt?

-- A prompt with no input left is followed by a complaint.
def text (left : Nat) : Shown → String
  | .line text => text ++ "\n"
  | .prompt text =>
      text ++ ": " ++ if left = 0 then "Error reading input. Returning default 0\n" else ""

def transcript (left : Nat) : List Shown → String
  | [] => ""
  | .line reported :: later => text left (.line reported) ++ transcript left later
  | .prompt asked :: later => text left (.prompt asked) ++ transcript (left - 1) later

@[simp] theorem prompts_line (reported : String) (later : List Shown) :
    prompts (.line reported :: later) = prompts later := rfl

@[simp] theorem prompts_prompt (asked : String) (later : List Shown) :
    prompts (.prompt asked :: later) = asked :: prompts later := rfl

theorem lines_append (first second : List Shown) :
    lines (first ++ second) = lines first ++ lines second :=
  List.filterMap_append

theorem prompts_append (first second : List Shown) :
    prompts (first ++ second) = prompts first ++ prompts second :=
  List.filterMap_append

theorem lines_append_line (shown : List Shown) (reported : String) :
    lines (shown ++ [.line reported]) = lines shown ++ [reported] :=
  lines_append shown [.line reported]

theorem lines_append_prompt (shown : List Shown) (asked : String) :
    lines (shown ++ [.prompt asked]) = lines shown :=
  (lines_append shown [.prompt asked]).trans (List.append_nil _)

theorem prompts_append_line (shown : List Shown) (reported : String) :
    prompts (shown ++ [.line reported]) = prompts shown :=
  (prompts_append shown [.line reported]).trans (List.append_nil _)

theorem prompts_append_prompt (shown : List Shown) (asked : String) :
    prompts (shown ++ [.prompt asked]) = prompts shown ++ [asked] :=
  prompts_append shown [.prompt asked]

theorem transcript_append (left : Nat) (shown : List Shown) (latest : Shown) :
    transcript left (shown ++ [latest]) =
      transcript left shown ++ latest.text (left - (prompts shown).length) := by
  induction shown generalizing left with
  | nil => cases latest <;> simp [transcript, prompts]
  | cons first later ih =>
      cases first with
      | line reported =>
          rw [List.cons_append, transcript, transcript, ih, prompts_line, String.append_assoc]
      | prompt asked =>
          have count : left - (asked :: prompts later).length =
              left - 1 - (prompts later).length := by
            rw [List.length_cons]
            omega
          rw [List.cons_append, transcript, transcript, ih, prompts_prompt, count,
            String.append_assoc]

end Shown

structure Recorder (κ : Type) where
  console : κ
  shown : List Shown := []
deriving Repr

instance {κ : Type} [Console κ] : Console (Recorder κ) where
  report line recorder :=
    let (console, warnings) := Console.report line recorder.console
    ({ console, shown := recorder.shown ++ [.line line] }, warnings)
  ask prompt default recorder :=
    let (answer, console, warnings) := Console.ask prompt default recorder.console
    (answer, { console, shown := recorder.shown ++ [.prompt prompt] }, warnings)

-- The recorded script behaves as if it were on its own, and all that it keeps is in the record.
structure Records (left : Host (Recorder Script)) (right : Host Script) : Prop where
  console : left.console.console = right.console
  lines : right.console.lines.toList = Shown.lines left.console.shown
  prompts : right.console.prompts.toList = Shown.prompts left.console.shown

theorem records_report (left : Host (Recorder Script)) (right : Host Script) (line : String)
    (records : Records left right) : Records (left.report line) (right.report line) where
  console := congrArg (Script.report line) records.console
  lines := by
    change (right.console.lines.push line).toList = Shown.lines (left.console.shown ++ [.line line])
    rw [Array.toList_push, records.lines, Shown.lines_append_line]
  prompts := by
    change right.console.prompts.toList = Shown.prompts (left.console.shown ++ [.line line])
    rw [records.prompts, Shown.prompts_append_line]

theorem records_ask (left : Host (Recorder Script)) (right : Host Script) (prompt : String)
    (default : Word) (records : Records left right) :
    (left.ask prompt default).1 = (right.ask prompt default).1 ∧
      Records (left.ask prompt default).2 (right.ask prompt default).2 := by
  have asked := congrArg (Script.ask prompt default) records.console
  refine ⟨congrArg Prod.fst asked, congrArg Prod.snd asked, ?_, ?_⟩
  · change right.console.lines.toList = Shown.lines (left.console.shown ++ [.prompt prompt])
    rw [records.lines, Shown.lines_append_prompt]
  · change (right.console.prompts.push prompt).toList =
      Shown.prompts (left.console.shown ++ [.prompt prompt])
    rw [Array.toList_push, records.prompts, Shown.prompts_append_prompt]

theorem records_simulation (v : Vocabulary) : Simulation v Records where
  report line left right _ records := records_report left right line records
  ask prompt default left right _ records := records_ask left right prompt default records
  note _ _ _ records := ⟨records.console, records.lines, records.prompts⟩

end RegisterMachine
