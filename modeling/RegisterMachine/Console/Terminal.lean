import RegisterMachine.Console
import RegisterMachine.Console.Reading

set_option autoImplicit false

namespace RegisterMachine

inductive Output where
  | working
  | writeFails (error : String)
  | flushFails (error : String)
deriving DecidableEq, Repr

namespace Output

def writeError? : Output → Option String
  | .writeFails error => some error
  | _ => none

def promptError? : Output → Option String
  | .working => none
  | .writeFails error => some error
  | .flushFails error => some error

end Output

structure Terminal where
  unread : List UInt8
  written : String := ""
  output : Output := .working
deriving DecidableEq, Repr

namespace Terminal

def write (text : String) (terminal : Terminal) : Terminal :=
  match terminal.output.writeError? with
  | none => { terminal with written := terminal.written ++ text }
  | some _ => terminal

def report (line : String) (terminal : Terminal) : Terminal × List Event :=
  (terminal.write (line ++ "\n"), terminal.output.writeError?.toList.map .outputFailed)

-- Shows a prompt and reads a line; when the prompt fails, nothing is read.
def read (prompt : String) (terminal : Terminal) : Reading × Terminal :=
  let shown := terminal.write (prompt ++ ": ")
  match terminal.output.promptError? with
  | none =>
      let (line, rest) := Reading.splitLine terminal.unread
      (Reading.ofLine line, { shown with unread := rest })
  | some error => (.failed error, shown)

def ask (prompt : String) (default : Word) (terminal : Terminal) :
    Word × Terminal × List Event :=
  let (reading, terminal) := terminal.read prompt
  match reading.complaint? default with
  | none => (reading.answer default, terminal, reading.warnings)
  | some complaint =>
      let (terminal, warnings) := terminal.report complaint
      -- The complaint can fail as well, after the warning about the reading.
      (reading.answer default, terminal, reading.warnings ++ warnings)

instance : Console Terminal where
  report := report
  ask := ask

end Terminal

end RegisterMachine
