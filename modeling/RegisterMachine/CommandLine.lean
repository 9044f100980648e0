import RegisterMachine.CommandLine.Options
import RegisterMachine.Console.Terminal
import RegisterMachine.Session

set_option autoImplicit false

namespace RegisterMachine

def DecodeError.causes (e : DecodeError) : List String :=
  match e with
  | .invalidArguments _ _ reason => [e.message, reason.message]
  | _ => [e.message]

def LoadError.causes (e : LoadError) : List String :=
  match e with
  | .decode _ _ cause => e.message :: cause.causes
  | .tooLarge _ _ => [e.message]

namespace CommandLine

inductive File where
  | missing
  | unreadable (error : String)
  | content (bytes : List UInt8)
deriving DecidableEq, Repr

inductive Failure where
  | capacity (cause : CapacityError)
  | reading (path cause : String)
  | loading (path : String) (cause : LoadError)
deriving DecidableEq, Repr

def File.read : File → Except String String
  | .missing => .error "No such file or directory (os error 2)"
  | .unreadable error => .error error
  | .content bytes =>
      match String.fromUTF8? bytes.toByteArray with
      | some text => .ok text
      | none => .error "stream did not contain valid UTF-8"

namespace Failure

def headline : Failure → String
  | .capacity cause => cause.message
  | .reading path _ => "reading program from " ++ path
  | .loading path _ => "loading program from " ++ path

def causes : Failure → List String
  | .capacity _ => []
  | .reading _ cause => [cause]
  | .loading _ cause => cause.causes

def causeLines : List String → List String
  | [cause] => ["    " ++ cause]
  | causes => causes.mapIdx fun i cause => "    " ++ i.repr ++ ": " ++ cause

def text (failure : Failure) : String :=
  let headline := "Error: " ++ failure.headline ++ "\n"
  match failure.causes with
  | [] => headline
  | causes => headline ++ "\nCaused by:\n" ++ String.join ((causeLines causes).map (· ++ "\n"))

end Failure

structure Outcome where
  exitCode : Nat
  stdout : String
  stderr : String
deriving DecidableEq, Repr

-- What is shown of an event on the standard output, which is that of the terminal.
abbrev Logger := Event → String

def Logger.silent : Logger := fun _ => ""

structure Subscriber where
  accepts : String → Bool
  shows : String → Logger

-- The directives are in a variable of the environment. Without any that are accepted, warnings are
-- shown and nothing below them.
def Subscriber.logger (subscriber : Subscriber) (directives? : Option String) : Logger :=
  subscriber.shows ((directives?.filter subscriber.accepts).getD "warn")

end CommandLine

namespace Terminal

open CommandLine

def log (logger : Logger) (events : List Event) (terminal : Terminal) : Terminal :=
  events.foldl (fun terminal event => terminal.write (logger event)) terminal

def reportLogging (logger : Logger) (line : String) (terminal : Terminal) : Terminal :=
  let (terminal, warnings) := terminal.report line
  terminal.log logger warnings

def askLogging (logger : Logger) (prompt : String) (default : Word) (terminal : Terminal) :
    Word × Terminal :=
  let (reading, terminal) := terminal.read prompt
  let terminal := terminal.log logger reading.warnings
  match reading.complaint? default with
  | none => (reading.answer default, terminal)
  | some complaint => (reading.answer default, terminal.reportLogging logger complaint)

end Terminal

def Dialogue.perform {α : Type} (logger : CommandLine.Logger) :
    Dialogue α → Terminal → α × Terminal
  | .done result, terminal => (result, terminal)
  | .report line next, terminal => next.perform logger (terminal.reportLogging logger line)
  | .ask prompt default next, terminal =>
      let (answer, terminal) := terminal.askLogging logger prompt default
      (next answer).perform logger terminal
  | .log event next, terminal => next.perform logger (terminal.log logger [event])

namespace CommandLine

structure Process where
  machine : Machine
  terminal : Terminal

namespace Process

def step (logger : Logger) (p : Process) : Process :=
  let (machine, terminal) := p.machine.step.perform logger p.terminal
  { machine, terminal }

def runFor (logger : Logger) : Nat → Process → Option Process
  | 0, _ => none
  | limit + 1, p =>
      let p := p.step logger
      if p.machine.status.isOk then runFor logger limit p else some p

end Process

def greeting (path : String) : String := "Reading program from " ++ path

def registerField (index : Nat) (w : Word) : String :=
  index.repr ++ ": " ++ String.ofList (Numeral.writePadded 11 w.toInt)

def registerLine (registers : Vector Word 8) : String :=
  "  ".intercalate (registers.toList.mapIdx registerField)

def prepare (logger : Logger) (options : Options) (file : File) (stdin : List UInt8) :
    Except (Failure × String) Process :=
  match Capacity.ofNat options.size with
  | .error cause => .error (.capacity cause, "")
  | .ok capacity =>
      match file.read with
      | .error cause => .error (.reading options.path cause, "")
      | .ok source =>
          let fresh := Session.start capacity ()
          let terminal := ({ unread := stdin } : Terminal).log logger fresh.host.log.toList
          let terminal := terminal.reportLogging logger (greeting options.path)
          let bare : Session Unit := { fresh with host := { console := () } }
          let (result, loaded) := bare.loadSource source
          let terminal := terminal.log logger loaded.host.log.toList
          match result with
          | .error cause => .error (.loading options.path cause, terminal.written)
          | .ok _ => .ok { machine := loaded.machine.setTrace options.trace, terminal }

def finish (logger : Logger) (p : Process) : Outcome where
  exitCode := 0
  stdout := (p.terminal.reportLogging logger (registerLine p.machine.registers)).written
  stderr := ""

-- The whole run, if it ends within `limit` steps of the machine.
def executeLogging (logger : Logger) (limit : Nat) (options : Options) (file : File)
    (stdin : List UInt8) : Option Outcome :=
  match prepare logger options file stdin with
  | .error (failure, stdout) => some { exitCode := 1, stdout, stderr := failure.text }
  | .ok p => (p.runFor logger limit).map (finish logger)

def execute : Nat → Options → File → List UInt8 → Option Outcome := executeLogging .silent

-- The logger is set up first, before the arguments are looked at.
def executeUnder (subscriber : Subscriber) (directives? : Option String) :
    Nat → Options → File → List UInt8 → Option Outcome :=
  executeLogging (subscriber.logger directives?)

end CommandLine

end RegisterMachine
