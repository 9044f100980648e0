import RegisterMachine.CommandLine

set_option autoImplicit false

namespace RegisterMachine

partial def readLine (input : IO.FS.Stream) (line : Array UInt8) : IO (List UInt8) := do
  let bytes ← input.read 1
  match bytes.toList with
  | [byte] => if byte = 10 then return (line.push byte).toList else readLine input (line.push byte)
  | _ => return line.toList

def Dialogue.converse {α : Type} : Dialogue α → IO α
  | .done result => return result
  | .report line next => do
    (← IO.getStdout).putStrLn line
    next.converse
  | .ask prompt default next => do
    let output ← IO.getStdout
    output.putStr (prompt ++ ": ")
    output.flush
    let reading := Reading.ofLine (← readLine (← IO.getStdin) #[])
    if let some complaint := reading.complaint? default then
      output.putStrLn complaint
    (next (reading.answer default)).converse
  | .log _ next => next.converse

partial def Machine.converse (m : Machine) : IO Machine := do
  let m ← m.step.converse
  if m.status.isOk then m.converse else return m

namespace CommandLine

def File.open (path : String) : IO File := do
  try
    return .content (← IO.FS.readBinFile path).toList
  catch
    | .noFileOrDirectory .. => return .missing
    | error => return .unreadable error.toString

def usage : String := "Usage: register-machine [--mem-size N] [--trace] [--] PROGRAM"

-- There is no library for logging here, so nothing of the log is shown.
def run (options : Options) : IO UInt32 := do
  match prepare .silent options (← File.open options.path) [] with
  | .error (failure, shown) =>
      IO.print shown
      IO.eprint failure.text
      return 1
  | .ok p =>
      IO.print p.terminal.written
      let m ← p.machine.converse
      IO.println (registerLine m.registers)
      return 0

end CommandLine

end RegisterMachine

open RegisterMachine.CommandLine in
def main (arguments : List String) : IO UInt32 := do
  match Options.parse? arguments (← IO.getEnv "TM_MEM_SIZE") with
  | some options => run options
  | none =>
      IO.eprintln usage
      return 2
