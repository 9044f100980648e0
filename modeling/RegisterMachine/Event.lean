import RegisterMachine.Instruction
import RegisterMachine.Status

set_option autoImplicit false

namespace RegisterMachine

inductive Event where
  | restarted (capacity : Nat) (cleared : Bool)
  | loaded (instructions : Nat)
  | executing (pc : Word) (instruction : Instruction)
  | stopped (status : Status) (pc : Word)
  | outputFailed (error : String)
  | inputFailed (error : String)
deriving DecidableEq, Repr

def Event.text : Event → String
  | .restarted capacity cleared =>
      "DEBUG machine initialized capacity=" ++ capacity.repr ++ " clear_program=" ++
        (if cleared then "true" else "false")
  | .loaded instructions => "INFO program loaded instructions=" ++ instructions.repr
  | .executing pc instruction =>
      "DEBUG executing pc=" ++ pc.text ++ " instruction=" ++ instruction.text
  | .stopped .halted pc => "INFO machine halted pc=" ++ pc.text
  | .stopped status pc => "WARN machine faulted state=" ++ status.name ++ " pc=" ++ pc.text
  | .outputFailed error => "WARN failed to write console output err=" ++ error
  | .inputFailed error => "WARN failed to read console input err=" ++ error

end RegisterMachine
