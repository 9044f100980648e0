import RegisterMachine.Instruction.Decode
import RegisterMachine.Text.Lines

set_option autoImplicit false

namespace RegisterMachine

abbrev Program := List Instruction

inductive LoadError where
  | decode (lineNumber : Nat) (line : String) (cause : DecodeError)
  | tooLarge (length capacity : Nat)
deriving DecidableEq, Repr

def LoadError.message : LoadError → String
  | .decode lineNumber line _ =>
      "error parsing program at line " ++ lineNumber.repr ++ ": " ++ line
  | .tooLarge length capacity =>
      "program has " ++ length.repr ++ " instructions but instruction memory holds " ++ capacity.repr

namespace Program

open Text

def isComment (line : List Char) : Bool := (line.dropWhile isBlank).head? == some '*'

def isIgnored (line : List Char) : Bool := isComment line || !line.any Char.isAlphanum

def ofLines (number : Nat) : List (List Char) → Except LoadError Program
  | [] => .ok []
  | line :: later =>
      if isIgnored line then ofLines (number + 1) later
      else
        match Instruction.ofLine line with
        | .error cause => .error (.decode number (String.ofList line) cause)
        | .ok i => (ofLines (number + 1) later).map (i :: ·)

def parse (source : String) : Except LoadError Program := ofLines 1 (lines source.toList)

end Program

end RegisterMachine
