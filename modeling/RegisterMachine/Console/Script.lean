import RegisterMachine.Console

set_option autoImplicit false

namespace RegisterMachine

structure Script where
  inputs : List Word
  prompts : Array String := #[]
  lines : Array String := #[]
deriving DecidableEq, Repr

namespace Script

def report (line : String) (script : Script) : Script :=
  { script with lines := script.lines.push line }

def ask (prompt : String) (default : Word) (script : Script) : Word × Script :=
  (script.inputs.headD default,
    { script with inputs := script.inputs.tail, prompts := script.prompts.push prompt })

def takeLines (script : Script) : Array String × Script :=
  (script.lines, { script with lines := #[] })

instance : Console Script where
  report line script := (script.report line, [])
  ask prompt default script :=
    let (answer, script) := script.ask prompt default
    (answer, script, [])

end Script

end RegisterMachine
