import RegisterMachine.Capacity
import RegisterMachine.Numeral

set_option autoImplicit false

namespace RegisterMachine.CommandLine

structure Arguments where
  path? : Option String := none
  sizeText? : Option String := none
  trace : Bool := false
deriving DecidableEq, Repr

structure Options where
  path : String
  size : Nat
  trace : Bool
deriving DecidableEq, Repr

-- An argument that begins with a dash and does not end there is meant as an option.
def looksLikeOption (argument : String) : Bool :=
  match argument.toList with
  | '-' :: _ :: _ => true
  | _ => false

def attachedSize? (argument : String) : Option String :=
  ("--mem-size=".toList.isPrefixOf? argument.toList).map String.ofList

namespace Arguments

def addPath (path : String) (given : Arguments) : Option Arguments :=
  if given.path?.isNone ∧ path ≠ "" then some { given with path? := some path } else none

def addSize (size : String) (given : Arguments) : Option Arguments :=
  if given.sizeText?.isNone then some { given with sizeText? := some size } else none

def addTrace (given : Arguments) : Option Arguments :=
  if given.trace then none else some { given with trace := true }

def addPaths : List String → Arguments → Option Arguments
  | [], given => some given
  | path :: later, given => (given.addPath path).bind (addPaths later)

def add : List String → Arguments → Option Arguments
  | [], given => some given
  -- A size cannot look like an option; after an equals sign it can.
  | ["--mem-size"], _ => none
  | "--mem-size" :: size :: later, given =>
      if looksLikeOption size then none else (given.addSize size).bind (add later)
  | "--trace" :: later, given => given.addTrace.bind (add later)
  | "--" :: later, given => addPaths later given
  | argument :: later, given =>
      match attachedSize? argument with
      | some size => (given.addSize size).bind (add later)
      | none =>
          if looksLikeOption argument then none else (given.addPath argument).bind (add later)

end Arguments

def readSize? (text : String) : Option Nat :=
  (Numeral.readNat? text.toList).filter fun n => decide (n < 18446744073709551616)

-- The size comes from the option, else from the environment, else it is the standard one. What the
-- environment holds does not matter when the option is given.
def Arguments.size? (given : Arguments) (environment? : Option String) : Option Nat :=
  match given.sizeText?.or environment? with
  | some text => readSize? text
  | none => some Capacity.standard.size

def Options.parse? (arguments : List String) (environment? : Option String) : Option Options := do
  let given ← Arguments.add arguments {}
  let path ← given.path?
  let size ← given.size? environment?
  return { path, size, trace := given.trace }

end RegisterMachine.CommandLine
