import RegisterMachine.Event

set_option autoImplicit false

namespace RegisterMachine

inductive Reading where
  | number (value : Word)
  | notANumber
  | endOfInput
  | failed (error : String)
deriving DecidableEq, Repr

namespace Reading

def splitLine : List UInt8 → List UInt8 × List UInt8
  | [] => ([], [])
  | byte :: rest =>
      if byte = 10 then ([byte], rest)
      else
        let (line, rest) := splitLine rest
        (byte :: line, rest)

def trimEnd (text : List Char) : List Char :=
  (text.reverse.dropWhile fun c => c == '\r' || c == '\n').reverse

def ofText (text : String) : Reading :=
  match Word.read? (trimEnd text.toList) with
  | some value => .number value
  | none => .notANumber

-- The meaning of one line of bytes; no bytes at all are the end of the input.
def ofLine (line : List UInt8) : Reading :=
  if line = [] then .endOfInput
  else
    match String.fromUTF8? line.toByteArray with
    | some text => ofText text
    | none => .failed "stream did not contain valid UTF-8"

def answer (default : Word) : Reading → Word
  | .number value => value
  | _ => default

def complaint? (default : Word) : Reading → Option String
  | .number _ => none
  | .notANumber => some ("Error converting input. Returning default " ++ default.text)
  | _ => some ("Error reading input. Returning default " ++ default.text)

def warnings : Reading → List Event
  | .failed error => [.inputFailed error]
  | _ => []

end Reading

end RegisterMachine
