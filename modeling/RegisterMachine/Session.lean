import RegisterMachine.Host
import RegisterMachine.Machine.Step

set_option autoImplicit false

namespace RegisterMachine

structure Session (κ : Type) where
  machine : Machine
  host : Host κ
deriving Repr

namespace Session

variable {κ : Type}

def noteRestart (cleared : Bool) (s : Session κ) : Session κ :=
  { s with host := s.host.note (.restarted s.machine.capacity.size cleared) }

def start (capacity : Capacity) (console : κ) : Session κ :=
  noteRestart true { machine := .start capacity, host := { console } }

def restart (cleared : Bool) (s : Session κ) : Session κ :=
  noteRestart cleared { s with machine := s.machine.restart cleared }

def reset (s : Session κ) : Session κ := s.restart false

def load (program : Program) (s : Session κ) : Except LoadError Nat × Session κ :=
  let s := s.restart true
  let (result, machine) := s.machine.load program
  match result with
  | .ok n => (result, { machine, host := s.host.note (.loaded n) })
  | .error _ => (result, { s with machine })

def loadSource (source : String) (s : Session κ) : Except LoadError Nat × Session κ :=
  let s := s.restart true
  match Program.parse source with
  | .ok program => s.load program
  | .error e => (.error e, s)

def setTrace (on : Bool) (s : Session κ) : Session κ :=
  { s with machine := s.machine.setTrace on }

def toggleTrace (s : Session κ) : Session κ := s.setTrace !s.machine.trace

variable [Console κ]

def step : Session κ → Session κ
  | ⟨machine, host⟩ =>
      let (machine, host) := machine.step.conduct host
      { machine, host }

def stepN : Nat → Session κ → Session κ
  | 0, s => s
  | n + 1, s => stepN n s.step

-- Steps until the machine stops, unless it takes more than `limit` steps.
def runFor : Nat → Session κ → Option (Session κ)
  | 0, _ => none
  | limit + 1, s =>
      let s := s.step
      if s.machine.status.isOk then runFor limit s else some s

end Session

end RegisterMachine
