import RegisterMachine.Proofs.LogEntries
import RegisterMachine.Proofs.Rewinding

set_option autoImplicit false

namespace RegisterMachine

structure Era where
  capacity : Nat
  cleared : Bool
  -- The number of instructions loaded, if this is the last initialization of a load that succeeded.
  loaded? : Option Nat
  before : List Machine
  last : Machine

namespace Era

def opening (cleared : Bool) (loaded? : Option Nat) (m : Machine) : Era where
  capacity := m.capacity.size
  cleared := cleared
  loaded? := loaded?
  before := []
  last := m

def stepped (m later : Machine) (era : Era) : Era :=
  { era with before := era.before ++ [m], last := later }

def along {κ : Type} [Console κ] : Nat → Session κ → Era → Era
  | 0, _, era => era
  | k + 1, s, era => along k s.step (era.stepped s.machine s.step.machine)

def opened (era : Era) : List Event :=
  .restarted era.capacity era.cleared :: (era.loaded?.map Event.loaded).toList

def entries (era : Era) : List Event :=
  era.opened ++ (era.before.filterMap Machine.executing? ++ era.last.final?.toList)

end Era

namespace Machine

end Machine

section

variable {past : List Era} {now : Era} {shown : List Shown} {m : Machine} {log : Array Event}

end

namespace Session

variable {κ : Type}

end Session

section

variable {κ : Type} {past : List Era} {now : Era} {shown : List Shown} (s : Session κ)

variable [Console κ]

variable [OnlyWarns κ]

end

end RegisterMachine
