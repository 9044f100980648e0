import RegisterMachine.Console
import RegisterMachine.Dialogue

set_option autoImplicit false

namespace RegisterMachine

structure Host (κ : Type) where
  console : κ
  log : Array Event := #[]
deriving Repr

namespace Host

variable {κ : Type}

def note (event : Event) (host : Host κ) : Host κ := { host with log := host.log.push event }

def report [Console κ] (line : String) (host : Host κ) : Host κ :=
  let (console, warnings) := Console.report line host.console
  { console, log := host.log ++ warnings }

def ask [Console κ] (prompt : String) (default : Word) (host : Host κ) : Word × Host κ :=
  let (answer, console, warnings) := Console.ask prompt default host.console
  (answer, { console, log := host.log ++ warnings })

end Host

def Dialogue.conduct {α κ : Type} [Console κ] : Dialogue α → Host κ → α × Host κ
  | .done result, host => (result, host)
  | .report line next, host => next.conduct (host.report line)
  | .ask prompt default next, host =>
      let (answer, host) := host.ask prompt default
      (next answer).conduct host
  | .log event next, host => next.conduct (host.note event)

theorem Dialogue.conduct_bind {α β κ : Type} [Console κ] (dialogue : Dialogue α)
    (follow : α → Dialogue β) (host : Host κ) :
    (dialogue.bind follow).conduct host =
      (follow (dialogue.conduct host).1).conduct (dialogue.conduct host).2 := by
  induction dialogue generalizing host with
  | done result => rfl
  | report line next ih => exact ih (host.report line)
  | ask prompt default next ih => exact ih _ (host.ask prompt default).2
  | log event next ih => exact ih (host.note event)

end RegisterMachine
