import RegisterMachine.Event

set_option autoImplicit false

namespace RegisterMachine

-- A report or a question changes the console and may leave warnings for the log.
class Console (κ : Type) where
  report : String → κ → κ × List Event
  ask : String → Word → κ → Word × κ × List Event

instance {left right : Type} [Console left] [Console right] : Console (left ⊕ right) where
  report line
    | .inl console => let (console, warnings) := Console.report line console; (.inl console, warnings)
    | .inr console => let (console, warnings) := Console.report line console; (.inr console, warnings)
  ask prompt default
    | .inl console =>
        let (answer, console, warnings) := Console.ask prompt default console
        (answer, .inl console, warnings)
    | .inr console =>
        let (answer, console, warnings) := Console.ask prompt default console
        (answer, .inr console, warnings)

end RegisterMachine
