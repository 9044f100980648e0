import RegisterMachine.Event

set_option autoImplicit false

namespace RegisterMachine

inductive Dialogue (α : Type) where
  | done (result : α)
  | report (line : String) (next : Dialogue α)
  | ask (prompt : String) (default : Word) (next : Word → Dialogue α)
  | log (event : Event) (next : Dialogue α)

namespace Dialogue

variable {α β : Type}

def bind : Dialogue α → (α → Dialogue β) → Dialogue β
  | .done result, follow => follow result
  | .report line next, follow => .report line (next.bind follow)
  | .ask prompt default next, follow => .ask prompt default fun answer => (next answer).bind follow
  | .log event next, follow => .log event (next.bind follow)

theorem bind_assoc {γ : Type} (dialogue : Dialogue α) (follow : α → Dialogue β)
    (finish : β → Dialogue γ) :
    (dialogue.bind follow).bind finish = dialogue.bind fun a => (follow a).bind finish := by
  induction dialogue with
  | done result => rfl
  | report line next ih => simp only [bind, ih]
  | ask prompt default next ih => simp only [bind, ih]
  | log event next ih => simp only [bind, ih]

end Dialogue

end RegisterMachine
