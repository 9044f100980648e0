import RegisterMachine.Host

set_option autoImplicit false

namespace RegisterMachine.Dialogue

variable {α β κ : Type}

@[simp] def Always (P : α → Prop) : Dialogue α → Prop
  | .done result => P result
  | .report _ next => next.Always P
  | .ask _ _ next => ∀ answer, (next answer).Always P
  | .log _ next => next.Always P

def map (change : α → β) (dialogue : Dialogue α) : Dialogue β :=
  dialogue.bind fun result => .done (change result)

@[simp] theorem map_done (change : α → β) (result : α) :
    (Dialogue.done result).map change = .done (change result) := rfl

@[simp] theorem map_report (change : α → β) (line : String) (next : Dialogue α) :
    (Dialogue.report line next).map change = .report line (next.map change) := rfl

@[simp] theorem map_ask (change : α → β) (prompt : String) (default : Word)
    (next : Word → Dialogue α) :
    (Dialogue.ask prompt default next).map change =
      .ask prompt default fun answer => (next answer).map change := rfl

@[simp] theorem map_log (change : α → β) (event : Event) (next : Dialogue α) :
    (Dialogue.log event next).map change = .log event (next.map change) := rfl

theorem always_bind (dialogue : Dialogue α) (follow : α → Dialogue β) (P : β → Prop) :
    (dialogue.bind follow).Always P ↔ dialogue.Always fun result => (follow result).Always P := by
  induction dialogue with
  | done result => rfl
  | report line next ih => exact ih
  | ask prompt default next ih => exact forall_congr' ih
  | log event next ih => exact ih

theorem always_intro (dialogue : Dialogue α) (P : α → Prop) (held : ∀ result, P result) :
    dialogue.Always P := by
  induction dialogue with
  | done result => exact held result
  | report line next ih => exact ih
  | ask prompt default next ih => exact ih
  | log event next ih => exact ih

theorem always_mono (dialogue : Dialogue α) (P Q : α → Prop) (within : ∀ result, P result → Q result)
    (held : dialogue.Always P) : dialogue.Always Q := by
  induction dialogue with
  | done result => exact within result held
  | report line next ih => exact ih held
  | ask prompt default next ih => exact fun answer => ih answer (held answer)
  | log event next ih => exact ih held

theorem always_and (dialogue : Dialogue α) (P Q : α → Prop) (left : dialogue.Always P)
    (right : dialogue.Always Q) : dialogue.Always fun result => P result ∧ Q result := by
  induction dialogue with
  | done result => exact ⟨left, right⟩
  | report line next ih => exact ih left right
  | ask prompt default next ih => exact fun answer => ih answer (left answer) (right answer)
  | log event next ih => exact ih left right

theorem always_map (dialogue : Dialogue α) (change : α → β) (P : β → Prop) :
    (dialogue.map change).Always P ↔ dialogue.Always fun result => P (change result) :=
  always_bind dialogue _ P

theorem always_conduct [Console κ] (dialogue : Dialogue α) (host : Host κ) (P : α → Prop)
    (held : dialogue.Always P) : P (dialogue.conduct host).1 := by
  induction dialogue generalizing host with
  | done result => exact held
  | report line next ih => exact ih (host.report line) held
  | ask prompt default next ih => exact ih _ (host.ask prompt default).2 (held _)
  | log event next ih => exact ih (host.note event) held

theorem conduct_map [Console κ] (dialogue : Dialogue α) (change : α → β) (host : Host κ) :
    (dialogue.map change).conduct host =
      (change (dialogue.conduct host).1, (dialogue.conduct host).2) := by
  rw [map, conduct_bind]
  rfl

end RegisterMachine.Dialogue
