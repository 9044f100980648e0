import RegisterMachine.Proofs.Execution

set_option autoImplicit false

namespace RegisterMachine.Machine

-- It leaves alone what instructions read, and commutes with what they write.
structure Unseen (change : Machine → Machine) : Prop where
  registers : ∀ m, (change m).registers = m.registers
  data : ∀ m, (change m).data = m.data
  status : ∀ m, (change m).status = m.status
  writes : ∀ (m : Machine) (registers : Vector Word 8),
    { change m with registers } = change { m with registers }
  stores : ∀ (m : Machine) (data : Array Word), { change m with data } = change { m with data }
  stops : ∀ (m : Machine) (status : Status), { change m with status } = change { m with status }

section Unseen

variable {change : Machine → Machine} (unseen : Unseen change) (m : Machine)

include unseen

theorem unseen_get (r : Register) : (change m).get r = m.get r :=
  congrArg (·[r]) (unseen.registers m)

theorem unseen_set (r : Register) (w : Word) : (change m).set r w = change (m.set r w) := by
  rw [set, unseen.registers, unseen.writes]
  rfl

theorem unseen_advance : (change m).advance = change m.advance := by
  rw [advance, pc, unseen_get unseen, unseen_set unseen]
  rfl

theorem unseen_data_index (address : Word) :
    (change m).dataIndex? address = m.dataIndex? address := by
  rw [dataIndex?, unseen.data]
  rfl

theorem unseen_stop (status : Status) :
    (change m).stop status = (m.stop status).map change := by
  rw [stop, pc, unseen_get unseen, unseen.stops]
  rfl

theorem unseen_load_cell (r : Register) (address : Word) :
    (change m).loadCell r address = (m.loadCell r address).map change := by
  rw [loadCell, loadCell, unseen_data_index unseen]
  cases m.dataIndex? address with
  | none => exact unseen_stop unseen m .dataFault
  | some a => simp only [unseen.data, unseen_set unseen, Dialogue.map_done]

theorem unseen_store_cell (r : Register) (address : Word) :
    (change m).storeCell r address = (m.storeCell r address).map change := by
  rw [storeCell, storeCell, unseen_data_index unseen]
  cases m.dataIndex? address with
  | none => exact unseen_stop unseen m .dataFault
  | some a => simp only [unseen.data, unseen_get unseen, unseen.stores, Dialogue.map_done]

theorem unseen_execute (i : Instruction) : (change m).execute i = (m.execute i).map change := by
  cases i with
  | registers op r s t =>
      simp only [execute, executeRegisters, unseen_get unseen, unseen_set unseen]
      cases op with
      | halt => exact unseen_stop unseen m .halted
      | input | output | add | sub | mul => rfl
      | div =>
          by_cases zero : m.get t = 0
          · simp only [if_pos zero]
            exact unseen_stop unseen m .divideByZero
          · simp only [if_neg zero]
            rfl
  | offset op r s t =>
      simp only [execute, executeOffset, unseen_get unseen, unseen_set unseen]
      cases op with
      | load => exact unseen_load_cell unseen m r _
      | store => exact unseen_store_cell unseen m r _
      | loadAddress | loadConstant => rfl
      | jump test =>
          by_cases holds : test.holds (m.get r) = true
          · simp only [if_pos holds]
            rfl
          · simp only [if_neg holds]
            rfl

theorem unseen_show_notice : (change m).showNotice = m.showNotice.map change := by
  rw [showNotice, showNotice, unseen.status]
  cases m.status.notice? <;> rfl

end Unseen

end RegisterMachine.Machine
