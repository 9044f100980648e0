import RegisterMachine.Proofs.History
import RegisterMachine.Proofs.Source

set_option autoImplicit false

namespace RegisterMachine

open Text

inductive Annotates : Program → List (List Char) → Prop
  | empty : Annotates [] []
  | instruction (i : Instruction) (p : Program) (later : List (List Char))
      (annotated : Annotates p later) : Annotates (i :: p) (i.write :: later)
  | ignorable (line : List Char) (p : Program) (later : List (List Char))
      (nothing : Ignorable line) (whole : '\n' ∉ line) (annotated : Annotates p later) :
      Annotates p (line :: later)

theorem Instruction.write_blank (i : Instruction) (c : Char) (inside : c ∈ i.write)
    (blank : isBlank c = true) : c = ' ' := by
  rw [write, Opcode.write, List.rightpad, List.mem_append, List.mem_append, List.mem_cons] at inside
  rcases inside with (name | padding) | space | operand
  · rw [mnemonic_solid i.opcode c name] at blank
    cases blank
  · exact List.eq_of_mem_replicate padding
  · exact space
  · rw [written_operands_solid i.opcode i.operands c operand] at blank
    cases blank

theorem Instruction.write_no_feed (i : Instruction) : '\n' ∉ i.write := by
  intro inside
  have space := i.write_blank '\n' inside (by decide)
  cases space

theorem Instruction.write_no_return (i : Instruction) : '\r' ∉ i.write := by
  intro inside
  have space := i.write_blank '\r' inside (by decide)
  cases space

theorem Instruction.write_nonempty (i : Instruction) : i.write ≠ [] := by
  simp [write, Opcode.write]

namespace Text

theorem drop_return_ignorable (line : List Char) (ignorable : Ignorable line) :
    Ignorable (dropReturn line) := by
  rcases ignorable with ⟨blanks, rest, rfl, before⟩ | nothing
  · have starred : ∃ later, dropReturn ('*' :: rest) = '*' :: later := by
      by_cases alone : rest = []
      · exact ⟨[], by simp [dropReturn, alone]⟩
      · exact ⟨dropReturn rest, drop_return_append_left ['*'] rest alone⟩
    obtain ⟨later, kept⟩ := starred
    refine .inl ⟨blanks, later, ?_, before⟩
    rw [drop_return_append_left blanks _ (by simp), kept]
  · exact .inr fun c inside => nothing c ((drop_return_sublist line).subset inside)

end Text

namespace Program

theorem of_lines_annotated (number : Nat) (p : Program) (written : List (List Char))
    (annotated : Annotates p written) : ofLines number written = .ok p := by
  induction annotated generalizing number with
  | empty => rw [ofLines]
  | instruction i p later _ ih =>
      have decoded : Instruction.ofLine i.write = .ok i := by
        rw [Instruction.write, Instruction.of_line_written]
        exact Instruction.of_operands_operands i
      rw [of_lines_decoded number i.write later i decoded, ih (number + 1)]
      rfl
  | ignorable line p later nothing _ _ ih =>
      rw [of_lines_ignored number line later nothing, ih (number + 1)]

-- The splitter may take a carriage return from an ignorable line, which stays ignorable, and drops
-- an empty last line.
theorem lines_annotated (p : Program) (written : List (List Char)) (text : List Char)
    (annotated : Annotates p written) (onLines : OnLines written text) :
    Annotates p (lines text) := by
  induction onLines generalizing p with
  | empty =>
      rw [lines_nil]
      exact annotated
  | last line =>
      cases annotated with
      | instruction i p later annotated =>
          rw [lines_last i.write i.write_nonempty i.write_no_feed]
          exact .instruction i p [] annotated
      | ignorable _ _ _ nothing whole annotated =>
          by_cases blank : line = []
          · rw [blank, lines_nil]
            exact annotated
          · rw [lines_last line blank whole]
            exact .ignorable line p [] nothing whole annotated
  | ended line ending later rest valid _ ih =>
      cases annotated with
      | instruction i p later annotated =>
          have kept := drop_return_of_not_mem i.write i.write_no_return
          rcases lines_ending i.write ending rest valid i.write_no_feed with split | split
          · rw [split, kept]
            exact .instruction i p _ (ih p annotated)
          · rw [split]
            exact .instruction i p _ (ih p annotated)
      | ignorable _ _ _ nothing whole annotated =>
          rcases lines_ending line ending rest valid whole with split | split
          · rw [split]
            exact .ignorable _ p _ (drop_return_ignorable line nothing)
              (fun inside => whole ((drop_return_sublist line).subset inside)) (ih p annotated)
          · rw [split]
            exact .ignorable line p _ nothing whole (ih p annotated)

theorem parse_annotated (p : Program) (written : List (List Char)) (source : String)
    (annotated : Annotates p written) (onLines : OnLines written source.toList) :
    parse source = .ok p :=
  of_lines_annotated 1 p _ (lines_annotated p written source.toList annotated onLines)

end Program

namespace Session

variable {κ : Type}

theorem load_result (p : Program) (s : Session κ) :
    (s.load p).1 = ((s.machine.restart true).load p).1 := by
  rw [← restart_machine]
  cases loaded : (s.restart true).machine.load p with
  | mk result machine =>
      simp only [load, loaded]
      cases result <;> rfl

theorem load_source_of_parse (source : String) (p : Program) (s : Session κ)
    (parsed : Program.parse source = .ok p) : s.loadSource source = (s.restart true).load p := by
  simp only [loadSource, parsed]

theorem load_outcome (p : Program) (s : Session κ) :
    (s.load p).1 =
      if p.length ≤ s.machine.capacity.size then .ok p.length
      else .error (.tooLarge p.length s.machine.capacity.size) := by
  rw [load_result, Machine.load]
  by_cases fits : p.length ≤ s.machine.capacity.size
  · rw [if_pos fits]
    exact congrArg Prod.fst (if_pos fits)
  · rw [if_neg fits]
    exact congrArg Prod.fst (if_neg fits)

end Session

theorem annotated_program_read_back (p : Program) (written : List (List Char)) (source : String)
    (annotated : Annotates p written) (onLines : OnLines written source.toList) :
    Program.parse source = .ok p ∧
      ∀ (κ : Type) (s : Session κ),
        (s.loadSource source).1 = (s.load p).1 ∧
          (s.loadSource source).2.machine = (s.load p).2.machine ∧
          (s.load p).1 =
            if p.length ≤ s.machine.capacity.size then .ok p.length
            else .error (.tooLarge p.length s.machine.capacity.size) := by
  have parsed := Program.parse_annotated p written source annotated onLines
  refine ⟨parsed, ?_⟩
  intro κ s
  have loaded := Session.load_source_of_parse source p s parsed
  refine ⟨?_, ?_, Session.load_outcome p s⟩
  · rw [loaded, Session.load_result, Session.load_result]
    rfl
  · rw [loaded, Session.load_machine, Session.load_machine]
    rfl

theorem annotated_pair_read_back :
    ∃ written, Annotates [.halt, .offset .store Register.programCounter (-4) Register.first] written ∧
      OnLines written "\t* ADD\r\nHALT 0,0,0\r\n,,\nST   7,-4(0)".toList ∧
      Program.parse "\t* ADD\r\nHALT 0,0,0\r\n,,\nST   7,-4(0)" =
        .ok [.halt, .offset .store Register.programCounter (-4) Register.first] ∧
      ∀ (κ : Type) (s : Session κ),
        let loaded := s.loadSource "\t* ADD\r\nHALT 0,0,0\r\n,,\nST   7,-4(0)"
        (loaded.1 = if 2 ≤ s.machine.capacity.size then .ok 2
          else .error (.tooLarge 2 s.machine.capacity.size)) ∧
        (2 ≤ s.machine.capacity.size → loaded.2.machine.code[0]? = some .halt ∧
          loaded.2.machine.code[1]? =
            some (.offset .store Register.programCounter (-4) Register.first)) := by
  let store : Instruction := .offset .store Register.programCounter (-4) Register.first
  let first := "\t* ADD\r".toList
  let third := ",,".toList
  have comment : Ignorable first := .inl ⟨['\t'], " ADD\r".toList, rfl, by simp [Blank]; decide⟩
  have nothing : Ignorable third := .inr (by simp [third, LetterOrDigit])
  have annotated : Annotates [.halt, store] [first, Instruction.halt.write, third, store.write] :=
    .ignorable _ _ _ comment (by decide) (.instruction _ _ _
      (.ignorable _ _ _ nothing (by decide) (.instruction _ _ _ .empty)))
  have spelled : "\t* ADD\r\nHALT 0,0,0\r\n,,\nST   7,-4(0)".toList =
      first ++ (['\n'] ++ (Instruction.halt.write ++ (['\r', '\n'] ++ (third ++ (['\n'] ++
        store.write))))) := by
    decide
  have onLines : OnLines [first, Instruction.halt.write, third, store.write]
      "\t* ADD\r\nHALT 0,0,0\r\n,,\nST   7,-4(0)".toList := by
    rw [spelled]
    exact .ended _ _ _ _ .feed (.ended _ _ _ _ .returnFeed (.ended _ _ _ _ .feed (.last _)))
  obtain ⟨parsed, loads⟩ := annotated_program_read_back _ _ _ annotated onLines
  refine ⟨_, annotated, onLines, parsed, ?_⟩
  intro κ s
  obtain ⟨same, left, outcome⟩ := loads κ s
  refine ⟨same.trans outcome, ?_⟩
  intro fits
  have held : (s.load [.halt, store]).2.machine.code =
      Machine.codeOf s.machine.capacity [.halt, store] := by
    have within : [Instruction.halt, store].length ≤
        ((s.machine.restart true).restart true).capacity.size := fits
    rw [Session.load_machine, Machine.load, if_pos within]
    rfl
  rw [left, held, Machine.codeOf]
  refine ⟨?_, ?_⟩
  · exact Array.getElem?_append_left (Nat.zero_lt_succ 1)
  · exact Array.getElem?_append_left (Nat.lt_succ_self 1)

end RegisterMachine
