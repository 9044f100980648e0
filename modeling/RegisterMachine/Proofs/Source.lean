import RegisterMachine.Program
import RegisterMachine.Proofs.Lines
import RegisterMachine.Proofs.WrittenForm

set_option autoImplicit false

namespace RegisterMachine

namespace Text

def LetterOrDigit (c : Char) : Prop :=
  ('a'.toNat ≤ c.toNat ∧ c.toNat ≤ 'z'.toNat) ∨ ('A'.toNat ≤ c.toNat ∧ c.toNat ≤ 'Z'.toNat) ∨
    ('0'.toNat ≤ c.toNat ∧ c.toNat ≤ '9'.toNat)

def CommentLine (line : List Char) : Prop :=
  ∃ blanks rest, line = blanks ++ '*' :: rest ∧ Blank blanks

def Ignorable (line : List Char) : Prop := CommentLine line ∨ ∀ c ∈ line, ¬ LetterOrDigit c

theorem letter_or_digit_iff (c : Char) : c.isAlphanum = true ↔ LetterOrDigit c := by
  delta Char.isAlphanum Char.isAlpha Char.isUpper Char.isLower Char.isDigit
  have value : c.toNat = c.val.toNat := rfl
  simp only [Bool.or_eq_true, Bool.and_eq_true, decide_eq_true_eq, ge_iff_le,
    UInt32.le_iff_toNat_le, LetterOrDigit, value]
  simp
  omega

theorem first_solid_iff (line : List Char) (c : Char) (solid : isBlank c = false) :
    (line.dropWhile isBlank).head? = some c ↔
      ∃ blanks rest, line = blanks ++ c :: rest ∧ Blank blanks := by
  induction line with
  | nil => simp
  | cons d line ih =>
      cases blank : isBlank d with
      | true =>
          rw [List.dropWhile_cons_of_pos blank, ih]
          refine ⟨?_, ?_⟩
          · intro found
            obtain ⟨blanks, rest, rfl, before⟩ := found
            exact ⟨d :: blanks, rest, rfl, List.forall_mem_cons.mpr ⟨blank, before⟩⟩
          · intro found
            obtain ⟨blanks, rest, split, before⟩ := found
            cases blanks with
            | nil =>
                obtain ⟨rfl, -⟩ := List.cons.inj split
                rw [solid] at blank
                cases blank
            | cons e blanks =>
                obtain ⟨-, rfl⟩ := List.cons.inj split
                exact ⟨blanks, rest, rfl, (List.forall_mem_cons.mp before).2⟩
      | false =>
          have stays : ¬ isBlank d = true := by simp [blank]
          rw [List.dropWhile_cons_of_neg stays, List.head?_cons, Option.some.injEq]
          refine ⟨?_, ?_⟩
          · intro same
            subst same
            exact ⟨[], line, rfl, by simp [Blank]⟩
          · intro found
            obtain ⟨blanks, rest, split, before⟩ := found
            cases blanks with
            | nil => exact (List.cons.inj split).1
            | cons e blanks =>
                obtain ⟨rfl, -⟩ := List.cons.inj split
                exact absurd (before d List.mem_cons_self) stays

theorem is_comment_iff (line : List Char) : Program.isComment line = true ↔ CommentLine line := by
  have solid : isBlank '*' = false := by decide
  rw [Program.isComment, beq_iff_eq, first_solid_iff line '*' solid, CommentLine]

theorem is_ignored_iff (line : List Char) : Program.isIgnored line = true ↔ Ignorable line := by
  simp only [Program.isIgnored, Bool.or_eq_true, is_comment_iff, Bool.not_eq_true',
    List.any_eq_false, letter_or_digit_iff, Ignorable]

end Text

open Text

namespace Instruction

def decoded? (line : List Char) : Option Instruction := (ofLine line).toOption

theorem decoded_not_ignorable (line : List Char) (i : Instruction) (decoded : ofLine line = .ok i) :
    ¬ Ignorable line := by
  obtain ⟨text, tokens, -⟩ := (of_line_ok_iff line i).mp decoded
  obtain ⟨c, name, spelled⟩ := List.exists_cons_of_ne_nil (mnemonic_nonempty i.opcode)
  have letter : LetterOrDigit c := by
    have first : c ∈ i.opcode.mnemonic.toList := spelled ▸ List.mem_cons_self
    exact (letter_or_digit_iff c).mp (mnemonic_alphanumeric i.opcode c first)
  rw [spelled] at tokens
  cases tokens with
  | intro before between after _ firstSolid _ _ blankBefore _ _ _ =>
      have solid : isBlank c = false := firstSolid c List.mem_cons_self
      intro ignorable
      rcases ignorable with comment | nothing
      · have starred := (first_solid_iff _ '*' (by decide)).mpr comment
        rw [List.cons_append, (first_solid_iff _ c solid).mpr ⟨before, _, rfl, blankBefore⟩] at starred
        cases starred
        simp [LetterOrDigit] at letter
      · exact nothing c (by simp) letter

theorem decoded_of_ignorable (line : List Char) (ignorable : Ignorable line) :
    decoded? line = none := by
  rw [decoded?]
  cases decoded : ofLine line with
  | error cause => rfl
  | ok i => exact absurd ignorable (decoded_not_ignorable line i decoded)

end Instruction

namespace Program

def Accepted (line : List Char) : Prop :=
  Ignorable line ∨ ∃ i, Instruction.ofLine line = .ok i

def Rejected (line : List Char) (cause : DecodeError) : Prop :=
  ¬ Ignorable line ∧ Instruction.ofLine line = .error cause

theorem of_lines_ignored (number : Nat) (line : List Char) (later : List (List Char))
    (ignorable : Ignorable line) : ofLines number (line :: later) = ofLines (number + 1) later := by
  rw [ofLines, if_pos ((is_ignored_iff line).mpr ignorable)]

theorem of_lines_decoded (number : Nat) (line : List Char) (later : List (List Char))
    (i : Instruction) (decoded : Instruction.ofLine line = .ok i) :
    ofLines number (line :: later) = (ofLines (number + 1) later).map (i :: ·) := by
  have kept : ¬ isIgnored line = true := fun ignored =>
    Instruction.decoded_not_ignorable line i decoded ((is_ignored_iff line).mp ignored)
  rw [ofLines, if_neg kept, decoded]

theorem of_lines_rejected (number : Nat) (line : List Char) (later : List (List Char))
    (cause : DecodeError) (rejected : Rejected line cause) :
    ofLines number (line :: later) = .error (.decode number (String.ofList line) cause) := by
  have kept : ¬ isIgnored line = true := fun ignored => rejected.1 ((is_ignored_iff line).mp ignored)
  rw [ofLines, if_neg kept, rejected.2]

theorem of_lines_append (number : Nat) (accepted later : List (List Char))
    (valid : ∀ line ∈ accepted, Accepted line) :
    ofLines number (accepted ++ later) =
      (ofLines (number + accepted.length) later).map
        (accepted.filterMap Instruction.decoded? ++ ·) := by
  induction accepted generalizing number with
  | nil =>
      rw [List.nil_append, List.length_nil, Nat.add_zero]
      cases ofLines number later <;> rfl
  | cons line accepted ih =>
      obtain ⟨head, tail⟩ := List.forall_mem_cons.mp valid
      have count : number + (line :: accepted).length = number + 1 + accepted.length := by
        rw [List.length_cons]
        omega
      rw [List.cons_append, count]
      rcases head with ignorable | ⟨i, decoded⟩
      · rw [of_lines_ignored number line _ ignorable, ih (number + 1) tail,
          List.filterMap_cons_none (Instruction.decoded_of_ignorable line ignorable)]
      · have view : Instruction.decoded? line = some i := by
          rw [Instruction.decoded?, decoded]
          rfl
        rw [of_lines_decoded number line _ i decoded, ih (number + 1) tail,
          List.filterMap_cons_some view]
        cases ofLines (number + 1 + accepted.length) later <;> rfl

theorem of_lines_accepted (number : Nat) (written : List (List Char))
    (valid : ∀ line ∈ written, Accepted line) :
    ofLines number written = .ok (written.filterMap Instruction.decoded?) := by
  have whole := of_lines_append number written [] valid
  rw [List.append_nil] at whole
  rw [whole, ofLines]
  change Except.ok (written.filterMap Instruction.decoded? ++ []) = _
  rw [List.append_nil]

theorem of_lines_first_rejected (number : Nat) (before : List (List Char)) (line : List Char)
    (after : List (List Char)) (cause : DecodeError) (valid : ∀ earlier ∈ before, Accepted earlier)
    (rejected : Rejected line cause) :
    ofLines number (before ++ line :: after) =
      .error (.decode (number + before.length) (String.ofList line) cause) := by
  rw [of_lines_append number before _ valid, of_lines_rejected _ line after cause rejected]
  rfl

theorem accepted_or_rejected (line : List Char) : Accepted line ∨ ∃ cause, Rejected line cause := by
  by_cases ignorable : Ignorable line
  · exact .inl (.inl ignorable)
  · cases decoded : Instruction.ofLine line with
    | ok i => exact .inl (.inr ⟨i, decoded⟩)
    | error cause => exact .inr ⟨cause, ignorable, decoded⟩

theorem first_rejected (written : List (List Char)) :
    (∀ line ∈ written, Accepted line) ∨
      ∃ before line after cause, written = before ++ line :: after ∧
        (∀ earlier ∈ before, Accepted earlier) ∧ Rejected line cause := by
  induction written with
  | nil => exact .inl (by simp)
  | cons line written ih =>
      rcases accepted_or_rejected line with head | ⟨cause, rejected⟩
      · rcases ih with tail | ⟨before, bad, after, cause, rfl, valid, rejected⟩
        · exact .inl (List.forall_mem_cons.mpr ⟨head, tail⟩)
        · exact .inr ⟨line :: before, bad, after, cause, rfl,
            List.forall_mem_cons.mpr ⟨head, valid⟩, rejected⟩
      · exact .inr ⟨[], line, written, cause, rfl, by simp, rejected⟩

theorem of_lines_ok_iff (number : Nat) (written : List (List Char)) (p : Program) :
    ofLines number written = .ok p ↔
      (∀ line ∈ written, Accepted line) ∧ p = written.filterMap Instruction.decoded? := by
  refine ⟨?_, ?_⟩
  · intro read
    rcases first_rejected written with valid | ⟨before, line, after, cause, rfl, valid, rejected⟩
    · rw [of_lines_accepted number written valid] at read
      exact ⟨valid, (Except.ok.inj read).symm⟩
    · rw [of_lines_first_rejected number before line after cause valid rejected] at read
      cases read
  · intro read
    obtain ⟨valid, rfl⟩ := read
    exact of_lines_accepted number written valid

theorem of_lines_error_iff (number : Nat) (written : List (List Char)) (e : LoadError) :
    ofLines number written = .error e ↔
      ∃ before line after cause, written = before ++ line :: after ∧
        (∀ earlier ∈ before, Accepted earlier) ∧ Rejected line cause ∧
        e = .decode (number + before.length) (String.ofList line) cause := by
  refine ⟨?_, ?_⟩
  · intro failed
    rcases first_rejected written with valid | ⟨before, line, after, cause, rfl, valid, rejected⟩
    · rw [of_lines_accepted number written valid] at failed
      cases failed
    · rw [of_lines_first_rejected number before line after cause valid rejected] at failed
      exact ⟨before, line, after, cause, rfl, valid, rejected, (Except.error.inj failed).symm⟩
  · intro found
    obtain ⟨before, line, after, cause, rfl, valid, rejected, rfl⟩ := found
    exact of_lines_first_rejected number before line after cause valid rejected

theorem parse_spelled (source : String) (characters : List Char) (p : Program)
    (spelled : source = String.ofList characters)
    (read : ofLines 1 (lines characters) = .ok p) : parse source = .ok p := by
  rw [parse, spelled, String.toList_ofList, read]

-- What follows the first rejected line is not looked at: it occurs nowhere in the error.
theorem source_read_line_by_line (source : String) :
    (∀ written, PhysicalLines source.toList written ↔ written = lines source.toList) ∧
      (∀ line i, Instruction.ofLine line = .ok i → ¬ Ignorable line) ∧
      (∀ p, parse source = .ok p ↔
        (∀ line ∈ lines source.toList, Accepted line) ∧
          p = (lines source.toList).filterMap Instruction.decoded?) ∧
      ∀ e, parse source = .error e ↔
        ∃ before line after cause, lines source.toList = before ++ line :: after ∧
          (∀ earlier ∈ before, Accepted earlier) ∧ Rejected line cause ∧
          e = .decode (before.length + 1) (String.ofList line) cause := by
  refine ⟨?_, Instruction.decoded_not_ignorable, ?_, ?_⟩
  · exact physical_lines_iff source.toList
  · exact of_lines_ok_iff 1 (lines source.toList)
  · intro e
    simpa only [parse, Nat.add_comm 1] using of_lines_error_iff 1 (lines source.toList) e

example : parse "* one\r\n,\n HALT 0,0,0\nADD 1,2,8\nx" =
    .error (.decode 4 "ADD 1,2,8"
      (.invalidArguments (.onRegisters .add) "1,2,8" (.badRegister 8))) := rfl

end Program

end RegisterMachine
