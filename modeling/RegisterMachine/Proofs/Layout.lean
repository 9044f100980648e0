import Mathlib.Data.List.Forall2
import Mathlib.Data.List.TakeWhile
import RegisterMachine.Proofs.Source

set_option autoImplicit false

namespace RegisterMachine

open Text

namespace Text

inductive Separated : List (List Char) → List Char → Prop
  | blank (text : List Char) (blank : Blank text) : Separated [] text
  | token (before token rest : List Char) (later : List (List Char)) (blank : Blank before)
      (nonempty : token ≠ []) (solid : Solid token) (border : ∀ c ∈ rest.head?, isBlank c = true)
      (separated : Separated later rest) : Separated (token :: later) (before ++ (token ++ rest))

theorem separated_tokens (found : List (List Char)) (text : List Char)
    (separated : Separated found text) : tokens text = found := by
  induction separated with
  | blank text blank => exact tokens_blank text blank
  | token before token rest later blank nonempty solid border _ ih =>
      rw [tokens_blanks_append before _ blank]
      cases rest with
      | nil =>
          rw [List.append_nil, tokens_of_solid token nonempty solid, ← ih]
          rfl
      | cons c rest =>
          have space := border c rfl
          rw [tokens_token_append token c rest nonempty solid space, ← ih,
            tokens_cons_of_blank c rest space]

theorem tokens_separated (found : List (List Char)) (text : List Char)
    (split : tokens text = found) : Separated found text := by
  induction found generalizing text with
  | nil => exact .blank text (tokens_nil_blank text split)
  | cons token later ih =>
      obtain ⟨before, rest, rfl, blank, nonempty, solid, border, onward⟩ :=
        tokens_cons_split text token later split
      exact .token before token rest later blank nonempty solid border (ih rest onward)

theorem separated_words (found : List (List Char)) (text : List Char)
    (separated : Separated found text) : ∀ token ∈ found, token ≠ [] ∧ Solid token := by
  induction separated with
  | blank => simp
  | token _ token _ later _ nonempty solid _ _ ih =>
      exact List.forall_mem_cons.mpr ⟨⟨nonempty, solid⟩, ih⟩

theorem tokens_join (found : List (List Char))
    (words : ∀ token ∈ found, token ≠ [] ∧ Solid token) :
    tokens ([' '].intercalate found) = found := by
  induction found with
  | nil => rfl
  | cons token later ih =>
      obtain ⟨⟨nonempty, solid⟩, rest⟩ := List.forall_mem_cons.mp words
      cases later with
      | nil =>
          rw [List.intercalate_singleton]
          exact tokens_of_solid token nonempty solid
      | cons second later =>
          have joined : [' '].intercalate (token :: second :: later) =
              token ++ ' ' :: [' '].intercalate (second :: later) := by
            simp [List.intercalate_cons_cons]
          rw [joined, tokens_token_append token ' ' _ nonempty solid (by decide), ih rest]

theorem separated_first (found : List (List Char)) (text : List Char)
    (separated : Separated found text) :
    (text.dropWhile isBlank).head? = found.head?.bind List.head? := by
  cases separated with
  | blank text blank => simp [List.dropWhile_eq_nil_iff.mpr blank]
  | token before token rest later blank nonempty solid =>
      obtain ⟨c, token, rfl⟩ := List.exists_cons_of_ne_nil nonempty
      have stays : ¬ isBlank c = true := by simp [solid c List.mem_cons_self]
      rw [List.dropWhile_append_of_pos blank, List.cons_append, List.dropWhile_cons_of_neg stays]
      rfl

theorem blank_not_alphanumeric (text : List Char) (blank : Blank text) :
    text.any Char.isAlphanum = false := by
  apply List.any_eq_false.mpr
  intro c inside letter
  have solid := is_blank_of_alphanum c letter
  rw [blank c inside] at solid
  cases solid

theorem separated_alphanumeric (found : List (List Char)) (text : List Char)
    (separated : Separated found text) :
    text.any Char.isAlphanum = found.any fun token => token.any Char.isAlphanum := by
  induction separated with
  | blank text blank => exact blank_not_alphanumeric text blank
  | token before token rest later blank _ _ _ _ ih =>
      rw [List.any_append, List.any_append, blank_not_alphanumeric before blank, ih,
        Bool.false_or, List.any_cons]

def SameTokens (first second : List Char) : Prop :=
  ∃ found, Separated found first ∧ Separated found second

end Text

theorem Instruction.of_line_same_tokens (first second : List Char)
    (same : SameTokens first second) : ofLine first = ofLine second := by
  obtain ⟨found, left, right⟩ := same
  rw [ofLine, ofLine, separated_tokens found first left, separated_tokens found second right]

namespace Program

theorem is_ignored_same_tokens (first second : List Char) (same : SameTokens first second) :
    isIgnored first = isIgnored second := by
  obtain ⟨found, left, right⟩ := same
  rw [isIgnored, isIgnored, isComment, isComment, separated_first found first left,
    separated_first found second right, separated_alphanumeric found first left,
    separated_alphanumeric found second right]

inductive SameReading : Except LoadError Program → Except LoadError Program → Prop
  | program (p : Program) : SameReading (.ok p) (.ok p)
  | rejected (number : Nat) (line line' : String) (cause : DecodeError) :
      SameReading (.error (.decode number line cause)) (.error (.decode number line' cause))

theorem same_reading_cons (i : Instruction) (first second : Except LoadError Program)
    (same : SameReading first second) :
    SameReading (first.map (i :: ·)) (second.map (i :: ·)) := by
  cases same with
  | program p => exact .program (i :: p)
  | rejected number line line' cause => exact .rejected number line line' cause

theorem of_lines_same_tokens (number : Nat) (first second : List (List Char))
    (same : List.Forall₂ SameTokens first second) :
    SameReading (ofLines number first) (ofLines number second) := by
  induction same generalizing number with
  | nil => exact .program []
  | @cons line line' later later' head _ ih =>
      rw [ofLines, ofLines, ← is_ignored_same_tokens line line' head,
        ← Instruction.of_line_same_tokens line line' head]
      by_cases ignored : isIgnored line = true
      · rw [if_pos ignored, if_pos ignored]
        exact ih (number + 1)
      · rw [if_neg ignored, if_neg ignored]
        cases Instruction.ofLine line with
        | error cause => exact .rejected number _ _ cause
        | ok i => exact same_reading_cons i _ _ (ih (number + 1))

end Program

theorem layout_does_not_matter :
    (∀ line : String, ∃! found, Separated found line.toList) ∧
      (∀ (found : List (List Char)) (line : String), Separated found line.toList →
        Instruction.decode line =
            Instruction.decode (String.ofList ([' '].intercalate found)) ∧
          ∀ line' : String, Separated found line'.toList →
            Instruction.decode line = Instruction.decode line' ∧
              Program.isIgnored line.toList = Program.isIgnored line'.toList) ∧
      ∀ (source source' : String) (written written' : List (List Char)),
        PhysicalLines source.toList written → PhysicalLines source'.toList written' →
        List.Forall₂ SameTokens written written' →
          Program.SameReading (Program.parse source) (Program.parse source') := by
  refine ⟨?_, ?_, ?_⟩
  · intro line
    refine ⟨tokens line.toList, tokens_separated _ _ rfl, ?_⟩
    intro found separated
    exact (separated_tokens found _ separated).symm
  · intro found line separated
    have joined : Separated found (String.ofList ([' '].intercalate found)).toList := by
      rw [String.toList_ofList]
      exact tokens_separated _ _ (tokens_join found (separated_words found _ separated))
    refine ⟨Instruction.of_line_same_tokens _ _ ⟨found, separated, joined⟩, ?_⟩
    intro line' separated'
    have same : SameTokens line.toList line'.toList := ⟨found, separated, separated'⟩
    exact ⟨Instruction.of_line_same_tokens _ _ same, Program.is_ignored_same_tokens _ _ same⟩
  · intro source source' written written' split split' same
    rw [Program.parse, Program.parse, ← physical_lines_unique _ _ split,
      ← physical_lines_unique _ _ split']
    exact Program.of_lines_same_tokens 1 written written' same

-- Blanks of several kinds and both line ends. The carriage return at the very end belongs to no line
-- end, so it stays in the text of the second error.
theorem layout_of_rejected_source :
    let source := "\u3000,\r\nIN\u00a0 8,0,0"
    let source' := ",\nIN\t8,0,0 \r"
    let cause : DecodeError := .invalidArguments (.onRegisters .input) "8,0,0" (.badRegister 8)
    List.Forall₂ SameTokens (lines source.toList) (lines source'.toList) ∧
      Separated ["IN".toList, "8,0,0".toList] "IN\u00a0 8,0,0".toList ∧
      Instruction.decode "IN\u00a0 8,0,0" = Instruction.decode "IN\t8,0,0 \r" ∧
      Program.parse source = .error (.decode 2 "IN\u00a0 8,0,0" cause) ∧
      Program.SameReading (Program.parse source) (Program.parse source') ∧
      Program.parse source ≠ Program.parse source' := by
  intro source source' cause
  have comma : SameTokens "\u3000,".toList ",".toList :=
    ⟨[[',']], tokens_separated _ _ rfl, tokens_separated _ _ rfl⟩
  have input : Separated ["IN".toList, "8,0,0".toList] "IN\u00a0 8,0,0".toList :=
    tokens_separated _ _ rfl
  have input' : Separated ["IN".toList, "8,0,0".toList] "IN\t8,0,0 \r".toList :=
    tokens_separated _ _ rfl
  have split : lines "\u3000,\r\nIN\u00a0 8,0,0".toList =
      ["\u3000,".toList, "IN\u00a0 8,0,0".toList] := rfl
  have split' : lines ",\nIN\t8,0,0 \r".toList = [",".toList, "IN\t8,0,0 \r".toList] := rfl
  have same : List.Forall₂ SameTokens (lines source.toList) (lines source'.toList) := by
    rw [split, split']
    exact .cons comma (.cons ⟨_, input, input'⟩ .nil)
  have rejected : Program.parse "\u3000,\r\nIN\u00a0 8,0,0" =
      .error (.decode 2 "IN\u00a0 8,0,0" cause) := rfl
  have rejected' : Program.parse ",\nIN\t8,0,0 \r" =
      .error (.decode 2 "IN\t8,0,0 \r" cause) := rfl
  have apart : Program.parse source ≠ Program.parse source' := by
    rw [rejected, rejected']
    decide
  obtain ⟨-, decoding, reading⟩ := layout_does_not_matter
  obtain ⟨-, alike⟩ := decoding _ _ input
  exact ⟨same, input, (alike _ input').1, rejected,
    reading _ _ _ _ (lines_physical _) (lines_physical _) same, apart⟩

end RegisterMachine
