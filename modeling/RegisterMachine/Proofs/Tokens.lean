import RegisterMachine.Text.Tokens

set_option autoImplicit false

namespace RegisterMachine.Text

def Blank (text : List Char) : Prop := ∀ c ∈ text, isBlank c = true

def Solid (text : List Char) : Prop := ∀ c ∈ text, isBlank c = false

inductive TwoTokens (first second : List Char) : List Char → Prop
  | intro (before between after : List Char) (firstNonempty : first ≠ []) (firstSolid : Solid first)
      (secondNonempty : second ≠ []) (secondSolid : Solid second) (blankBefore : Blank before)
      (blankBetween : Blank between) (apart : between ≠ []) (blankAfter : Blank after) :
      TwoTokens first second (before ++ (first ++ (between ++ (second ++ after))))

theorem tokens_blank (text : List Char) (blank : Blank text) : tokens text = [] := by
  simpa using tokens_blanks_append text [] blank

theorem tokens_token_blank (token blanks : List Char) (nonempty : token ≠ []) (solid : Solid token)
    (blank : Blank blanks) : tokens (token ++ blanks) = [token] := by
  cases blanks with
  | nil =>
      rw [List.append_nil]
      exact tokens_of_solid token nonempty solid
  | cons c blanks =>
      obtain ⟨head, tail⟩ := List.forall_mem_cons.mp blank
      rw [tokens_token_append token c blanks nonempty solid head, tokens_blank blanks tail]

theorem leading_token_split (text : List Char) :
    ∃ rest, text = (leadingToken text).1 ++ rest ∧ Solid (leadingToken text).1 ∧
      (∀ c ∈ rest.head?, isBlank c = true) ∧ tokens rest = (leadingToken text).2 := by
  induction text with
  | nil => exact ⟨[], rfl, by simp [leadingToken, Solid], by simp, rfl⟩
  | cons c text ih =>
      cases blank : isBlank c with
      | true =>
          refine ⟨c :: text, ?_, ?_, ?_, ?_⟩
          · simp [leadingToken, blank]
          · simp [leadingToken, blank, Solid]
          · simpa using blank
          · rw [tokens_cons_of_blank c text blank]
            simp [leadingToken, blank, tokens]
      | false =>
          obtain ⟨rest, split, solid, border, later⟩ := ih
          have whole : leadingToken (c :: text) = (c :: (leadingToken text).1, (leadingToken text).2) := by
            simp [leadingToken, blank]
          refine ⟨rest, ?_, ?_, border, ?_⟩
          · rw [whole, List.cons_append, ← split]
          · rw [whole]
            exact List.forall_mem_cons.mpr ⟨blank, solid⟩
          · rw [whole]
            exact later

theorem tokens_nil_blank (text : List Char) (none : tokens text = []) : Blank text := by
  induction text with
  | nil => simp [Blank]
  | cons c text ih =>
      cases blank : isBlank c with
      | true =>
          rw [tokens_cons_of_blank c text blank] at none
          exact List.forall_mem_cons.mpr ⟨blank, ih none⟩
      | false => simp [tokens, leadingToken, blank] at none

theorem tokens_cons_split (text token : List Char) (later : List (List Char))
    (split : tokens text = token :: later) :
    ∃ blanks rest, text = blanks ++ (token ++ rest) ∧ Blank blanks ∧ token ≠ [] ∧ Solid token ∧
      (∀ c ∈ rest.head?, isBlank c = true) ∧ tokens rest = later := by
  induction text with
  | nil => cases split
  | cons c text ih =>
      cases blank : isBlank c with
      | true =>
          rw [tokens_cons_of_blank c text blank] at split
          obtain ⟨blanks, rest, whole, before, found⟩ := ih split
          exact ⟨c :: blanks, rest, by rw [whole, List.cons_append],
            List.forall_mem_cons.mpr ⟨blank, before⟩, found⟩
      | false =>
          obtain ⟨rest, whole, solid, border, after⟩ := leading_token_split (c :: text)
          have nonempty : (leadingToken (c :: text)).1 ≠ [] := by simp [leadingToken, blank]
          simp only [tokens, if_neg nonempty, List.cons.injEq] at split
          obtain ⟨rfl, rfl⟩ := split
          exact ⟨[], rest, whole, by simp [Blank], nonempty, solid, border, after⟩

theorem two_tokens_split (text first second : List Char) (split : tokens text = [first, second]) :
    TwoTokens first second text := by
  obtain ⟨before, rest, rfl, blankBefore, firstNonempty, firstSolid, border, split⟩ :=
    tokens_cons_split text first [second] split
  obtain ⟨between, after, rfl, blankBetween, secondNonempty, secondSolid, -, split⟩ :=
    tokens_cons_split rest second [] split
  have blankAfter := tokens_nil_blank after split
  -- With nothing between them the second token would begin with a blank.
  have apart : between ≠ [] := by
    intro empty
    subst empty
    obtain ⟨c, second, rfl⟩ := List.exists_cons_of_ne_nil secondNonempty
    have blank := border c (by simp)
    rw [secondSolid c List.mem_cons_self] at blank
    cases blank
  exact .intro before between after firstNonempty firstSolid secondNonempty secondSolid blankBefore
    blankBetween apart blankAfter

theorem tokens_two_tokens (text first second : List Char) (valid : TwoTokens first second text) :
    tokens text = [first, second] := by
  cases valid with
  | intro before between after firstNonempty firstSolid secondNonempty secondSolid blankBefore
      blankBetween apart blankAfter =>
      obtain ⟨c, between, rfl⟩ := List.exists_cons_of_ne_nil apart
      obtain ⟨blankHead, blankTail⟩ := List.forall_mem_cons.mp blankBetween
      rw [tokens_blanks_append before _ blankBefore, List.cons_append,
        tokens_token_append first c _ firstNonempty firstSolid blankHead,
        tokens_blanks_append between _ blankTail,
        tokens_token_blank second after secondNonempty secondSolid blankAfter]

theorem tokens_pair_iff (text first second : List Char) :
    tokens text = [first, second] ↔ TwoTokens first second text :=
  ⟨two_tokens_split text first second, tokens_two_tokens text first second⟩

end RegisterMachine.Text
