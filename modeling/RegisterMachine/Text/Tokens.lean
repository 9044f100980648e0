import RegisterMachine.Text.Blank

set_option autoImplicit false

namespace RegisterMachine.Text

def leadingToken : List Char → List Char × List (List Char)
  | [] => ([], [])
  | c :: rest =>
      let (token, later) := leadingToken rest
      if isBlank c then ([], if token = [] then later else token :: later) else (c :: token, later)

def tokens (text : List Char) : List (List Char) :=
  let (token, later) := leadingToken text
  if token = [] then later else token :: later

@[simp] theorem tokens_nil : tokens [] = [] := rfl

theorem tokens_cons_of_blank (c : Char) (rest : List Char) (blank : isBlank c = true) :
    tokens (c :: rest) = tokens rest := by
  simp only [tokens, leadingToken, blank, if_true]

theorem leading_token_append_blank (token : List Char) (c : Char) (rest : List Char)
    (solid : ∀ d ∈ token, isBlank d = false) (blank : isBlank c = true) :
    leadingToken (token ++ c :: rest) = (token, tokens rest) := by
  induction token with
  | nil => simp only [List.nil_append, leadingToken, blank, if_true, tokens]
  | cons d token ih =>
      have tail := ih fun e inside => solid e (List.mem_cons_of_mem d inside)
      have head := solid d List.mem_cons_self
      simp only [List.cons_append, leadingToken, tail, head, Bool.false_eq_true, if_false]

theorem leading_token_of_solid (token : List Char) (solid : ∀ d ∈ token, isBlank d = false) :
    leadingToken token = (token, []) := by
  induction token with
  | nil => rfl
  | cons d token ih =>
      have tail := ih fun e inside => solid e (List.mem_cons_of_mem d inside)
      have head := solid d List.mem_cons_self
      simp only [leadingToken, tail, head, Bool.false_eq_true, if_false]

theorem tokens_blanks_append (blanks rest : List Char) (blank : ∀ c ∈ blanks, isBlank c = true) :
    tokens (blanks ++ rest) = tokens rest := by
  induction blanks with
  | nil => rfl
  | cons c blanks ih =>
      rw [List.cons_append, tokens_cons_of_blank c _ (blank c List.mem_cons_self)]
      exact ih fun d inside => blank d (List.mem_cons_of_mem c inside)

theorem tokens_token_append (token : List Char) (c : Char) (rest : List Char)
    (nonempty : token ≠ []) (solid : ∀ d ∈ token, isBlank d = false) (blank : isBlank c = true) :
    tokens (token ++ c :: rest) = token :: tokens rest := by
  simp only [tokens, leading_token_append_blank token c rest solid blank, if_neg nonempty]

theorem tokens_of_solid (token : List Char) (nonempty : token ≠ [])
    (solid : ∀ d ∈ token, isBlank d = false) : tokens token = [token] := by
  simp only [tokens, leading_token_of_solid token solid, if_neg nonempty]

end RegisterMachine.Text
