set_option autoImplicit false

namespace RegisterMachine.Text

def cut (d : Char) : List Char → Option (List Char × List Char)
  | [] => none
  | c :: rest =>
      if c = d then some ([], rest) else (cut d rest).map fun (before, after) => (c :: before, after)

def fields (d : Char) : List Char → List (List Char)
  | [] => [[]]
  | c :: rest =>
      if c = d then [] :: fields d rest
      else
        match fields d rest with
        | [] => [[c]]
        | first :: later => (c :: first) :: later

theorem cut_none_iff (d : Char) (text : List Char) : cut d text = none ↔ d ∉ text := by
  induction text with
  | nil => simp [cut]
  | cons c rest ih =>
      by_cases same : c = d
      · simp [cut, same]
      · simp [cut, same, ih, Ne.symm same]

theorem cut_some_iff (d : Char) (text before after : List Char) :
    cut d text = some (before, after) ↔ text = before ++ d :: after ∧ d ∉ before := by
  induction text generalizing before with
  | nil => simp [cut]
  | cons c rest ih =>
      by_cases same : c = d
      · subst same
        cases before with
        | nil => simp [cut, eq_comm]
        | cons b before =>
            simp only [cut, ↓reduceIte, Option.some.injEq, Prod.mk.injEq, List.nil_eq, reduceCtorEq,
              false_and, List.cons_append, List.cons.injEq, List.mem_cons, not_or, false_iff, not_and]
            intro found different
            obtain ⟨rfl, -⟩ := found
            exact absurd rfl different
      · cases before with
        | nil => simp [cut, same]
        | cons b before =>
            simp only [cut, if_neg same, Option.map_eq_some_iff, Prod.exists, Prod.mk.injEq,
              List.cons.injEq, List.cons_append, List.mem_cons, not_or]
            refine ⟨?_, ?_⟩
            · intro found
              obtain ⟨start, finish, later, ⟨rfl, rfl⟩, rfl⟩ := found
              have split := (ih start).mp later
              exact ⟨⟨rfl, split.1⟩, Ne.symm same, split.2⟩
            · intro joined
              obtain ⟨⟨rfl, split⟩, -, absent⟩ := joined
              exact ⟨before, after, (ih before).mpr ⟨split, absent⟩, ⟨rfl, rfl⟩, rfl⟩

theorem fields_ne_nil (d : Char) (text : List Char) : fields d text ≠ [] := by
  cases text with
  | nil => simp [fields]
  | cons c rest =>
      rw [fields]
      split
      · simp
      · split <;> simp

theorem fields_of_not_mem (d : Char) (text : List Char) (absent : d ∉ text) :
    fields d text = [text] := by
  induction text with
  | nil => rfl
  | cons c rest ih =>
      simp only [List.mem_cons, not_or] at absent
      rw [fields, if_neg (Ne.symm absent.1), ih absent.2]

theorem fields_append (d : Char) (before after : List Char) (absent : d ∉ before) :
    fields d (before ++ d :: after) = before :: fields d after := by
  induction before with
  | nil => simp [fields]
  | cons c before ih =>
      simp only [List.mem_cons, not_or] at absent
      rw [List.cons_append, fields, if_neg (Ne.symm absent.1), ih absent.2]

theorem not_mem_of_mem_fields (d : Char) (text : List Char) :
    ∀ field ∈ fields d text, d ∉ field := by
  induction text with
  | nil => simp [fields]
  | cons c rest ih =>
      rw [fields]
      by_cases same : c = d
      · simpa [if_pos same] using ih
      · rw [if_neg same]
        cases found : fields d rest with
        | nil => exact absurd found (fields_ne_nil d rest)
        | cons first later =>
            rw [found] at ih
            intro field inside
            rcases List.mem_cons.mp inside with rfl | inside
            · have absent := ih first List.mem_cons_self
              simp [absent, Ne.symm same]
            · exact ih field (List.mem_cons_of_mem first inside)

theorem intercalate_fields (d : Char) (text : List Char) :
    [d].intercalate (fields d text) = text := by
  induction text with
  | nil => rfl
  | cons c rest ih =>
      rw [fields]
      cases found : fields d rest with
      | nil => exact absurd found (fields_ne_nil d rest)
      | cons first later =>
          rw [found] at ih
          by_cases same : c = d
          · rw [if_pos same, List.intercalate_cons_cons, ih, same]
            rfl
          · rw [if_neg same, ← ih]
            cases later with
            | nil => rfl
            | cons second later => simp only [List.intercalate_cons_cons, List.cons_append]

end RegisterMachine.Text
