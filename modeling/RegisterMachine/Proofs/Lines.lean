import RegisterMachine.Text.Fields
import RegisterMachine.Text.Lines

set_option autoImplicit false

namespace RegisterMachine.Text

def dropReturn (line : List Char) : List Char :=
  if line.getLast? = some '\r' then line.dropLast else line

inductive PhysicalLines : List Char → List (List Char) → Prop
  | empty : PhysicalLines [] []
  | last (line : List Char) (nonempty : line ≠ []) (whole : '\n' ∉ line) :
      PhysicalLines line [line]
  | ended (line rest : List Char) (later : List (List Char)) (whole : '\n' ∉ line)
      (split : PhysicalLines rest later) :
      PhysicalLines (line ++ '\n' :: rest) (dropReturn line :: later)

inductive LineEnd : List Char → Prop
  | feed : LineEnd ['\n']
  | returnFeed : LineEnd ['\r', '\n']

inductive OnLines : List (List Char) → List Char → Prop
  | empty : OnLines [] []
  | last (line : List Char) : OnLines [line] line
  | ended (line ending : List Char) (later : List (List Char)) (rest : List Char)
      (valid : LineEnd ending) (written : OnLines later rest) :
      OnLines (line :: later) (line ++ (ending ++ rest))

theorem drop_return_append_left (start line : List Char) (nonempty : line ≠ []) :
    dropReturn (start ++ line) = start ++ dropReturn line := by
  have same : (start ++ line).getLast? = line.getLast? := by
    rw [List.getLast?_append, List.getLast?_eq_some_getLast nonempty]
    rfl
  rw [dropReturn, dropReturn, same]
  by_cases ended : line.getLast? = some '\r'
  · rw [if_pos ended, if_pos ended, List.dropLast_append_of_ne_nil nonempty]
  · rw [if_neg ended, if_neg ended]

theorem drop_return_append (line : List Char) : dropReturn (line ++ ['\r']) = line := by
  simp [dropReturn]

theorem drop_return_of_not_mem (line : List Char) (absent : '\r' ∉ line) :
    dropReturn line = line := by
  have other : line.getLast? ≠ some '\r' := fun last => absent (List.mem_of_getLast? last)
  rw [dropReturn, if_neg other]

theorem drop_return_sublist (line : List Char) : (dropReturn line).Sublist line := by
  by_cases ended : line.getLast? = some '\r'
  · simp [dropReturn, ended, List.dropLast_sublist]
  · simp [dropReturn, ended]

-- The carriage return is special only where a line feed follows, and there it ends the line.
theorem lines_cons (c : Char) (rest : List Char) (notFeed : c ≠ '\n')
    (notReturnFeed : c = '\r' → rest.head? ≠ some '\n') :
    lines (c :: rest) = consFirst c (lines rest) := by
  rw [lines.eq_def]
  split
  · contradiction
  · rename_i same
    exact absurd (List.cons.inj same).1 notFeed
  · rename_i same
    obtain ⟨rfl, rfl⟩ := List.cons.inj same
    exact absurd rfl (notReturnFeed rfl)
  · rename_i same
    obtain ⟨rfl, rfl⟩ := List.cons.inj same
    rfl

theorem lines_ended (line rest : List Char) (whole : '\n' ∉ line) :
    lines (line ++ '\n' :: rest) = dropReturn line :: lines rest := by
  induction line with
  | nil => exact lines_feed rest
  | cons c line ih =>
      obtain ⟨notFeed, whole⟩ := not_or.mp (fun member => whole (List.mem_cons.mpr member))
      by_cases alone : line = []
      · subst alone
        by_cases carriage : c = '\r'
        · subst carriage
          exact lines_return_feed rest
        · have kept : dropReturn [c] = [c] := by simp [dropReturn, carriage]
          rw [kept, List.singleton_append, lines_cons c _ (Ne.symm notFeed) (absurd · carriage),
            lines_feed]
          rfl
      · have other : c = '\r' → (line ++ '\n' :: rest).head? ≠ some '\n' := by
          intro _ first
          obtain ⟨d, line, rfl⟩ := List.exists_cons_of_ne_nil alone
          have same : d = '\n' := by simpa using first
          exact whole (same ▸ List.mem_cons_self)
        have kept : dropReturn (c :: line) = c :: dropReturn line :=
          drop_return_append_left [c] line alone
        rw [List.cons_append, lines_cons c _ (Ne.symm notFeed) other, ih whole, kept]
        rfl

theorem lines_last (line : List Char) (nonempty : line ≠ []) (whole : '\n' ∉ line) :
    lines line = [line] := by
  induction line with
  | nil => contradiction
  | cons c line ih =>
      obtain ⟨notFeed, whole⟩ := not_or.mp (fun member => whole (List.mem_cons.mpr member))
      have other : c = '\r' → line.head? ≠ some '\n' :=
        fun _ first => whole (List.mem_of_head? first)
      rw [lines_cons c line (Ne.symm notFeed) other]
      by_cases alone : line = []
      · rw [alone, lines_nil]
        rfl
      · rw [ih alone whole]
        rfl

-- A bare line feed leaves the line as if its own last carriage return were part of the end.
theorem lines_ending (line ending rest : List Char) (valid : LineEnd ending)
    (whole : '\n' ∉ line) :
    lines (line ++ (ending ++ rest)) = dropReturn line :: lines rest ∨
      lines (line ++ (ending ++ rest)) = line :: lines rest := by
  cases valid with
  | feed => exact .inl (lines_ended line rest whole)
  | returnFeed =>
      have stays : '\n' ∉ line ++ ['\r'] := by simp [whole]
      have split := lines_ended (line ++ ['\r']) rest stays
      rw [drop_return_append, List.append_assoc] at split
      exact .inr split

theorem lines_physical (text : List Char) : PhysicalLines text (lines text) := by
  cases found : cut '\n' text with
  | none =>
      have whole := (cut_none_iff '\n' text).mp found
      by_cases nothing : text = []
      · rw [nothing, lines_nil]
        exact .empty
      · rw [lines_last text nothing whole]
        exact .last text nothing whole
  | some pieces =>
      obtain ⟨line, rest⟩ := pieces
      obtain ⟨split, whole⟩ := (cut_some_iff '\n' text line rest).mp found
      have shorter : rest.length < text.length := by
        rw [split, List.length_append, List.length_cons]
        omega
      rw [split, lines_ended line rest whole]
      exact .ended line rest _ whole (lines_physical rest)
termination_by text.length

theorem physical_lines_unique (text : List Char) (found : List (List Char))
    (split : PhysicalLines text found) : found = lines text := by
  induction split with
  | empty => rw [lines_nil]
  | last line nonempty whole => rw [lines_last line nonempty whole]
  | ended line rest later whole split ih => rw [lines_ended line rest whole, ih]

theorem physical_lines_iff (text : List Char) (found : List (List Char)) :
    PhysicalLines text found ↔ found = lines text := by
  refine ⟨physical_lines_unique text found, ?_⟩
  intro same
  subst same
  exact lines_physical text

example : lines "a\r\n\n\rb\r".toList = ["a".toList, [], "\rb\r".toList] := rfl

end RegisterMachine.Text
