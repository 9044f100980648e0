import RegisterMachine.Proofs.Source

set_option autoImplicit false

namespace RegisterMachine

open Text

namespace Text

def Complete (text : List Char) : Prop := text = [] ∨ text.getLast? = some '\n'

theorem complete_rest (line rest : List Char) (complete : Complete (line ++ '\n' :: rest)) :
    Complete rest := by
  cases rest with
  | nil => exact .inl rfl
  | cons c rest =>
      rcases complete with empty | last
      · simp at empty
      · right
        simpa using last

theorem physical_lines_append (text more : List Char) (found : List (List Char))
    (split : PhysicalLines text found) (complete : Complete text) :
    lines (text ++ more) = found ++ lines more ∧ found.length = text.count '\n' := by
  induction split with
  | empty => exact ⟨rfl, rfl⟩
  | last line nonempty whole =>
      rcases complete with empty | last
      · exact absurd empty nonempty
      · exact absurd (List.mem_of_getLast? last) whole
  | ended line rest later whole _ ih =>
      obtain ⟨onward, count⟩ := ih (complete_rest line rest complete)
      refine ⟨?_, ?_⟩
      · rw [List.append_assoc, List.cons_append, lines_ended line _ whole, onward]
        rfl
      · rw [List.length_cons, count, List.count_append, List.count_eq_zero.mpr whole,
          List.count_cons_self, Nat.zero_add]

theorem lines_append (text more : List Char) (complete : Complete text) :
    lines (text ++ more) = lines text ++ lines more :=
  (physical_lines_append text more _ (lines_physical text) complete).1

theorem lines_count (text : List Char) (complete : Complete text) :
    (lines text).length = text.count '\n' :=
  (physical_lines_append text [] _ (lines_physical text) complete).2

end Text

namespace Program

theorem of_lines_append_error (number : Nat) (first second : List (List Char)) (e : LoadError)
    (failed : ofLines number first = .error e) : ofLines number (first ++ second) = .error e := by
  obtain ⟨before, line, after, cause, rfl, valid, rejected, same⟩ :=
    (of_lines_error_iff number first e).mp failed
  apply (of_lines_error_iff number _ e).mpr
  exact ⟨before, line, after ++ second, cause, by simp, valid, rejected, same⟩

theorem of_lines_append_ok (number : Nat) (first second : List (List Char)) (p : Program)
    (read : ofLines number first = .ok p) :
    ofLines number (first ++ second) = (ofLines (number + first.length) second).map (p ++ ·) := by
  obtain ⟨valid, rfl⟩ := (of_lines_ok_iff number first p).mp read
  exact of_lines_append number first second valid

theorem of_lines_error_later (number further : Nat) (written : List (List Char)) (n : Nat)
    (line : String) (cause : DecodeError)
    (failed : ofLines number written = .error (.decode n line cause)) :
    ofLines (number + further) written = .error (.decode (n + further) line cause) := by
  obtain ⟨before, text, after, why, split, valid, rejected, same⟩ :=
    (of_lines_error_iff number written _).mp failed
  cases same
  apply (of_lines_error_iff _ written _).mpr
  refine ⟨before, text, after, cause, split, valid, rejected, ?_⟩
  rw [Nat.add_right_comm]

theorem of_lines_ok_later (number further : Nat) (written : List (List Char)) (p : Program)
    (read : ofLines number written = .ok p) : ofLines (number + further) written = .ok p :=
  (of_lines_ok_iff _ written p).mpr ((of_lines_ok_iff number written p).mp read)

theorem parse_complete_append (a b : String) (complete : Complete a.toList) :
    parse (a ++ b) = ofLines 1 (lines a.toList ++ lines b.toList) := by
  rw [parse, String.toList_append, lines_append _ _ complete]

end Program

theorem parsing_is_compositional (a b : String)
    (complete : a = "" ∨ a.toList.getLast? = some '\n') :
    (∀ e, Program.parse a = .error e → Program.parse (a ++ b) = .error e) ∧
      (∀ p n line cause, Program.parse a = .ok p →
        Program.parse b = .error (.decode n line cause) →
          Program.parse (a ++ b) = .error (.decode (n + a.toList.count '\n') line cause)) ∧
      ∀ p q, Program.parse a = .ok p → Program.parse b = .ok q →
        Program.parse (a ++ b) = .ok (p ++ q) := by
  have ended : Complete a.toList := complete.imp (fun empty => by rw [empty]; rfl) id
  rw [Program.parse_complete_append a b ended, ← lines_count a.toList ended]
  refine ⟨?_, ?_, ?_⟩
  · intro e failed
    exact Program.of_lines_append_error 1 _ _ e failed
  · intro p n line cause read failed
    rw [Program.of_lines_append_ok 1 _ _ p read,
      Program.of_lines_error_later 1 _ _ n line cause failed]
    rfl
  · intro p q read second
    rw [Program.of_lines_append_ok 1 _ _ p read, Program.of_lines_ok_later 1 _ _ q second]
    rfl

theorem rejected_line_counted_through :
    ("*\r\nHALT 0,0,0\n\r\n" = "" ∨ "*\r\nHALT 0,0,0\n\r\n".toList.getLast? = some '\n') ∧
      Program.parse "*\r\nHALT 0,0,0\n\r\n" = .ok [.halt] ∧
      Program.parse ",\nx 1" = .error (.decode 2 "x 1" (.invalidOpcode "x")) ∧
      Program.parse ("*\r\nHALT 0,0,0\n\r\n" ++ ",\nx 1") =
        .error (.decode 5 "x 1" (.invalidOpcode "x")) := by
  have complete : "*\r\nHALT 0,0,0\n\r\n" = "" ∨
      "*\r\nHALT 0,0,0\n\r\n".toList.getLast? = some '\n' := .inr rfl
  have read : Program.parse "*\r\nHALT 0,0,0\n\r\n" = .ok [.halt] := rfl
  have failed : Program.parse ",\nx 1" = .error (.decode 2 "x 1" (.invalidOpcode "x")) := rfl
  obtain ⟨-, later, -⟩ := parsing_is_compositional "*\r\nHALT 0,0,0\n\r\n" ",\nx 1" complete
  exact ⟨complete, read, failed, later _ 2 "x 1" _ read failed⟩

end RegisterMachine
