import RegisterMachine.Console.Reading
import RegisterMachine.Proofs.Lines
import RegisterMachine.Proofs.Literal

set_option autoImplicit false

namespace RegisterMachine

namespace Text

def utf8 (text : List Char) : List UInt8 := text.flatMap String.utf8EncodeChar

theorem utf8_append (first second : List Char) :
    utf8 (first ++ second) = utf8 first ++ utf8 second := by
  simp [utf8]

theorem utf8_feed : utf8 ['\n'] = [10] := rfl

theorem utf8_nonempty (text : List Char) (nonempty : text ≠ []) : utf8 text ≠ [] := by
  obtain ⟨c, text, rfl⟩ := List.exists_cons_of_ne_nil nonempty
  simp [utf8, String.utf8EncodeChar_ne_nil]

theorem from_utf8 (text : List Char) :
    String.fromUTF8? (utf8 text).toByteArray = some (String.ofList text) := by
  have encoded : (utf8 text).toByteArray = (String.ofList text).toByteArray := rfl
  rw [encoded, String.fromUTF8?, dif_pos (String.ofList text).isValidUTF8]
  rfl

theorem feed_ne_high_byte (n : Nat) (high : 128 ≤ n) (bound : n < 256) :
    (10 : UInt8) ≠ UInt8.ofNat n := by
  intro same
  have value := congrArg UInt8.toNat same
  rw [UInt8.toNat_ofNat_of_lt' bound] at value
  simp at value
  omega

-- The bytes of a character beyond ASCII are all above 127.
theorem feed_mem_encoding (c : Char) (inside : 10 ∈ String.utf8EncodeChar c) : c = '\n' := by
  have high : ∀ n, n < 128 → ¬ 10 = UInt8.ofNat (n + 128) :=
    fun n bound => feed_ne_high_byte (n + 128) (by omega) (by omega)
  delta String.utf8EncodeChar at inside
  by_cases ascii : c.val.toNat ≤ 127
  · simp only [if_pos ascii, List.mem_singleton] at inside
    have bound : c.val.toNat < UInt8.size := Nat.lt_of_le_of_lt ascii (by decide)
    have value := congrArg UInt8.toNat inside
    rw [UInt8.toNat_ofNat_of_lt' bound] at value
    exact Char.ext (UInt32.toNat_inj.mp value.symm)
  · exfalso
    by_cases two : c.val.toNat ≤ 2047
    · simp only [if_neg ascii, if_pos two, List.mem_cons, List.not_mem_nil, or_false] at inside
      rcases inside with first | second
      · exact high (c.val.toNat / 64 % 32 + 64) (by omega) first
      · exact high (c.val.toNat % 64) (by omega) second
    · by_cases three : c.val.toNat ≤ 65535
      · simp only [if_neg ascii, if_neg two, if_pos three, List.mem_cons, List.not_mem_nil,
          or_false] at inside
        rcases inside with first | second | third
        · exact high (c.val.toNat / 4096 % 16 + 96) (by omega) first
        · exact high (c.val.toNat / 64 % 64) (by omega) second
        · exact high (c.val.toNat % 64) (by omega) third
      · simp only [if_neg ascii, if_neg two, if_neg three, List.mem_cons, List.not_mem_nil,
          or_false] at inside
        rcases inside with first | second | third | fourth
        · exact high (c.val.toNat / 262144 % 8 + 112) (by omega) first
        · exact high (c.val.toNat / 4096 % 64) (by omega) second
        · exact high (c.val.toNat / 64 % 64) (by omega) third
        · exact high (c.val.toNat % 64) (by omega) fourth

theorem feed_mem_utf8 (text : List Char) (inside : 10 ∈ utf8 text) : '\n' ∈ text := by
  obtain ⟨c, member, byte⟩ := List.mem_flatMap.mp inside
  exact feed_mem_encoding c byte ▸ member

end Text

open Text

namespace Reading

theorem split_line_ended (line rest : List UInt8) (whole : 10 ∉ line) :
    splitLine (line ++ 10 :: rest) = (line ++ [10], rest) := by
  induction line with
  | nil => rfl
  | cons byte line ih =>
      obtain ⟨other, whole⟩ := not_or.mp (fun member => whole (List.mem_cons.mpr member))
      rw [List.cons_append, splitLine, if_neg (Ne.symm other), ih whole]
      rfl

theorem split_line_last (line : List UInt8) (whole : 10 ∉ line) : splitLine line = (line, []) := by
  induction line with
  | nil => rfl
  | cons byte line ih =>
      obtain ⟨other, whole⟩ := not_or.mp (fun member => whole (List.mem_cons.mpr member))
      rw [splitLine, if_neg (Ne.symm other), ih whole]

theorem split_text_ended (line rest : List Char) (whole : '\n' ∉ line) :
    splitLine (utf8 (line ++ '\n' :: rest)) = (utf8 (line ++ ['\n']), utf8 rest) := by
  have bytes : utf8 (line ++ '\n' :: rest) = utf8 line ++ 10 :: utf8 rest := utf8_append line _
  rw [bytes, split_line_ended _ _ (fun inside => whole (feed_mem_utf8 line inside)), utf8_append,
    utf8_feed]

theorem split_text_last (line : List Char) (whole : '\n' ∉ line) :
    splitLine (utf8 line) = (utf8 line, []) :=
  split_line_last _ fun inside => whole (feed_mem_utf8 line inside)

theorem of_line_text (text : List Char) (nonempty : text ≠ []) :
    ofLine (utf8 text) = ofText (String.ofList text) := by
  rw [ofLine, if_neg (utf8_nonempty text nonempty), from_utf8]

theorem trim_end_append (line ending : List Char) (noReturn : '\r' ∉ line) (noFeed : '\n' ∉ line)
    (blank : ∀ c ∈ ending, c = '\r' ∨ c = '\n') : trimEnd (line ++ ending) = line := by
  have trimmed : ∀ c ∈ ending.reverse, (c == '\r' || c == '\n') = true := by
    intro c inside
    simpa using blank c (List.mem_reverse.mp inside)
  have kept : (line.reverse.dropWhile fun c => c == '\r' || c == '\n') = line.reverse := by
    cases reversed : line.reverse with
    | nil => rfl
    | cons c later =>
        have inside : c ∈ line := List.mem_reverse.mp (reversed ▸ List.mem_cons_self)
        have other : ¬ (c == '\r' || c == '\n') = true := by
          intro same
          rcases (by simpa using same : c = '\r' ∨ c = '\n') with rfl | rfl
          · exact noReturn inside
          · exact noFeed inside
        exact List.dropWhile_cons_of_neg other
  rw [trimEnd, List.reverse_append, List.dropWhile_append_of_pos trimmed, kept,
    List.reverse_reverse]

theorem literal_excludes_blank (literal : List Char) (value : Int)
    (valid : Numeral.Literal literal value) (c : Char) (blank : isBlank c = true) :
    c ∉ literal := by
  intro inside
  have solid := Numeral.literal_solid literal value valid c inside
  rw [blank] at solid
  cases solid

theorem of_line_literal (w : Word) (literal ending : List Char)
    (valid : Numeral.Literal literal w.toInt) (blank : ∀ c ∈ ending, c = '\r' ∨ c = '\n') :
    ofLine (utf8 (literal ++ ending)) = .number w := by
  have read := (Word.read_iff_literal literal w).mpr valid
  have nonempty : literal ++ ending ≠ [] := by
    intro empty
    rw [(List.append_eq_nil_iff.mp empty).1] at read
    cases read
  have noReturn := literal_excludes_blank literal w.toInt valid '\r' (by decide)
  have noFeed := literal_excludes_blank literal w.toInt valid '\n' (by decide)
  rw [of_line_text _ nonempty, ofText, String.toList_ofList,
    trim_end_append literal ending noReturn noFeed blank, read]

theorem of_line_word (w : Word) (ending : List Char) (blank : ∀ c ∈ ending, c = '\r' ∨ c = '\n') :
    ofLine (utf8 (w.write ++ ending)) = .number w :=
  of_line_literal w w.write ending w.write_literal blank

-- The end of the line, if there is one, belongs to the reading and is trimmed.
theorem typed_word (w : Word) (later : List Word) (text : List Char)
    (typed : OnLines ((w :: later).map Word.write) text) :
    ∃ line rest, splitLine (utf8 text) = (line, utf8 rest) ∧ ofLine line = .number w ∧
      OnLines (later.map Word.write) rest := by
  have noFeed := literal_excludes_blank w.write w.toInt w.write_literal '\n' (by decide)
  rw [List.map_cons] at typed
  generalize written : later.map Word.write = others at typed ⊢
  cases typed with
  | last =>
      refine ⟨utf8 (w.write ++ []), [], ?_, of_line_word w [] (by simp), .empty⟩
      rw [List.append_nil]
      exact split_text_last w.write noFeed
  | ended _ ending _ rest valid typed =>
      cases valid with
      | feed =>
          refine ⟨utf8 (w.write ++ ['\n']), rest, ?_, of_line_word w ['\n'] (by simp), typed⟩
          exact split_text_ended w.write rest noFeed
      | returnFeed =>
          have whole : '\n' ∉ w.write ++ ['\r'] := by simp [noFeed]
          have split := split_text_ended (w.write ++ ['\r']) rest whole
          simp only [List.append_assoc, List.singleton_append] at split
          exact ⟨_, rest, split, of_line_word w ['\r', '\n'] (by simp), typed⟩

end Reading

end RegisterMachine
