import RegisterMachine.Proofs.FirstDefect

set_option autoImplicit false

namespace RegisterMachine

namespace Text

abbrev Boundary (text : String) (offset : Nat) : Prop :=
  (⟨offset⟩ : String.Pos.Raw).IsValid text

-- The text between two offsets; `none` stands for a failed cut.
def slice (text : String) (first last : Nat) : Option String :=
  if bounds : first ≤ last ∧ Boundary text first ∧ Boundary text last then
    some (text.extract (text.pos ⟨first⟩ bounds.2.1) (text.pos ⟨last⟩ bounds.2.2))
  else none

def seek (text : String) (start : Nat) (d : Char) : Option (Option Nat) := do
  let later ← slice text start text.utf8ByteSize
  return (later.find? d).map fun found => start + found.offset.byteIdx

theorem boundary_after (before after : String) :
    Boundary (before ++ after) before.utf8ByteSize :=
  String.Pos.Raw.isValid_iff_exists_append.mpr ⟨before, after, rfl, rfl⟩

theorem slice_of_split (text before between after : String) (first last : Nat)
    (split : text = before ++ (between ++ after)) (start : before.utf8ByteSize = first)
    (stop : first + between.utf8ByteSize = last) : slice text first last = some between := by
  subst split start stop
  have low := boundary_after before (between ++ after)
  have high := boundary_after (before ++ between) after
  rw [String.append_assoc, String.utf8ByteSize_append] at high
  rw [slice, dif_pos ⟨Nat.le_add_right _ _, low, high⟩, Option.some.injEq,
    ← String.toByteArray_inj, String.toByteArray_extract, String.toByteArray_append,
    String.toByteArray_append]
  have shifted := ByteArray.extract_append_size_add (a := before.toByteArray)
    (b := between.toByteArray ++ after.toByteArray) (i := 0) (j := between.utf8ByteSize)
  exact shifted.trans (ByteArray.extract_append_eq_left rfl)

theorem slice_bounds (text piece : String) (first last : Nat)
    (cut : slice text first last = some piece) :
    first ≤ last ∧ Boundary text first ∧ Boundary text last := by
  rw [slice] at cut
  split at cut
  · assumption
  · cases cut

theorem slice_rest (text before after : String) (first : Nat) (split : text = before ++ after)
    (start : before.utf8ByteSize = first) : slice text first text.utf8ByteSize = some after := by
  apply slice_of_split text before after "" first _ _ start
  · rw [split, ← start, String.utf8ByteSize_append]
  · rw [String.append_empty, split]

theorem find_first (before after : String) (d : Char) (absent : d ∉ before.toList) :
    ((before ++ (String.singleton d ++ after)).find? d).map (fun found => found.offset.byteIdx) =
      some before.utf8ByteSize := by
  have inside := boundary_after before (String.singleton d ++ after)
  have found : (before ++ (String.singleton d ++ after)).find? d = some (String.pos _ _ inside) :=
    String.find?_char_eq_some_iff_splits.mpr ⟨before, after, ⟨rfl, rfl⟩, absent⟩
  rw [found]
  rfl

theorem find_missing (text : String) (d : Char) (absent : d ∉ text.toList) :
    text.find? d = none := by
  apply Option.eq_none_iff_forall_ne_some.mpr
  intro found first
  obtain ⟨before, after, split, -⟩ := String.find?_char_eq_some_iff_splits.mp first
  apply absent
  rw [split.eq_append]
  simp

theorem seek_first (text before between after : String) (start stop : Nat) (d : Char)
    (split : text = before ++ (between ++ (String.singleton d ++ after)))
    (begun : before.utf8ByteSize = start) (ended : start + between.utf8ByteSize = stop)
    (absent : d ∉ between.toList) : seek text start d = some (some stop) := by
  have found := congrArg (Option.map (start + ·)) (find_first between after d absent)
  rw [Option.map_map, Option.map_some, ended] at found
  rw [seek, slice_rest text before _ start split begun]
  exact congrArg some found

theorem seek_missing (text before later : String) (start : Nat) (d : Char)
    (split : text = before ++ later) (begun : before.utf8ByteSize = start)
    (absent : d ∉ later.toList) : seek text start d = some none := by
  rw [seek, slice_rest text before later start split begun, Option.bind_eq_bind, Option.bind_some,
    find_missing later d absent]
  rfl

end Text

namespace Instruction

open Text

structure Delimiters where
  comma : Nat
  opening : Nat
  closing : Nat
deriving DecidableEq, Repr

namespace Delimiters

def locate (text : String) : Option (Option Delimiters) := do
  match ← seek text 0 ',' with
  | none => return none
  | some comma =>
      match ← seek text comma '(' with
      | none => return none
      | some opening =>
          match ← seek text opening ')' with
          | none => return none
          | some closing => return some { comma, opening, closing }

def cut (text : String) (d : Delimiters) : Option OffsetParts := do
  let r ← slice text 0 d.comma
  let s ← slice text (d.comma + 1) d.opening
  let t ← slice text (d.opening + 1) d.closing
  let rest ← slice text (d.closing + 1) text.utf8ByteSize
  return { r := r.toList, s := s.toList, t := t.toList, rest := rest.toList }

end Delimiters

-- The parts of an operand text, cut by offsets. Delimiters that are not there are no failure.
def slicedParts (text : String) : Option (Option OffsetParts) := do
  match ← Delimiters.locate text with
  | none => return none
  | some d => return some (← d.cut text)

def readSliced (op : OffsetOp) (text : String) : Option (Except OperandError Instruction) := do
  match ← slicedParts text with
  | none => return .error (.malformed (Opcode.onOffset op).template)
  | some parts =>
      return do
        return .offset op (← readRegister parts.r) (← readInteger parts.s) (← readRegister parts.t)

def afterComma (r later : String) : String := r ++ ("," ++ later)

def afterOpening (r s later : String) : String := afterComma r (s ++ ("(" ++ later))

def delimited (r s t rest : String) : String := afterOpening r s (t ++ (")" ++ rest))

theorem delimited_eq (r s t rest : String) :
    delimited r s t rest = r ++ "," ++ s ++ "(" ++ t ++ ")" ++ rest := by
  simp only [delimited, afterOpening, afterComma, String.append_assoc]

namespace Delimiters

def after (r s t : String) : Delimiters where
  comma := r.utf8ByteSize
  opening := r.utf8ByteSize + 1 + s.utf8ByteSize
  closing := r.utf8ByteSize + 1 + s.utf8ByteSize + 1 + t.utf8ByteSize

theorem seek_comma (r later : String) (first : ',' ∉ r.toList) :
    seek (afterComma r later) 0 ',' = some (some r.utf8ByteSize) :=
  seek_first _ "" r later 0 _ ',' String.empty_append.symm rfl (Nat.zero_add _) first

theorem seek_opening (r s later : String) (second : '(' ∉ s.toList) :
    seek (afterOpening r s later) r.utf8ByteSize '(' =
      some (some (r.utf8ByteSize + 1 + s.utf8ByteSize)) := by
  apply seek_first _ r ("," ++ s) later _ _ '(' _ rfl
  · rw [String.utf8ByteSize_append, ← Nat.add_assoc]
    rfl
  · simpa using second
  · rw [String.append_assoc]
    rfl

theorem seek_closing (r s t rest : String) (third : ')' ∉ t.toList) :
    seek (delimited r s t rest) (r.utf8ByteSize + 1 + s.utf8ByteSize) ')' =
      some (some (r.utf8ByteSize + 1 + s.utf8ByteSize + 1 + t.utf8ByteSize)) := by
  apply seek_first _ (afterComma r s) ("(" ++ t) rest _ _ ')'
  · simp only [delimited, afterOpening, afterComma, String.append_assoc]
    rfl
  · simp only [afterComma, String.utf8ByteSize_append, ← Nat.add_assoc]
    rfl
  · rw [String.utf8ByteSize_append, ← Nat.add_assoc]
    rfl
  · simpa using third

theorem locate_no_comma (text : String) (missing : ',' ∉ text.toList) : locate text = some none := by
  have nothing := seek_missing text "" text 0 ',' String.empty_append.symm rfl missing
  rw [locate, nothing]
  rfl

theorem locate_no_opening (r later : String) (first : ',' ∉ r.toList)
    (missing : '(' ∉ later.toList) : locate (afterComma r later) = some none := by
  have nothing := seek_missing (afterComma r later) r ("," ++ later) _ '(' rfl rfl
    (by simpa using missing)
  simp only [locate, seek_comma r later first, Option.bind_eq_bind, Option.bind_some, nothing]
  rfl

theorem locate_no_closing (r s later : String) (first : ',' ∉ r.toList) (second : '(' ∉ s.toList)
    (missing : ')' ∉ later.toList) : locate (afterOpening r s later) = some none := by
  have comma : seek (afterOpening r s later) 0 ',' = some (some _) := seek_comma r _ first
  have nothing : seek (afterOpening r s later) (r.utf8ByteSize + 1 + s.utf8ByteSize) ')' =
      some none := by
    apply seek_missing _ (afterComma r s) ("(" ++ later)
    · simp only [afterOpening, afterComma, String.append_assoc]
    · simp only [afterComma, String.utf8ByteSize_append, ← Nat.add_assoc]
      rfl
    · simpa using missing
  simp only [locate, comma, seek_opening r s later second, Option.bind_eq_bind, Option.bind_some,
    nothing]
  rfl

theorem locate_delimited (r s t rest : String) (first : ',' ∉ r.toList) (second : '(' ∉ s.toList)
    (third : ')' ∉ t.toList) : locate (delimited r s t rest) = some (some (after r s t)) := by
  have comma : seek (delimited r s t rest) 0 ',' = some (some _) := seek_comma r _ first
  have opening : seek (delimited r s t rest) _ '(' = some (some _) := seek_opening r s _ second
  simp only [locate, comma, opening, Option.bind_eq_bind, Option.bind_some,
    seek_closing r s t rest third]
  rfl

theorem slice_delimited (r s t rest : String) :
    let text := delimited r s t rest
    let d := after r s t
    slice text 0 d.comma = some r ∧ slice text (d.comma + 1) d.opening = some s ∧
      slice text (d.opening + 1) d.closing = some t ∧
      slice text (d.closing + 1) text.utf8ByteSize = some rest := by
  intro text d
  refine ⟨?_, ?_, ?_, ?_⟩
  · exact slice_of_split text "" r _ 0 _ String.empty_append.symm rfl (Nat.zero_add _)
  · apply slice_of_split text (r ++ ",") s ("(" ++ (t ++ (")" ++ rest))) _ _ _ _ rfl
    · rw [String.append_assoc]
      rfl
    · exact String.utf8ByteSize_append
  · apply slice_of_split text (r ++ "," ++ s ++ "(") t (")" ++ rest) _ _ _ _ rfl
    · apply (delimited_eq r s t rest).trans
      simp only [String.append_assoc]
    · simp only [String.utf8ByteSize_append]
      rfl
  · apply slice_rest text (r ++ "," ++ s ++ "(" ++ t ++ ")") rest _ (delimited_eq r s t rest)
    simp only [String.utf8ByteSize_append]
    rfl

theorem cut_delimited (r s t rest : String) :
    (after r s t).cut (delimited r s t rest) =
      some { r := r.toList, s := s.toList, t := t.toList, rest := rest.toList } := by
  obtain ⟨first, second, third, last⟩ := slice_delimited r s t rest
  simp only [cut, first, second, third, last]
  rfl

end Delimiters

theorem sliced_cases (text : String) :
    (OffsetParts.ofText? text.toList = none ∧ Delimiters.locate text = some none) ∨
      ∃ r s t rest, text = delimited r s t rest ∧ ',' ∉ r.toList ∧ '(' ∉ s.toList ∧
        ')' ∉ t.toList ∧ OffsetParts.ofText? text.toList =
          some { r := r.toList, s := s.toList, t := t.toList, rest := rest.toList } := by
  cases found : OffsetParts.ofText? text.toList with
  | none =>
      refine .inl ⟨rfl, ?_⟩
      cases (misshapen_offset_iff .load text.toList).mpr found with
      | commas format => cases format
      | noComma _ missing => exact Delimiters.locate_no_comma text missing
      | notOpened before after _ split first missing =>
          have same : text = afterComma (String.ofList before) (String.ofList after) := by
            apply String.toList_inj.mp
            simpa [afterComma] using split
          rw [same]
          exact Delimiters.locate_no_opening _ _ (by simpa using first) (by simpa using missing)
      | notClosed before between after _ split first second missing =>
          have same : text = afterOpening (String.ofList before) (String.ofList between)
              (String.ofList after) := by
            apply String.toList_inj.mp
            simpa [afterOpening, afterComma] using split
          rw [same]
          exact Delimiters.locate_no_closing _ _ _ (by simpa using first) (by simpa using second)
            (by simpa using missing)
  | some parts =>
      obtain ⟨split, first, second, third⟩ := (OffsetParts.of_text_some_iff _ _).mp found
      refine .inr ⟨String.ofList parts.r, String.ofList parts.s, String.ofList parts.t,
        String.ofList parts.rest, ?_, ?_⟩
      · apply String.toList_inj.mp
        simpa [delimited, afterOpening, afterComma, OffsetParts.text] using split
      · simpa using ⟨first, second, third⟩

theorem sliced_parts_eq (text : String) :
    slicedParts text = some (OffsetParts.ofText? text.toList) := by
  rcases sliced_cases text with ⟨uncut, missing⟩ | ⟨r, s, t, rest, rfl, first, second, third, found⟩
  · rw [uncut, slicedParts, missing]
    rfl
  · have located := Delimiters.locate_delimited r s t rest first second third
    rw [found, slicedParts, located, Option.bind_eq_bind, Option.bind_some]
    simp only [Delimiters.cut_delimited]
    rfl

theorem read_sliced_eq (op : OffsetOp) (text : String) :
    readSliced op text = some (readOffset op text.toList) := by
  rw [readSliced, sliced_parts_eq, readOffset]
  cases OffsetParts.ofText? text.toList <;> rfl

theorem located_cut (text : String) (d : Delimiters)
    (located : Delimiters.locate text = some (some d)) :
    ∃ r s t rest, text = delimited r s t rest ∧ d = .after r s t ∧ ',' ∉ r.toList ∧
      '(' ∉ s.toList ∧ ')' ∉ t.toList := by
  rcases sliced_cases text with ⟨-, missing⟩ | ⟨r, s, t, rest, rfl, first, second, third, -⟩
  · rw [missing] at located
    cases located
  · rw [Delimiters.locate_delimited r s t rest first second third] at located
    cases located
    exact ⟨r, s, t, rest, rfl, rfl, first, second, third⟩

-- The bounds are those that a cut asks for, so they hold of every cut there is.
theorem slicing_never_fails (text : String) :
    (∀ op, readSliced op text = some (readOffset op text.toList)) ∧
      (∃ found, Delimiters.locate text = some found) ∧
      ∀ d, Delimiters.locate text = some (some d) →
        d.comma < d.opening ∧ d.opening < d.closing ∧ d.closing < text.utf8ByteSize ∧
          (∀ offset ∈ [0, d.comma, d.comma + 1, d.opening, d.opening + 1, d.closing],
            Boundary text offset) ∧
          ∃ r s t rest, slice text 0 d.comma = some r ∧
            slice text (d.comma + 1) d.opening = some s ∧
            slice text (d.opening + 1) d.closing = some t ∧
            text = r ++ "," ++ s ++ "(" ++ t ++ ")" ++ rest ∧
            ',' ∉ r.toList ∧ '(' ∉ s.toList ∧ ')' ∉ t.toList := by
  refine ⟨fun op => read_sliced_eq op text, ?_, ?_⟩
  · rcases sliced_cases text with ⟨-, missing⟩ | ⟨r, s, t, rest, rfl, first, second, third, -⟩
    · exact ⟨none, missing⟩
    · exact ⟨_, Delimiters.locate_delimited r s t rest first second third⟩
  · intro d located
    obtain ⟨r, s, t, rest, rfl, rfl, first, second, third⟩ := located_cut text d located
    obtain ⟨cutR, cutS, cutT, cutRest⟩ := Delimiters.slice_delimited r s t rest
    obtain ⟨-, start, comma⟩ := slice_bounds _ _ _ _ cutR
    obtain ⟨early, afterComma, opening⟩ := slice_bounds _ _ _ _ cutS
    obtain ⟨middle, afterOpening, closing⟩ := slice_bounds _ _ _ _ cutT
    obtain ⟨late, -, -⟩ := slice_bounds _ _ _ _ cutRest
    refine ⟨early, middle, late, ?_, ?_⟩
    · simp only [List.forall_mem_cons]
      exact ⟨start, comma, afterComma, opening, afterOpening, closing, by simp⟩
    · exact ⟨r, s, t, rest, cutR, cutS, cutT, delimited_eq r s t rest, first, second, third⟩

theorem slicing_among_wide_characters :
    let text := "é,)é(,(☃)☃,("
    Delimiters.locate text = some (some ⟨2, 6, 12⟩) ∧ 12 < text.utf8ByteSize ∧
      (∀ offset ∈ [0, 2, 3, 6, 7, 12], Boundary text offset) ∧
      ∃ r s t rest, text = r ++ "," ++ s ++ "(" ++ t ++ ")" ++ rest ∧
        ',' ∉ r.toList ∧ '(' ∉ s.toList ∧ ')' ∉ t.toList := by
  intro text
  have spelled : text = delimited "é" ")é" ",(☃" "☃,(" := by decide
  have located : Delimiters.locate text = some (some ⟨2, 6, 12⟩) := by
    rw [spelled]
    exact Delimiters.locate_delimited "é" ")é" ",(☃" "☃,(" (by decide) (by decide) (by decide)
  obtain ⟨-, -, found⟩ := slicing_never_fails text
  obtain ⟨-, -, late, boundaries, r, s, t, rest, -, -, -, split, apart⟩ := found _ located
  exact ⟨located, late, boundaries, r, s, t, rest, split, apart⟩

end Instruction

end RegisterMachine
