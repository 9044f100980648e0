import RegisterMachine.CommandLine
import RegisterMachine.Proofs.Grammar

set_option autoImplicit false

namespace RegisterMachine

open Numeral

namespace Numeral

inductive Fills (width : Nat) (i : Int) : List Char → Prop
  | negative (digits : List Char) (below : i < 0) (valid : IsDigits digits)
      (count : digits.length + 1 = width) : Fills width i ('-' :: digits)
  | notNegative (digits : List Char) (above : 0 ≤ i) (valid : IsDigits digits)
      (count : digits.length = width) : Fills width i digits

theorem padded_digits (zeros n : Nat) :
    IsDigits (List.replicate zeros '0' ++ Nat.toDigits 10 n) ∧
      placeValue (List.replicate zeros '0' ++ Nat.toDigits 10 n) = n := by
  refine ⟨(is_digits_iff _).mpr ⟨by simp, ?_⟩, ?_⟩
  · rw [List.all_append, Bool.and_eq_true]
    refine ⟨by simp, List.all_eq_true.mpr ?_⟩
    intro c inside
    exact Nat.isDigit_of_mem_toDigits (by decide) (by decide) inside
  · rw [← place_value_eq, Nat.ofDigitChars_append, Nat.ofDigitChars_replicate_zero, Nat.mul_zero,
      Nat.ofDigitChars_ten_toDigits]

theorem leftpad_digits (width n : Nat) :
    IsDigits ((Nat.toDigits 10 n).leftpad width '0') ∧
      placeValue ((Nat.toDigits 10 n).leftpad width '0') = n :=
  padded_digits (width - (Nat.toDigits 10 n).length) n

theorem leftpad_width (width n : Nat) (positive : 0 < width) (fits : n < 10 ^ width) :
    ((Nat.toDigits 10 n).leftpad width '0').length = width := by
  rw [List.length_leftpad]
  exact Nat.max_eq_left ((Nat.length_toDigits_le_iff (by decide) positive).mpr fits)

theorem write_padded_negative (width : Nat) (i : Int) (below : i < 0) :
    writePadded width i = '-' :: (Nat.toDigits 10 i.natAbs).leftpad (width - 1) '0' := by
  rw [writePadded, sign, if_pos below]
  rfl

theorem write_padded_not_negative (width : Nat) (i : Int) (above : 0 ≤ i) :
    writePadded width i = (Nat.toDigits 10 i.natAbs).leftpad width '0' := by
  rw [writePadded, sign, if_neg (Int.not_lt.mpr above)]
  rfl

theorem write_padded_literal (width : Nat) (i : Int) : Literal (writePadded width i) i := by
  by_cases below : i < 0
  · obtain ⟨valid, value⟩ := leftpad_digits (width - 1) i.natAbs
    have literal := Literal.minus _ valid
    have whole : -(i.natAbs : Int) = i := by omega
    rw [value, whole] at literal
    rw [write_padded_negative width i below]
    exact literal
  · have above := Int.not_lt.mp below
    obtain ⟨valid, value⟩ := leftpad_digits width i.natAbs
    have literal := Literal.unsigned _ valid
    have whole : (i.natAbs : Int) = i := by omega
    rw [value, whole] at literal
    rw [write_padded_not_negative width i above]
    exact literal

-- The sign takes one of the columns, so the digits have to do with one less.
theorem write_padded_fills (width : Nat) (i : Int) (fits : i.natAbs < 10 ^ width) :
    Fills (width + 1) i (writePadded (width + 1) i) := by
  by_cases below : i < 0
  · have positive : 0 < width := by
      apply Nat.pos_of_ne_zero
      intro none
      subst none
      omega
    rw [write_padded_negative (width + 1) i below, Nat.add_sub_cancel]
    exact .negative _ below (leftpad_digits width i.natAbs).1
      (congrArg (· + 1) (leftpad_width width i.natAbs positive fits))
  · have above := Int.not_lt.mp below
    have more : i.natAbs < 10 ^ (width + 1) := by omega
    rw [write_padded_not_negative (width + 1) i above]
    exact .notNegative _ above (leftpad_digits (width + 1) i.natAbs).1
      (leftpad_width (width + 1) i.natAbs (Nat.succ_pos width) more)

theorem fills_length (width : Nat) (i : Int) (field : List Char) (fills : Fills width i field) :
    field.length = width := by
  cases fills with
  | negative digits _ _ count => exact count
  | notNegative _ _ _ count => exact count

end Numeral

namespace Word

-- The least word is the longest one, and it leaves no column for a zero.
theorem fills_eleven (w : Word) : Fills 11 w.toInt (writePadded 11 w.toInt) := by
  have low := least_le_to_int w
  have high := to_int_le_greatest w
  simp only [least, greatest] at low high
  exact write_padded_fills 10 w.toInt (by omega)

theorem read_padded (width : Nat) (w : Word) : read? (writePadded width w.toInt) = some w :=
  (read_iff_literal _ w).mpr (write_padded_literal width w.toInt)

end Word

namespace Text

theorem intercalate_piece (separator : List Char) (width i : Nat) (pieces : List (List Char))
    (piece : List Char) (uniform : ∀ piece ∈ pieces, piece.length = width)
    (found : pieces[i]? = some piece) :
    ∃ later, (separator.intercalate pieces).drop ((width + separator.length) * i) =
      piece ++ later := by
  induction i generalizing pieces with
  | zero =>
      obtain ⟨others, rfl⟩ : ∃ others, pieces = piece :: others :=
        List.head?_eq_some_iff.mp (List.head?_eq_getElem? ▸ found)
      cases others with
      | nil => exact ⟨[], by simp⟩
      | cons second others =>
          refine ⟨separator ++ separator.intercalate (second :: others), ?_⟩
          rw [List.intercalate_cons_cons, List.append_assoc]
          rfl
  | succ i ih =>
      match pieces, found with
      | first :: second :: others, found =>
          obtain ⟨head, tail⟩ := List.forall_mem_cons.mp uniform
          have distance : (width + separator.length) * (i + 1) =
              (first ++ separator).length + (width + separator.length) * i := by
            rw [List.length_append, head, Nat.mul_succ, Nat.add_comm]
          rw [List.intercalate_cons_cons, distance, List.drop_length_add_append]
          exact ih (second :: others) tail found

end Text

namespace CommandLine

def label (index : Nat) : List Char := index.repr.toList ++ [':', ' ']

def valueAt (line : String) (index : Nat) : List Char := (line.toList.drop (16 * index + 3)).take 11

theorem label_length (index : Nat) (single : index < 10) : (label index).length = 3 := by
  rw [label, Nat.toList_repr, Nat.toDigits_of_lt_base single]
  rfl

theorem register_field_text (index : Nat) (w : Word) :
    (registerField index w).toList = label index ++ writePadded 11 w.toInt := by
  rw [registerField, String.toList_append, String.toList_append, label, String.toList_ofList,
    String.toList_ofList]

def columns (registers : Vector Word 8) : List (List Char) :=
  (registers.toList.mapIdx registerField).map String.toList

theorem register_line_columns (registers : Vector Word 8) :
    (registerLine registers).toList = [' ', ' '].intercalate (columns registers) :=
  String.toList_intercalate

theorem columns_length (registers : Vector Word 8) : (columns registers).length = 8 := by
  rw [columns, List.length_map, List.length_mapIdx, Vector.length_toList]

theorem columns_get (registers : Vector Word 8) (r : Register) :
    (columns registers)[r.val]? = some (label r.val ++ writePadded 11 (registers.get r).toInt) := by
  rw [columns, List.getElem?_map, List.getElem?_mapIdx, Vector.getElem?_toList,
    Vector.getElem?_eq_getElem r.isLt, Option.map_some, Option.map_some, register_field_text]
  rfl

theorem columns_uniform (registers : Vector Word 8) :
    ∀ column ∈ columns registers, column.length = 14 := by
  intro column inside
  obtain ⟨index, found⟩ := List.mem_iff_getElem?.mp inside
  have bound : index < 8 := columns_length registers ▸ (List.getElem?_eq_some_iff.mp found).1
  have single : index < 10 := by omega
  rw [columns_get registers ⟨index, bound⟩, Option.some.injEq] at found
  rw [← found, List.length_append, label_length index single, fills_length _ _ _ (Word.fills_eleven _)]

theorem value_at_register (registers : Vector Word 8) (r : Register) :
    valueAt (registerLine registers) r.val = writePadded 11 (registers.get r).toInt := by
  obtain ⟨later, split⟩ := Text.intercalate_piece [' ', ' '] 14 r.val _ _
    (columns_uniform registers) (columns_get registers r)
  have single : r.val < 10 := by omega
  have start : ((registerLine registers).toList.drop (16 * r.val)).drop 3 =
      writePadded 11 (registers.get r).toInt ++ later := by
    rw [register_line_columns]
    apply (congrArg (List.drop 3) split).trans
    rw [List.append_assoc]
    exact List.drop_left' (label_length r.val single)
  rw [List.drop_drop] at start
  rw [valueAt, start]
  exact List.take_left' (fills_length _ _ _ (Word.fills_eleven _))

theorem columns_values (registers : Vector Word 8) :
    columns registers =
      (List.range 8).map fun index => label index ++ valueAt (registerLine registers) index := by
  apply List.ext_getElem?
  intro index
  rcases Nat.lt_or_ge index 8 with inside | outside
  · have value := value_at_register registers ⟨index, inside⟩
    rw [columns_get registers ⟨index, inside⟩, List.getElem?_map, List.getElem?_range inside,
      Option.map_some, value]
  · rw [List.getElem?_eq_none (columns_length registers ▸ outside), List.getElem?_eq_none]
    simpa using outside

theorem register_line_spelled (registers : Vector Word 8) :
    let value := valueAt (registerLine registers)
    (registerLine registers).toList =
      "0: ".toList ++ value 0 ++ "  1: ".toList ++ value 1 ++ "  2: ".toList ++ value 2 ++
        "  3: ".toList ++ value 3 ++ "  4: ".toList ++ value 4 ++ "  5: ".toList ++ value 5 ++
        "  6: ".toList ++ value 6 ++ "  7: ".toList ++ value 7 := by
  intro value
  have split := register_line_columns registers
  have indices : List.range 8 = [0, 1, 2, 3, 4, 5, 6, 7] := rfl
  rw [columns_values, indices] at split
  simp only [List.map_cons, List.map_nil, List.intercalate_cons_cons,
    List.intercalate_singleton] at split
  rw [split]
  simp only [List.append_assoc]
  rfl

theorem value_at_length (registers : Vector Word 8) (index : Nat) (inside : index < 8) :
    (valueAt (registerLine registers) index).length = 11 := by
  rw [value_at_register registers ⟨index, inside⟩]
  exact fills_length _ _ _ (Word.fills_eleven _)

theorem register_line_length (registers : Vector Word 8) :
    (registerLine registers).length = 126 := by
  have width := value_at_length registers
  rw [← String.length_toList, register_line_spelled]
  simp [width]

theorem register_line_shows_registers (registers : Vector Word 8) :
    let line := registerLine registers
    let value := valueAt line
    line.length = 126 ∧
      line.toList =
        "0: ".toList ++ value 0 ++ "  1: ".toList ++ value 1 ++ "  2: ".toList ++ value 2 ++
          "  3: ".toList ++ value 3 ++ "  4: ".toList ++ value 4 ++ "  5: ".toList ++ value 5 ++
          "  6: ".toList ++ value 6 ++ "  7: ".toList ++ value 7 ∧
      (∀ r : Register, Fills 11 (registers.get r).toInt (value r.val) ∧
        Instruction.readInteger (value r.val) = .ok (registers.get r)) ∧
      ∀ other : Vector Word 8, (∃ r : Register, other.get r ≠ registers.get r) →
        registerLine other ≠ line := by
  intro line value
  refine ⟨register_line_length registers, register_line_spelled registers, ?_, ?_⟩
  · intro r
    have shown : value r.val = writePadded 11 (registers.get r).toInt :=
      value_at_register registers r
    rw [shown]
    exact ⟨Word.fills_eleven _,
      (Instruction.read_integer_ok_iff _ _).mpr (write_padded_literal 11 _)⟩
  · intro other different same
    obtain ⟨r, different⟩ := different
    apply different
    have read := Word.read_padded 11 (other.get r)
    rw [← value_at_register, same, value_at_register, Word.read_padded] at read
    exact (Option.some.inj read).symm

theorem least_word_fills_its_columns :
    let registers : Vector Word 8 := #v[-2147483648, 2147483647, -1, 0, 10, -10, 999, 7]
    let other : Vector Word 8 := #v[-2147483647, 2147483647, -1, 0, 10, -10, 999, 7]
    (∃ r : Register, other.get r ≠ registers.get r) ∧ registerLine other ≠ registerLine registers ∧
      valueAt (registerLine registers) 0 = "-2147483648".toList := by
  intro registers other
  have different : ∃ r : Register, other.get r ≠ registers.get r := ⟨Register.first, by decide⟩
  obtain ⟨-, -, -, apart⟩ := register_line_shows_registers registers
  have written : writePadded 11 (-2147483648) = "-2147483648".toList := by decide
  exact ⟨different, apart other different,
    (value_at_register registers Register.first).trans written⟩

example : registerField 3 (-1) = "3: -0000000001" := by decide

end CommandLine

end RegisterMachine
