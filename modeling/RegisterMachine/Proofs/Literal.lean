import Mathlib.Algebra.Group.Nat.Defs
import RegisterMachine.Numeral
import RegisterMachine.Text.Blank

set_option autoImplicit false

namespace RegisterMachine

namespace Numeral

def IsDigit (d : Char) : Prop := '0'.toNat ≤ d.toNat ∧ d.toNat ≤ '9'.toNat

structure IsDigits (digits : List Char) : Prop where
  nonempty : digits ≠ []
  ascii : ∀ d ∈ digits, IsDigit d

def placeValue : List Char → Nat
  | [] => 0
  | d :: rest => (d.toNat - '0'.toNat) * 10 ^ rest.length + placeValue rest

inductive Literal : List Char → Int → Prop
  | unsigned (digits : List Char) (valid : IsDigits digits) : Literal digits (placeValue digits)
  | plus (digits : List Char) (valid : IsDigits digits) : Literal ('+' :: digits) (placeValue digits)
  | minus (digits : List Char) (valid : IsDigits digits) :
      Literal ('-' :: digits) (-(placeValue digits : Int))

theorem place_value_eq (digits : List Char) : Nat.ofDigitChars 10 digits 0 = placeValue digits := by
  induction digits with
  | nil => rfl
  | cons d rest ih =>
      rw [Nat.ofDigitChars_cons, Nat.ofDigitChars_eq_ofDigitChars_zero, ih, placeValue, Nat.mul_zero,
        Nat.zero_add, Nat.mul_comm]

theorem is_digits_iff (digits : List Char) :
    IsDigits digits ↔ digits ≠ [] ∧ digits.all Char.isDigit = true := by
  rw [List.all_eq_true]
  exact ⟨fun valid => ⟨valid.nonempty, fun d inside => Char.isDigit_iff_toNat.mpr (valid.ascii d inside)⟩,
    fun valid => ⟨valid.1, fun d inside => Char.isDigit_iff_toNat.mp (valid.2 d inside)⟩⟩

theorem read_digits_iff (digits : List Char) (n : Nat) :
    readDigits? digits = some n ↔ IsDigits digits ∧ n = placeValue digits := by
  rw [is_digits_iff, readDigits?, place_value_eq]
  by_cases valid : digits ≠ [] ∧ digits.all Char.isDigit = true
  · rw [if_pos valid, Option.some.injEq]
    exact ⟨fun same => ⟨valid, same.symm⟩, fun read => read.2.symm⟩
  · rw [if_neg valid]
    simp only [valid, reduceCtorEq, false_and]

theorem read_digits_map_iff (digits : List Char) (change : Nat → Int) (value : Int) :
    (readDigits? digits).map change = some value ↔
      IsDigits digits ∧ change (placeValue digits) = value := by
  simp only [Option.map_eq_some_iff, read_digits_iff]
  refine ⟨?_, ?_⟩
  · intro found
    obtain ⟨n, ⟨valid, rfl⟩, same⟩ := found
    exact ⟨valid, same⟩
  · intro found
    obtain ⟨valid, same⟩ := found
    exact ⟨_, ⟨valid, rfl⟩, same⟩

inductive Unsigned : List Char → Nat → Prop
  | bare (digits : List Char) (valid : IsDigits digits) : Unsigned digits (placeValue digits)
  | plus (digits : List Char) (valid : IsDigits digits) :
      Unsigned ('+' :: digits) (placeValue digits)

theorem read_nat_iff (text : List Char) (n : Nat) : readNat? text = some n ↔ Unsigned text n := by
  refine ⟨?_, ?_⟩
  · intro read
    unfold readNat? at read
    split at read
    · obtain ⟨valid, rfl⟩ := (read_digits_iff _ _).mp read
      exact .plus _ valid
    · obtain ⟨valid, rfl⟩ := (read_digits_iff _ _).mp read
      exact .bare _ valid
  · intro literal
    cases literal with
    | bare digits valid =>
        have solid := ((is_digits_iff text).mp valid).2
        unfold readNat?
        split
        · simp at solid
        · exact (read_digits_iff text _).mpr ⟨valid, rfl⟩
    | plus digits valid => exact (read_digits_iff digits _).mpr ⟨valid, rfl⟩

theorem literal_of_read (text : List Char) (value : Int) (read : read? text = some value) :
    Literal text value := by
  unfold read? at read
  split at read
  · obtain ⟨valid, rfl⟩ := (read_digits_map_iff _ _ _).mp read
    exact .plus _ valid
  · obtain ⟨valid, rfl⟩ := (read_digits_map_iff _ _ _).mp read
    exact .minus _ valid
  · obtain ⟨valid, rfl⟩ := (read_digits_map_iff _ _ _).mp read
    exact .unsigned _ valid

theorem read_of_literal (text : List Char) (value : Int) (literal : Literal text value) :
    read? text = some value := by
  cases literal with
  | unsigned digits valid =>
      rw [read_of_digits text ((is_digits_iff text).mp valid).2]
      exact (read_digits_map_iff _ _ _).mpr ⟨valid, rfl⟩
  | plus digits valid => exact (read_digits_map_iff _ _ _).mpr ⟨valid, rfl⟩
  | minus digits valid => exact (read_digits_map_iff _ _ _).mpr ⟨valid, rfl⟩

theorem read_iff_literal (text : List Char) (value : Int) :
    read? text = some value ↔ Literal text value :=
  ⟨literal_of_read text value, read_of_literal text value⟩

theorem literal_character (text : List Char) (value : Int) (literal : Literal text value) :
    ∀ c ∈ text, c = '+' ∨ c = '-' ∨ IsDigit c := by
  intro c inside
  cases literal with
  | unsigned digits valid => exact .inr (.inr (valid.ascii c inside))
  | plus digits valid =>
      rcases List.mem_cons.mp inside with sign | inside
      · exact .inl sign
      · exact .inr (.inr (valid.ascii c inside))
  | minus digits valid =>
      rcases List.mem_cons.mp inside with sign | inside
      · exact .inr (.inl sign)
      · exact .inr (.inr (valid.ascii c inside))

theorem literal_excludes (text : List Char) (value : Int) (c : Char) (literal : Literal text value)
    (plus : c ≠ '+') (minus : c ≠ '-') (foreign : ¬ IsDigit c) : c ∉ text := by
  intro inside
  rcases literal_character text value literal c inside with sign | sign | digit
  · exact plus sign
  · exact minus sign
  · exact foreign digit

theorem literal_solid (text : List Char) (value : Int) (literal : Literal text value) :
    ∀ c ∈ text, Text.isBlank c = false := by
  intro c inside
  rcases literal_character text value literal c inside with rfl | rfl | digit
  · decide
  · decide
  · apply Text.is_blank_of_alphanum
    have decimal : c.isDigit = true := Char.isDigit_iff_toNat.mpr digit
    simp [Char.isAlphanum, decimal]

theorem comma_not_in_literal (text : List Char) (value : Int) (literal : Literal text value) :
    ',' ∉ text :=
  literal_excludes text value ',' literal (by decide) (by decide) (by simp [IsDigit])

theorem open_not_in_literal (text : List Char) (value : Int) (literal : Literal text value) :
    '(' ∉ text :=
  literal_excludes text value '(' literal (by decide) (by decide) (by simp [IsDigit])

theorem close_not_in_literal (text : List Char) (value : Int) (literal : Literal text value) :
    ')' ∉ text :=
  literal_excludes text value ')' literal (by decide) (by decide) (by simp [IsDigit])

end Numeral

namespace Word

open Numeral

theorem read_iff_literal (text : List Char) (w : Word) :
    Word.read? text = some w ↔ Literal text w.toInt := by
  simp only [Word.read?, Option.bind_eq_some_iff, of_int_some_iff, Numeral.read_iff_literal]
  refine ⟨?_, ?_⟩
  · intro found
    obtain ⟨value, literal, same⟩ := found
    exact same ▸ literal
  · intro literal
    exact ⟨w.toInt, literal, rfl⟩

theorem write_literal (w : Word) : Literal w.write w.toInt :=
  (read_iff_literal w.write w).mp (read_write w)

theorem text_decimal (w : Word) : w.text = toString w.toInt := by
  rw [text, write, Numeral.write, sign]
  cases w.toInt with
  | ofNat n => rfl
  | negSucc n =>
      rw [if_pos (Int.negSucc_lt_zero n), String.ofList_append]
      rfl

end Word

end RegisterMachine
