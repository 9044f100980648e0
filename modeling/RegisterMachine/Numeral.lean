import RegisterMachine.Word

set_option autoImplicit false

namespace RegisterMachine

namespace Numeral

def readDigits? (digits : List Char) : Option Nat :=
  if digits ≠ [] ∧ digits.all Char.isDigit then some (Nat.ofDigitChars 10 digits 0) else none

def read? : List Char → Option Int
  | '+' :: digits => (readDigits? digits).map fun n : Nat => (n : Int)
  | '-' :: digits => (readDigits? digits).map fun n : Nat => -(n : Int)
  | digits => (readDigits? digits).map fun n : Nat => (n : Int)

-- Unsigned literals may have a plus sign but no minus sign, not even before a zero.
def readNat? : List Char → Option Nat
  | '+' :: digits => readDigits? digits
  | digits => readDigits? digits

def sign (i : Int) : List Char := if i < 0 then ['-'] else []

def write (i : Int) : List Char := sign i ++ Nat.toDigits 10 i.natAbs

def writePadded (width : Nat) (i : Int) : List Char :=
  sign i ++ (Nat.toDigits 10 i.natAbs).leftpad (width - (sign i).length) '0'

theorem read_digits_to_digits (n : Nat) : readDigits? (Nat.toDigits 10 n) = some n := by
  have decimal : (Nat.toDigits 10 n).all Char.isDigit = true :=
    List.all_eq_true.mpr fun c inside => Nat.isDigit_of_mem_toDigits (by decide) (by decide) inside
  rw [readDigits?, if_pos ⟨Nat.toDigits_ne_nil, decimal⟩, Nat.ofDigitChars_ten_toDigits]

theorem read_of_digits (digits : List Char) (decimal : digits.all Char.isDigit = true) :
    read? digits = (readDigits? digits).map fun n : Nat => (n : Int) := by
  unfold read?
  split
  · simp at decimal
  · simp at decimal
  · rfl

theorem read_write (i : Int) : read? (write i) = some i := by
  by_cases below : i < 0
  · simp only [write, sign, if_pos below, List.cons_append, List.nil_append, read?,
      read_digits_to_digits, Option.map_some, Option.some.injEq]
    omega
  · have decimal : (Nat.toDigits 10 i.natAbs).all Char.isDigit = true :=
      List.all_eq_true.mpr fun c inside => Nat.isDigit_of_mem_toDigits (by decide) (by decide) inside
    simp only [write, sign, if_neg below, List.nil_append, read_of_digits _ decimal,
      read_digits_to_digits, Option.map_some, Option.some.injEq]
    omega

end Numeral

namespace Word

def read? (literal : List Char) : Option Word := (Numeral.read? literal).bind ofInt?

def write (w : Word) : List Char := Numeral.write w.toInt

def text (w : Word) : String := String.ofList w.write

@[simp] theorem read_write (w : Word) : read? w.write = some w := by
  rw [read?, write, Numeral.read_write, Option.bind_some, of_int_to_int]

end Word

end RegisterMachine
