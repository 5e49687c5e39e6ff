/-!
Decimal text of natural numbers and integers, and the values of decimal and
hexadecimal digits.
-/

namespace EnumLowering.Number

def decimalInt : Int → List Char
  | .ofNat value => Nat.toDigits 10 value
  | .negSucc value => '-' :: Nat.toDigits 10 (value + 1)

def decimalText (value : Nat) : String := String.ofList (Nat.toDigits 10 value)

def digit? (c : Char) : Option Nat :=
  if c.isDigit then some (c.toNat - '0'.toNat) else none

def hexDigit? (c : Char) : Option Nat :=
  if 'a' ≤ c && c ≤ 'f' then some (c.toNat - 0x57)
  else if 'A' ≤ c && c ≤ 'F' then some (c.toNat - 0x37)
  else digit? c

/-- The number that a run of digits denotes. -/
def digitsValue (digits : List Nat) : Nat :=
  digits.foldl (fun value digit => 10 * value + digit) 0

theorem digit_of_digit_char : ∀ digit < 10, digit? (Nat.digitChar digit) = some digit := by
  decide

theorem hex_digit_of_digit_char :
    ∀ digit < 16, hexDigit? (Nat.digitChar digit) = some digit := by
  decide

theorem digit_eq_none {c : Char} (noDigit : c.isDigit = false) : digit? c = none := by
  rw [digit?, noDigit]
  rfl

theorem digits_value_concat (digits : List Nat) (digit : Nat) :
    digitsValue (digits ++ [digit]) = 10 * digitsValue digits + digit := by
  rw [digitsValue, List.foldl_append]
  rfl

theorem map_digit_of_all_digits {chars : List Char} (digits : ∀ c ∈ chars, c.isDigit = true) :
    chars.mapM digit? = some (chars.map fun c => c.toNat - '0'.toNat) := by
  induction chars with
  | nil => rfl
  | cons c chars induction =>
      rw [List.forall_mem_cons] at digits
      have first : digit? c = some (c.toNat - '0'.toNat) := if_pos digits.1
      rw [List.mapM_cons, first, induction digits.2]
      rfl

/-- The digits of a number are read back. -/
theorem map_digit_of_to_digits (value : Nat) :
    ∃ digits, (Nat.toDigits 10 value).mapM digit? = some digits ∧ digitsValue digits = value := by
  refine ⟨_, map_digit_of_all_digits fun c there => ?_, ?_⟩
  · exact Nat.isDigit_of_mem_toDigits (by decide) (by decide) there
  · rw [digitsValue, List.foldl_map, ← Nat.ofDigitChars_eq_foldl, Nat.ofDigitChars_ten_toDigits]

end EnumLowering.Number
