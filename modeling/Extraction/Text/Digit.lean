/-!
# Digits

Numbers in base ten and in base sixteen.

* `decimal` is the number that a row of decimal digits denotes; leading zeros add nothing to it.
  `decimal?` refuses rows of more than `mostDigits` digits, leading zeros included.
* `hex` writes the lowest hexadecimal digits of a number.
* `hexadecimal` is the number that a row of hexadecimal digits denotes.
-/

namespace Extraction.Text

/-! ## Base ten -/

/-- The value of the decimal digit `c`. -/
def digitValue (c : Char) : Nat := c.toNat - '0'.toNat

/-- The number that the row `digits` denotes. -/
def decimal (digits : List Char) : Nat :=
  digits.foldl (fun value c => value * 10 + digitValue c) 0

/-- The greatest number of decimal digits from which a number is read. -/
def mostDigits : Nat := 4300

/-- The number that the row `digits` denotes, unless it is longer than `mostDigits`. -/
def decimal? (digits : List Char) : Option Nat :=
  if digits.length ≤ mostDigits then some (decimal digits) else none

/-- That `count` decimal digits are too many, in words. -/
def tooManyDigits (count : Nat) : String :=
  "Exceeds the limit (" ++ toString mostDigits ++ " digits) for integer string conversion: " ++
    "value has " ++ toString count ++
      " digits; use sys.set_int_max_str_digits() to increase the limit"

/-! ## Base sixteen -/

/-- The hexadecimal digit of the value `n`, in lower case. -/
def hexDigit (n : Nat) : Char :=
  if n < 10 then Char.ofNat ('0'.toNat + n) else Char.ofNat ('a'.toNat + (n - 10))

/-- The lowest `width` hexadecimal digits of the number `n`. -/
def hex : Nat → Nat → List Char
  | 0, _ => []
  | width + 1, n => hex width (n / 16) ++ [hexDigit (n % 16)]

/-- The value of the hexadecimal digit `c`, in either case. -/
def hexValue? (c : Char) : Option Nat :=
  if '0' ≤ c && c ≤ '9' then some (c.toNat - '0'.toNat)
  else if 'a' ≤ c && c ≤ 'f' then some (c.toNat - 'a'.toNat + 10)
  else if 'A' ≤ c && c ≤ 'F' then some (c.toNat - 'A'.toNat + 10)
  else none

/-- Whether `c` is a hexadecimal digit. -/
def isHexDigit (c : Char) : Bool := (hexValue? c).isSome

/-- The number that the row `digits` of hexadecimal digits denotes. -/
def hexadecimal (digits : List Char) : Nat :=
  digits.foldl (fun value c => value * 16 + (hexValue? c).getD 0) 0

end Extraction.Text
