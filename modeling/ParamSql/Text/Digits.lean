/-! Decimal digits: numbers padded to a width, fractions without trailing zeros, and reading
digits back. -/
namespace ParamSql.Text

/-- The last `width` digits of a number, with leading zeros. -/
def paddedDigits : (width : Nat) → (n : Nat) → List Char
  | 0, _ => []
  | width + 1, n => paddedDigits width (n / 10) ++ [Nat.digitChar (n % 10)]

/-- A number in at least `width` digits. -/
def atLeastDigits (width n : Nat) : List Char :=
  if n < Nat.pow 10 width then paddedDigits width n else Nat.toDigits 10 n

def dropTrailingZeros (digits : List Char) : List Char :=
  (digits.reverse.dropWhile (· = '0')).reverse

def isDigit (c : Char) : Bool := '0' ≤ c && c ≤ '9'

/-- The number that decimal digits spell. -/
def ofDigits (digits : List Char) : Nat := digits.foldl (fun n c => 10 * n + (c.toNat - 48)) 0

end ParamSql.Text
