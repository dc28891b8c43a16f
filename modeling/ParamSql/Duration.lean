import ParamSql.Text.Digits

/-! Spans of time in whole nanoseconds. A span is written in the largest of the units s, ms, µs
and ns of which it holds at least one, with a fraction that has no trailing zeros. -/
namespace ParamSql

structure Duration where
  nanos : Nat
  deriving DecidableEq, Repr, Inhabited

namespace Duration

def ofSeconds (seconds nanos : Nat) : Duration := ⟨seconds * 1000000000 + nanos⟩

def ofMillis (millis : Nat) : Duration := ⟨millis * 1000000⟩

/-- Whole milliseconds, rounded down. -/
def millis (d : Duration) : Nat := d.nanos / 1000000

/-- A count of units of `10 ^ places` nanoseconds with its fraction. -/
def inUnits (d : Duration) (places : Nat) (unit : String) : String :=
  let fraction := Text.dropTrailingZeros (Text.paddedDigits places d.nanos)
  (d.nanos / Nat.pow 10 places).repr ++
    (if fraction.isEmpty then "" else String.ofList ('.' :: fraction)) ++ unit

def text (d : Duration) : String :=
  if 1000000000 ≤ d.nanos then d.inUnits 9 "s"
  else if 1000000 ≤ d.nanos then d.inUnits 6 "ms"
  else if 1000 ≤ d.nanos then d.inUnits 3 "µs"
  else d.inUnits 0 "ns"

end Duration

end ParamSql
