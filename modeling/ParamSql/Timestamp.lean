import ParamSql.Calendar

/-! Instants in UTC: seconds since 1970-01-01 and nanoseconds within the second. A leap second
counts as the second before it with 10^9 nanoseconds or more. The years run from -262143 to
262142. -/
namespace ParamSql

structure Timestamp where
  seconds : Int
  nanos : Nat
  inRange : -8334601228800 ≤ seconds ∧ seconds ≤ 8210266876799 ∧ nanos < 2000000000
  deriving DecidableEq

namespace Timestamp

def ofUnix? (seconds : Int) (nanos : Nat) : Option Timestamp :=
  if h : -8334601228800 ≤ seconds ∧ seconds ≤ 8210266876799 ∧ nanos < 2000000000 then
    some ⟨seconds,nanos,h⟩
  else none

/-- Whether a count of days since 1970-01-01 falls into the years of timestamps. -/
def isDayInRange (days : Int) : Bool := -96465292 ≤ days && days ≤ 95026236

example : Date.toDays ⟨-262143,1,1⟩ = -96465292 ∧ Date.toDays ⟨262142,12,31⟩ = 95026236 ∧
    -96465292 * 86400 = -8334601228800 ∧ 95026236 * 86400 + 86399 = 8210266876799 := by decide

instance : Inhabited Timestamp := ⟨⟨0,0,by decide⟩⟩

end Timestamp

end ParamSql
