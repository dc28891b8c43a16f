import ParamSql.Text.Digits

/-! The proleptic Gregorian calendar. Days are counted from 1970-01-01; the count runs over eras
of 400 years, which all have 146097 days. -/
namespace ParamSql

structure Date where
  year : Int
  month : Nat
  day : Nat
  deriving DecidableEq, Repr

namespace Date

def isLeapYear (year : Int) : Bool := year % 4 == 0 && (year % 100 != 0 || year % 400 == 0)

def daysInMonth (year : Int) (month : Nat) : Nat :=
  if month = 2 then if isLeapYear year then 29 else 28
  else if [4,6,9,11].contains month then 30 else 31

def isValid (d : Date) : Bool :=
  1 ≤ d.month && d.month ≤ 12 && 1 ≤ d.day && d.day ≤ daysInMonth d.year d.month

/-- Days since 1970-01-01. Years are counted from March, so that a leap day comes last. -/
def toDays (d : Date) : Int :=
  let year := if d.month ≤ 2 then d.year - 1 else d.year
  let month := (d.month + 9) % 12
  let yearOfEra := year % 400
  let dayOfYear := (153 * month + 2) / 5 + d.day - 1
  let dayOfEra := yearOfEra * 365 + yearOfEra / 4 - yearOfEra / 100 + dayOfYear
  year / 400 * 146097 + dayOfEra - 719468

def ofDays (days : Int) : Date :=
  let shifted := days + 719468
  let dayOfEra := (shifted % 146097).toNat
  let yearOfEra := (dayOfEra - dayOfEra / 1460 + dayOfEra / 36524 - dayOfEra / 146096) / 365
  let dayOfYear := dayOfEra - (365 * yearOfEra + yearOfEra / 4 - yearOfEra / 100)
  let month := (5 * dayOfYear + 2) / 153
  let year := shifted / 146097 * 400 + yearOfEra
  ⟨if month < 10 then year else year + 1,(month + 2) % 12 + 1,dayOfYear - (153 * month + 2) / 5 + 1⟩

/-- Years outside 0 to 9999 carry a sign. -/
def text (d : Date) : String :=
  let year := Text.atLeastDigits 4 d.year.natAbs
  let year := if d.year < 0 then '-' :: year else if 9999 < d.year then '+' :: year else year
  String.ofList (year ++ '-' :: Text.paddedDigits 2 d.month ++ '-' :: Text.paddedDigits 2 d.day)

end Date

/-- The hour, minute, second and, where it is not zero, the fraction in thousandths or
millionths of a microsecond count since midnight, modulo a day. -/
def timeOfDayText (micros : Int) : String :=
  let micros := (micros % 86400000000).toNat
  let seconds := micros / 1000000
  let fraction := micros % 1000000
  let clock := Text.paddedDigits 2 (seconds / 3600) ++
    ':' :: Text.paddedDigits 2 (seconds / 60 % 60) ++ ':' :: Text.paddedDigits 2 (seconds % 60)
  String.ofList (clock ++
    if fraction = 0 then []
    else if fraction % 1000 = 0 then '.' :: Text.paddedDigits 3 (fraction / 1000)
    else '.' :: Text.paddedDigits 6 fraction)

end ParamSql
