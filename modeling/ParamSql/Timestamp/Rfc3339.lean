import ParamSql.Timestamp

/-! Timestamps in the notation of RFC 3339, such as `2024-01-01T00:00:00.5+02:00`. The letters may
be of either case, a blank may stand for the `T`, and a minus sign may be U+2212. Digits of the
fraction beyond the ninth are dropped; second 60 is a leap second. -/
namespace ParamSql.Timestamp
open Text

def readNumber (width : Nat) (cs : List Char) : Option (Nat × List Char) :=
  let digits := cs.take width
  if digits.length = width && digits.all isDigit then some (ofDigits digits,cs.drop width) else none

def readMark (mark : Char) : List Char → Option (List Char)
  | [] => none
  | c :: cs => if c = mark then some cs else none

def readFraction : List Char → Option (Nat × List Char)
  | '.' :: cs =>
    let digits := cs.takeWhile isDigit
    if digits.isEmpty then none
    else
      let kept := digits.take 9
      some (ofDigits kept * Nat.pow 10 (9 - kept.length),cs.dropWhile isDigit)
  | cs => some (0,cs)

/-- Seconds east of UTC. -/
def readOffset : List Char → Option (Int × List Char)
  | [] => none
  | c :: cs =>
    if c = 'Z' || c = 'z' then some (0,cs)
    else if c = '+' || c = '-' || c = '\u2212' then do
      let (hours,cs) ← readNumber 2 cs
      let cs ← readMark ':' cs
      let (minutes,cs) ← readNumber 2 cs
      let seconds : Int := hours * 3600 + minutes * 60
      if hours < 24 && minutes < 60 then some (if c = '+' then seconds else -seconds,cs) else none
    else none

def ofRfc3339? (s : String) : Option Timestamp := do
  let (year,cs) ← readNumber 4 s.toList
  let cs ← readMark '-' cs
  let (month,cs) ← readNumber 2 cs
  let cs ← readMark '-' cs
  let (day,cs) ← readNumber 2 cs
  let date : Date := ⟨year,month,day⟩
  let cs ← match cs with
    | c :: cs => if c = 'T' || c = 't' || c = ' ' then some cs else none
    | [] => none
  let (hour,cs) ← readNumber 2 cs
  let cs ← readMark ':' cs
  let (minute,cs) ← readNumber 2 cs
  let cs ← readMark ':' cs
  let (second,cs) ← readNumber 2 cs
  let (nanos,cs) ← readFraction cs
  let (offset,cs) ← readOffset cs
  if date.isValid && hour < 24 && minute < 60 && second ≤ 60 && cs.isEmpty then
    let leap : Nat := if second = 60 then 1 else 0
    ofUnix? (date.toDays * 86400 + hour * 3600 + minute * 60 + (second - leap : Nat) - offset)
      (nanos + leap * 1000000000)
  else none

end ParamSql.Timestamp
