import ParamSql.Double
import ParamSql.Text.Digits

/-! Decimal text of doubles. A decimal is read in double arithmetic: a whole number times or divided
by a power of ten, each rounded. A double is written with the fewest digits that lie nearer to it
than to any other double, of those the nearest. -/
namespace ParamSql.Double

/-- The exponent of the greatest power of ten in range. -/
def maxTen : Nat := 308

/-- The pattern nearest to a power of ten. -/
def ten (k : Nat) : Nat := BinaryFormat.double.round (Nat.pow 10 k) 0

/-- Divides a pattern by the greatest power of ten in range, some times. -/
def shrink : (times : Nat) → (pattern : Nat) → Nat
  | 0, pattern => pattern
  | times + 1, pattern =>
    if pattern = 0 then 0 else shrink times (BinaryFormat.double.div pattern (ten maxTen))

/-- The double for `m * 10 ^ e`, `none` when it is out of range. The factor, the power of ten and
their product or quotient are rounded one after the other, so the result may lie beside the nearest
double. A power of ten out of range divides in steps. -/
def ofDecimal? (negative : Bool) (m : Nat) (e : Int) : Option Double :=
  let f := BinaryFormat.double
  let factor := f.round m 0
  let pattern :=
    if m = 0 then 0
    else if maxTen < e then f.infinity
    else if 0 ≤ e then f.mul factor (ten e.toNat)
    else
      let k := (-e).toNat
      let times := (k - 1) / maxTen
      f.div (shrink times factor) (ten (k - times * maxTen))
  if pattern = f.infinity then none
  else some ⟨UInt64.ofNat ((if negative then f.signBit else 0) + pattern)⟩

/-- Numerator of a decimal over `den`, scaled so that both sides are whole. -/
def scaled (n den : Nat) (k : Int) : Nat × Nat :=
  (n * Nat.pow 10 (-k).toNat,den * Nat.pow 10 k.toNat)

/-- The exponent of the leading decimal digit of `n / den`. -/
def leadingPlace (n den : Nat) : Int :=
  if den ≤ n then (Nat.toDigits 10 (n / den)).length - 1
  else
    let k := ((List.range 400).find? fun j => den ≤ n * Nat.pow 10 (j + 1)).getD 0
    Int.negSucc k

/-- The decimals `d * 10 ^ k` beside `n / den` that lie between the bounds, nearest first. -/
def candidate? (low n high den : Nat) (closed : Bool) (k : Int) : Option Nat :=
  let (num,unit) := scaled n den k
  let d := num / unit
  let inside (d : Nat) : Bool :=
    let x := d * unit
    let l := (scaled low den k).1
    let h := (scaled high den k).1
    if closed then l ≤ x && x ≤ h else l < x && x < h
  let below := inside d
  let above := inside (d + 1)
  if below && above then
    let rest := 2 * (num % unit)
    if rest < unit || (rest == unit && d % 2 == 0) then some d else some (d + 1)
  else if below then some d
  else if above then some (d + 1)
  else none

/-- The digits and the exponent of the last one, for a finite pattern without sign. -/
def shortest (pattern : Nat) : Nat × Int :=
  let (m,e) := BinaryFormat.double.split pattern
  if m = 0 then (0,0)
  else
    let up := (e - 2).toNat
    let den := 1 <<< (2 - e).toNat
    let narrow := m == 1 <<< 52 && BinaryFormat.double.minExponent < e
    let n := (4 * m) <<< up
    let low := (4 * m - if narrow then 1 else 2) <<< up
    let high := (4 * m + 2) <<< up
    let place := leadingPlace n den
    let found := (List.range 17).findSome? fun (i : Nat) =>
      (candidate? low n high den (m % 2 == 0) (place - i)).map fun d => (d,place - i)
    found.getD (0,0)

/-- Positional notation for leading digits from the fifth decimal place up to 10^15, scientific
notation with a signed exponent beyond. -/
def text (x : Double) : String :=
  let f := BinaryFormat.double
  let bits := x.bits.toNat
  let sign := if f.signBit ≤ bits then "-" else ""
  let (d,k) := shortest (bits % f.signBit)
  if d = 0 then sign ++ "0.0"
  else
    let all := Nat.toDigits 10 d
    let digits := Text.dropTrailingZeros all
    let k := k + (all.length - digits.length)
    let point := digits.length + k
    let body : List Char :=
      if 0 ≤ k && point ≤ 16 then digits ++ List.replicate k.toNat '0' ++ ['.','0']
      else if 0 < point && point ≤ 16 then
        digits.take point.toNat ++ '.' :: digits.drop point.toNat
      else if -5 < point && point ≤ 0 then
        '0' :: '.' :: (List.replicate (-point).toNat '0' ++ digits)
      else
        let mantissa := if digits.length = 1 then digits else digits.take 1 ++ '.' :: digits.drop 1
        let sign := if 0 < point then ['+'] else []
        mantissa ++ 'e' :: sign ++ (toString (point - 1)).toList
    sign ++ String.ofList body

end ParamSql.Double
