/-! Binary floating point as bit patterns. A finite pattern stands for a whole multiple of a power
of two; every conversion goes through the exact number and rounds to the nearest pattern, a half
to the even one. -/
namespace ParamSql

structure BinaryFormat where
  fractionBits : Nat
  exponentBits : Nat

namespace BinaryFormat

def single : BinaryFormat := ⟨23,8⟩

def double : BinaryFormat := ⟨52,11⟩

/-- The pattern of infinity; patterns above it are not numbers. -/
def infinity (f : BinaryFormat) : Nat := ((1 <<< f.exponentBits) - 1) <<< f.fractionBits

def signBit (f : BinaryFormat) : Nat := 1 <<< (f.fractionBits + f.exponentBits)

def minExponent (f : BinaryFormat) : Int :=
  2 - (1 <<< (f.exponentBits - 1) : Nat) - f.fractionBits

/-- Quotient by a power of two, to the nearest, a half to the even one. -/
def shiftToEven (m shift : Nat) : Nat :=
  let unit := 1 <<< shift
  let q := m / unit
  let r := m % unit
  if unit < 2 * r || (2 * r == unit && q % 2 == 1) then q + 1 else q

/-- The pattern nearest to `m * 2 ^ e`, without sign. -/
def round (f : BinaryFormat) (m : Nat) (e : Int) : Nat :=
  if m = 0 then 0
  else
    let t := max (e + m.log2 - f.fractionBits) f.minExponent
    let q := if t ≤ e then m <<< (e - t).toNat else shiftToEven m (t - e).toNat
    min f.infinity (((t - f.minExponent).toNat <<< f.fractionBits) + q)

/-- The factor and exponent of a finite pattern without sign. -/
def split (f : BinaryFormat) (pattern : Nat) : Nat × Int :=
  let hidden := 1 <<< f.fractionBits
  let e := pattern / hidden
  let fraction := pattern % hidden
  if e = 0 then (fraction,f.minExponent) else (hidden + fraction,f.minExponent + e - 1)

/-- The pattern nearest to `num / den * 2 ^ e`, without sign. The quotient is taken to a few bits
more than the format holds and a rest makes it odd, so that it is rounded only once. -/
def roundRatio (f : BinaryFormat) (num den : Nat) (e : Int) : Nat :=
  let shift := den.log2 + f.fractionBits + 6 - num.log2
  let scaled := num <<< shift
  f.round (2 * (scaled / den) + if scaled % den = 0 then 0 else 1) (e - (shift + 1))

def mul (f : BinaryFormat) (a b : Nat) : Nat :=
  let (m,e) := f.split a
  let (n,k) := f.split b
  f.round (m * n) (e + k)

/-- The quotient of finite patterns without sign, of which the second is not zero. -/
def div (f : BinaryFormat) (a b : Nat) : Nat :=
  let (m,e) := f.split a
  let (n,k) := f.split b
  f.roundRatio m n (e - k)

/-- Converts a pattern between formats. What is not a number keeps the high bits of its fraction
and becomes quiet. -/
def convert (source target : BinaryFormat) (pattern : Nat) : Nat :=
  let sign := if source.signBit ≤ pattern then target.signBit else 0
  let size := pattern % source.signBit
  if source.infinity < size then
    let fraction := size % (1 <<< source.fractionBits)
    let fraction := (fraction <<< target.fractionBits) >>> source.fractionBits
    sign + (target.infinity + (fraction ||| (1 <<< (target.fractionBits - 1))))
  else if size = source.infinity then sign + target.infinity
  else
    let (m,e) := source.split size
    sign + target.round m e

end BinaryFormat

structure Double where
  bits : UInt64
  deriving DecidableEq, Repr, Inhabited

structure Single where
  bits : UInt32
  deriving DecidableEq, Repr, Inhabited

def BinaryFormat.ofInt (f : BinaryFormat) (n : Int) : Nat :=
  (if n < 0 then f.signBit else 0) + f.round n.natAbs 0

def Double.ofInt (n : Int) : Double := ⟨UInt64.ofNat (BinaryFormat.double.ofInt n)⟩

def Single.ofInt (n : Int) : Single := ⟨UInt32.ofNat (BinaryFormat.single.ofInt n)⟩

def Double.toSingle (x : Double) : Single :=
  ⟨UInt32.ofNat (BinaryFormat.double.convert .single x.bits.toNat)⟩

def Single.toDouble (x : Single) : Double :=
  ⟨UInt64.ofNat (BinaryFormat.single.convert .double x.bits.toNat)⟩

end ParamSql
