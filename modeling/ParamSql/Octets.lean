/-! Byte strings: big-endian numbers of a fixed width, and hexadecimal text. A number is read back from
its big-endian form modulo the width. -/
namespace ParamSql.Octets

def count (width : Nat) : Nat := Nat.pow 256 width

def bigEndian : (width : Nat) → (n : Nat) → List UInt8
  | 0, _ => []
  | width + 1, n => bigEndian width (n / 256) ++ [UInt8.ofNat n]

/-- The number that a byte string spells, highest byte first. -/
def toNat (bytes : List UInt8) : Nat := bytes.foldl (fun n byte => 256 * n + byte.toNat) 0

@[simp] theorem bigEndian_length (width n : Nat) : (bigEndian width n).length = width := by
  induction width generalizing n with
  | zero => rfl
  | succ width ih => simp [bigEndian,ih]

theorem toNat_snoc (bytes : List UInt8) (byte : UInt8) :
    toNat (bytes ++ [byte]) = 256 * toNat bytes + byte.toNat := by simp [toNat]

theorem toNat_bigEndian (width n : Nat) : toNat (bigEndian width n) = n % count width := by
  induction width generalizing n with
  | zero => simp [bigEndian,toNat,count,Nat.mod_one]
  | succ width ih =>
    have split : count (width + 1) = 256 * count width := Nat.mul_comm ..
    rw [bigEndian,toNat_snoc,ih,split,Nat.mod_mul]
    simp only [UInt8.toNat_ofNat']
    omega

def hexDigit (n : Nat) : Char := Nat.digitChar n

def hexValue? (c : Char) : Option Nat :=
  if '0' ≤ c ∧ c ≤ '9' then some (c.toNat - 48)
  else if 'a' ≤ c ∧ c ≤ 'f' then some (c.toNat - 87)
  else if 'A' ≤ c ∧ c ≤ 'F' then some (c.toNat - 55)
  else none

/-- Two lower-case digits a byte. -/
def toHex (bytes : List UInt8) : List Char :=
  bytes.flatMap fun byte => [hexDigit (byte.toNat / 16),hexDigit (byte.toNat % 16)]

def ofHex? : List Char → Option (List UInt8)
  | [] => some []
  | high :: low :: rest => do
    let h ← hexValue? high
    let l ← hexValue? low
    let bytes ← ofHex? rest
    return UInt8.ofNat (16 * h + l) :: bytes
  | [_] => none

end ParamSql.Octets
