import ParamSql.Octets
import ParamSql.Text.Blank

/-! Universally unique identifiers: 128 bits, written as 32 lower-case hexadecimal digits in groups
of 8, 4, 4, 4 and 12. They are read in that form, without hyphens, in braces, or after `urn:uuid:`,
with letters of either case. -/
namespace ParamSql

structure Uuid where
  bits : BitVec 128
  deriving DecidableEq, Repr, Inhabited

namespace Uuid

def octets (u : Uuid) : List UInt8 := Octets.bigEndian 16 u.bits.toNat

def ofOctets? (bytes : List UInt8) : Option Uuid :=
  if bytes.length = 16 then some ⟨BitVec.ofNat 128 (Octets.toNat bytes)⟩ else none

theorem ofOctets_octets (u : Uuid) : ofOctets? u.octets = some u := by
  have small : u.bits.toNat < Octets.count 16 := u.bits.isLt
  simp only [ofOctets?,octets,Octets.bigEndian_length,if_true,Octets.toNat_bigEndian]
  rw [Nat.mod_eq_of_lt small]
  simp

def text (u : Uuid) : String :=
  let digits := Octets.toHex u.octets
  String.ofList (digits.take 8 ++ '-' :: (digits.drop 8).take 4 ++ '-' :: (digits.drop 12).take 4 ++
    '-' :: (digits.drop 16).take 4 ++ '-' :: digits.drop 20)

def ofDigits? (digits : List Char) : Option Uuid := (Octets.ofHex? digits).bind ofOctets?

def ofHyphenated? (cs : List Char) : Option Uuid :=
  let at? (i : Nat) : Bool := cs[i]? == some '-'
  if cs.length = 36 && at? 8 && at? 13 && at? 18 && at? 23 then
    ofDigits? (cs.take 8 ++ (cs.drop 9).take 4 ++ (cs.drop 14).take 4 ++ (cs.drop 19).take 4 ++
      cs.drop 24)
  else none

def ofText? (s : String) : Option Uuid :=
  let cs := s.toList
  if cs.length = 32 then ofDigits? cs
  else if cs.length = 36 then ofHyphenated? cs
  else if cs.length = 38 && cs.head? == some '\x7b' && cs.getLast? == some '\x7d' then
    ofHyphenated? ((cs.drop 1).take 36)
  else if Text.sameKeyword (cs.take 9) "urn:uuid:".toList then ofHyphenated? (cs.drop 9)
  else none

end Uuid

end ParamSql
