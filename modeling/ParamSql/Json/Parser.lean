import ParamSql.Json
import ParamSql.Octets
import ParamSql.Double.Decimal

/-! Reading JSON text, strictly: no trailing commas, no comments, no control characters in
strings, escapes of surrogates only in pairs. Whole numbers of 64 bits, signed or unsigned, are
integers; all others are doubles, and so is minus zero. The digits of a double count as far as they
fit in 64 bits. Arrays and objects nest at most 127 deep. -/
namespace ParamSql.Json
open Text

def maxDepth : Nat := 127

def isJsonBlank (c : Char) : Bool := c = ' ' || c = '\t' || c = '\n' || c = '\r'

def skipBlank (cs : List Char) : List Char := cs.dropWhile isJsonBlank

def unit? (a b c d : Char) : Option Nat := do
  let a ← Octets.hexValue? a
  let b ← Octets.hexValue? b
  let c ← Octets.hexValue? c
  let d ← Octets.hexValue? d
  return ((a * 16 + b) * 16 + c) * 16 + d

def unescape? (c : Char) : Option Char :=
  if c = '\x22' || c = '\\' || c = '/' then some c
  else if c = 'b' then some '\x08'
  else if c = 'f' then some '\x0c'
  else if c = 'n' then some '\n'
  else if c = 'r' then some '\r'
  else if c = 't' then some '\t'
  else none

/-- The characters up to the closing quote, and the text after it. -/
def stringBody : List Char → Option (List Char × List Char)
  | [] => none
  | '\\' :: 'u' :: a :: b :: c :: d :: cs => do
    let u ← unit? a b c d
    if 0xd800 ≤ u && u < 0xdc00 then
      match cs with
      | '\\' :: 'u' :: e :: f :: g :: h :: cs => do
        let low ← unit? e f g h
        if 0xdc00 ≤ low && low < 0xe000 then
          let (body,rest) ← stringBody cs
          return (Char.ofNat (0x10000 + (u - 0xd800) * 0x400 + (low - 0xdc00)) :: body,rest)
        else none
      | _ => none
    else if 0xdc00 ≤ u && u < 0xe000 then none
    else
      let (body,rest) ← stringBody cs
      return (Char.ofNat u :: body,rest)
  | '\\' :: c :: cs => do
    let c ← unescape? c
    let (body,rest) ← stringBody cs
    return (c :: body,rest)
  | c :: cs =>
    if c = '\x22' then some ([],cs)
    else if c = '\\' || c.toNat < 0x20 then none
    else do
      let (body,rest) ← stringBody cs
      return (c :: body,rest)

/-- Adds digits to a number for as long as it fits in 64 bits: the number and the digits left. -/
def takeWord : (n : Nat) → (digits : List Char) → Nat × List Char
  | n, [] => (n,[])
  | n, c :: cs =>
    let next := 10 * n + (c.toNat - 48)
    if next < UInt64.size then takeWord next cs else (n,c :: cs)

/-- The double of the digits before and after the point and of the exponent. Digits before the point
that do not fit count as places only, digits after it that do not fit count for nothing. -/
def double? (negative : Bool) (whole fraction : List Char) (exponent : Int) : Option Double :=
  let (n,places) := takeWord 0 whole
  let (n,rest) := takeWord n fraction
  Double.ofDecimal? negative n (exponent + places.length + rest.length - fraction.length)

/-- A number without sign: its digits, its fraction and its exponent. -/
def number? (negative : Bool) (cs : List Char) : Option (Json × List Char) := do
  let whole := cs.takeWhile isDigit
  let cs := cs.dropWhile isDigit
  if whole.isEmpty || (whole.length ≠ 1 && whole.head? == some '0') then none
  let (fraction,cs) ← match cs with
    | '.' :: cs =>
      let digits := cs.takeWhile isDigit
      if digits.isEmpty then none else some (some digits,cs.dropWhile isDigit)
    | _ => some (none,cs)
  let (exponent,cs) ← (match cs with
    | e :: cs' =>
      if e = 'e' || e = 'E' then
        let (sign,cs') := match cs' with
          | '-' :: cs' => (-1,cs')
          | '+' :: cs' => (1,cs')
          | _ => ((1 : Int),cs')
        let digits := cs'.takeWhile isDigit
        if digits.isEmpty then none
        else some (some (sign * (ofDigits digits : Int)),cs'.dropWhile isDigit)
      else some (none,cs)
    | [] => some (none,cs) : Option (Option Int × List Char))
  let n := ofDigits whole
  let isWord := if negative then 0 < n && 2 * n ≤ UInt64.size else n < UInt64.size
  if fraction.isNone && exponent.isNone && isWord then
    return (.int (if negative then -n else n),cs)
  let x ← double? negative whole (fraction.getD []) (exponent.getD 0)
  return (.float x,cs)

mutual
/-- A value after blanks, with the text after it. Fuel bounds the steps, depth the nesting. -/
def valueFrom : (fuel : Nat) → (depth : Nat) → List Char → Option (Json × List Char)
  | 0, _, _ => none
  | fuel + 1, depth, cs =>
    match skipBlank cs with
    | 'n' :: 'u' :: 'l' :: 'l' :: cs => some (.null,cs)
    | 't' :: 'r' :: 'u' :: 'e' :: cs => some (.bool true,cs)
    | 'f' :: 'a' :: 'l' :: 's' :: 'e' :: cs => some (.bool false,cs)
    | '\x22' :: cs => (stringBody cs).map fun (body,cs) => (.string (String.ofList body),cs)
    | '-' :: cs => number? true cs
    | '[' :: cs =>
      match depth with
      | 0 => none
      | depth + 1 =>
        match skipBlank cs with
        | ']' :: cs => some (.array [],cs)
        | cs => (itemsFrom fuel depth cs).map fun (items,cs) => (.array items,cs)
    | '\x7b' :: cs =>
      match depth with
      | 0 => none
      | depth + 1 =>
        match skipBlank cs with
        | '\x7d' :: cs => some (.object [],cs)
        | cs => (membersFrom fuel depth cs).map fun (members,cs) => (ofMembers members,cs)
    | cs => number? false cs

def itemsFrom : (fuel : Nat) → (depth : Nat) → List Char → Option (List Json × List Char)
  | 0, _, _ => none
  | fuel + 1, depth, cs =>
    match valueFrom fuel depth cs with
    | none => none
    | some (item,cs) =>
      match skipBlank cs with
      | ']' :: cs => some ([item],cs)
      | ',' :: cs => (itemsFrom fuel depth cs).map fun (items,cs) => (item :: items,cs)
      | _ => none

def membersFrom : (fuel : Nat) → (depth : Nat) → List Char →
    Option (List (String × Json) × List Char)
  | 0, _, _ => none
  | fuel + 1, depth, cs =>
    match skipBlank cs with
    | '\x22' :: cs =>
      match stringBody cs with
      | none => none
      | some (name,cs) =>
        match skipBlank cs with
        | ':' :: cs =>
          match valueFrom fuel depth cs with
          | none => none
          | some (value,cs) =>
            match skipBlank cs with
            | '\x7d' :: cs => some ([(String.ofList name,value)],cs)
            | ',' :: cs =>
              (membersFrom fuel depth cs).map fun (members,cs) =>
                ((String.ofList name,value) :: members,cs)
            | _ => none
        | _ => none
    | _ => none
end

/-- Every step of the reader passes over a character or goes one level down, so twice the length
of the text is fuel enough. -/
def ofText? (s : String) : Option Json :=
  match valueFrom (2 * s.length + 2) maxDepth s.toList with
  | some (value,rest) => if (skipBlank rest).isEmpty then some value else none
  | none => none

end ParamSql.Json
