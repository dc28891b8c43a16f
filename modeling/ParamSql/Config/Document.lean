import ParamSql.Octets
import ParamSql.Text.Blank
import ParamSql.Text.Digits

/-! Settings documents: lines of the form `key = value` in TOML. Of TOML only what a flat list of
texts, whole numbers and truth values needs is read; tables, arrays, dates and dotted keys are
refused. -/
namespace ParamSql.Document
open Text

inductive Scalar where
  | text (s : String)
  | integer (n : Int)
  | boolean (b : Bool)
  deriving DecidableEq, Repr, Inhabited

def isSpace (c : Char) : Bool := c = ' ' || c = '\t'

def skipSpace (cs : List Char) : List Char := cs.dropWhile isSpace

def isPlain (c : Char) : Bool := c = '\t' || (0x20 ≤ c.toNat && c.toNat ≠ 0x7f)

/-- The text after the end of a line, before which a comment may stand. -/
def lineEnd? (cs : List Char) : Option (List Char) :=
  let cs := match skipSpace cs with
    | '#' :: cs => cs.dropWhile isPlain
    | cs => cs
  match cs with
  | [] => some []
  | '\n' :: cs => some cs
  | '\r' :: '\n' :: cs => some cs
  | _ => none

/-- The character of a number of hexadecimal digits, if it is one. -/
def codePoint? (digits : List Char) : Option Char := do
  let values ← digits.mapM Octets.hexValue?
  let n := values.foldl (fun n v => 16 * n + v) 0
  if n.isValidChar then some (Char.ofNat n) else none

def unescape? (c : Char) : Option Char :=
  if c = '\x22' || c = '\\' then some c
  else if c = 'b' then some '\x08'
  else if c = 't' then some '\t'
  else if c = 'n' then some '\n'
  else if c = 'f' then some '\x0c'
  else if c = 'r' then some '\r'
  else if c = 'e' then some '\x1b'
  else none

/-- An escape after its backslash: the character, and how many characters it takes. -/
def escape? : List Char → Option (Char × Nat)
  | [] => none
  | c :: cs =>
    let width := if c = 'x' then 2 else if c = 'u' then 4 else if c = 'U' then 8 else 0
    if width = 0 then (unescape? c).map (·,1)
    else if cs.length < width then none
    else (codePoint? (cs.take width)).map (·,width + 1)

/-- Whether a line break of one or two characters comes first. -/
def breaksLine : List Char → Bool
  | '\n' :: _ => true
  | '\r' :: '\n' :: _ => true
  | _ => false

def atLineEnd (cs : List Char) : Bool := breaksLine (skipSpace cs)

/-- A text between double quotes, after the first. The next `skip` characters have been read. -/
def basic? : (skip : Nat) → List Char → Option (List Char × List Char)
  | _, [] => none
  | skip + 1, _ :: cs => basic? skip cs
  | 0, c :: cs =>
    if c = '\x22' then some ([],cs)
    else if c = '\\' then do
      let (c,width) ← escape? cs
      let (body,rest) ← basic? width cs
      return (c :: body,rest)
    else if isPlain c then do
      let (body,rest) ← basic? 0 cs
      return (c :: body,rest)
    else none

/-- A text between single quotes, after the first. -/
def literal? : List Char → Option (List Char × List Char)
  | [] => none
  | c :: cs =>
    if c = '\x27' then some ([],cs)
    else if isPlain c then do
      let (body,rest) ← literal? cs
      return (c :: body,rest)
    else none

/-- The end of a text of several lines: three marks, before which two may belong to the text. -/
def closing? (mark : Char) (cs : List Char) : Option (List Char × List Char) :=
  let marks := (cs.takeWhile (· = mark)).length
  if marks < 3 then none
  else
    let own := min (marks - 3) 2
    some (List.replicate own mark,cs.drop (own + 3))

/-- A text of several lines, after its three opening marks. Its line breaks stay as they are. A
backslash at the end of a line takes away the blank characters after it, which `trimming` tells. -/
def lines? (mark : Char) : (trimming : Bool) → (skip : Nat) → List Char →
    Option (List Char × List Char)
  | _, _, [] => none
  | trimming, skip + 1, _ :: cs => lines? mark trimming skip cs
  | trimming, 0, c :: cs =>
    if trimming && (isSpace c || breaksLine (c :: cs)) then lines? mark true 0 cs
    else match closing? mark (c :: cs) with
      | some found => some found
      | none =>
        if c = '\\' && mark = '\x22' then
          if atLineEnd cs then lines? mark true 0 cs
          else do
            let (c,width) ← escape? cs
            let (body,rest) ← lines? mark false width cs
            return (c :: body,rest)
        else if isPlain c || breaksLine (c :: cs) then do
          let (body,rest) ← lines? mark false 0 cs
          return (c :: body,rest)
        else none

/-- A line break right after the opening marks is no part of the text. -/
def dropLineBreak : List Char → List Char
  | '\n' :: cs => cs
  | '\r' :: '\n' :: cs => cs
  | cs => cs

/-- Digits in which single underscores may stand between two digits. -/
def grouped? (isDigit : Char → Bool) (cs : List Char) : Option (List Char) :=
  let groups := splitOnChar '_' cs
  if groups.all fun g => !g.isEmpty && g.all isDigit then some groups.flatten else none

def natOfBase (base : Nat) (digits : List Char) : Nat :=
  digits.foldl (fun n c => base * n + (Octets.hexValue? c).getD 0) 0

/-- A number without sign in a base below ten or in base sixteen. -/
def radix? (base : Nat) (cs : List Char) : Option Int :=
  let isDigit (c : Char) : Bool := match Octets.hexValue? c with
    | some v => v < base
    | none => false
  (grouped? isDigit cs).map fun digits => natOfBase base digits

def decimal? (cs : List Char) : Option Nat := do
  let digits ← grouped? isDigit cs
  if cs.length ≠ 1 && cs.head? == some '0' then none else some (ofDigits digits)

def integer? : List Char → Option Int
  | '0' :: 'x' :: cs => radix? 16 cs
  | '0' :: 'o' :: cs => radix? 8 cs
  | '0' :: 'b' :: cs => radix? 2 cs
  | '+' :: cs => (decimal? cs).map Int.ofNat
  | '-' :: cs => (decimal? cs).map fun n => -(n : Int)
  | cs => (decimal? cs).map Int.ofNat

def isWordChar (c : Char) : Bool := c.isAlphanum || c = '_' || c = '-'

def scalar? (cs : List Char) : Option (Scalar × List Char) :=
  let text (r : List Char × List Char) : Scalar × List Char := (.text (String.ofList r.1),r.2)
  match cs with
  | '\x22' :: '\x22' :: '\x22' :: cs => (lines? '\x22' false 0 (dropLineBreak cs)).map text
  | '\x22' :: cs => (basic? 0 cs).map text
  | '\x27' :: '\x27' :: '\x27' :: cs => (lines? '\x27' false 0 (dropLineBreak cs)).map text
  | '\x27' :: cs => (literal? cs).map text
  | cs =>
    let isPart (c : Char) : Bool := isWordChar c || c = '+'
    let word := cs.takeWhile isPart
    let rest := cs.dropWhile isPart
    if word = "true".toList then some (.boolean true,rest)
    else if word = "false".toList then some (.boolean false,rest)
    else (integer? word).map fun n => (.integer n,rest)

def key? (cs : List Char) : Option (String × List Char) :=
  let text (r : List Char × List Char) : String × List Char := (String.ofList r.1,r.2)
  match cs with
  | '\x22' :: cs => (basic? 0 cs).map text
  | '\x27' :: cs => (literal? cs).map text
  | cs =>
    let word := cs.takeWhile isWordChar
    if word.isEmpty then none else some (String.ofList word,cs.dropWhile isWordChar)

/-- The entries of a document. Fuel bounds the number of lines. -/
def entriesFrom : (fuel : Nat) → List Char → Option (List (String × Scalar))
  | 0, _ => none
  | fuel + 1, cs =>
    match skipSpace cs with
    | [] => some []
    | cs =>
      match lineEnd? cs with
      | some rest => entriesFrom fuel rest
      | none => do
        let (key,cs) ← key? cs
        match skipSpace cs with
        | '=' :: cs => do
          let (value,cs) ← scalar? (skipSpace cs)
          let rest ← lineEnd? cs
          let entries ← entriesFrom fuel rest
          return (key,value) :: entries
        | _ => none

/-- A byte order mark may stand first. Every line has a character, so there are no more lines than
characters. -/
def ofText? (s : String) : Option (List (String × Scalar)) :=
  let cs := match s.toList with
    | '\ufeff' :: cs => cs
    | cs => cs
  entriesFrom (cs.length + 1) cs

end ParamSql.Document
