import ParamSql.Error
import ParamSql.Json.Parser
import ParamSql.Timestamp.Rfc3339

/-! Reading values as other types. Only conversions that lose nothing are made: an integer reads as
a double or, if it is 0 or 1, as a truth value, and text reads as the document, instant or
identifier that it spells. -/
namespace ParamSql

abbrev Decoder (α : Type) := Value → Except DecodeFault α

/-- The least and the greatest number of a narrow type. -/
def NarrowInt.bounds : NarrowInt → Int × Int
  | i16 => (-32768,32767)
  | i32 => (-2147483648,2147483647)
  | u32 => (0,4294967295)

def NarrowInt.holds (t : NarrowInt) (n : Int64) : Bool :=
  t.bounds.1 ≤ n.toInt && n.toInt ≤ t.bounds.2

namespace Decoder

def value : Decoder Value := .ok

def int : Decoder Int64
  | .int n => .ok n
  | v => .error (.mismatch .int v.kind)

/-- An integer that a narrow type holds. -/
def narrowInt (t : NarrowInt) : Decoder Int64 := fun v => do
  let n ← int v
  if t.holds n then .ok n else .error (.outOfRange n t)

def double : Decoder Double
  | .float x => .ok x
  | .int n => .ok (.ofInt n.toInt)
  | v => .error (.mismatch .float v.kind)

def bool : Decoder Bool
  | .bool b => .ok b
  | .int n =>
    if n = 0 then .ok false else if n = 1 then .ok true else .error (.mismatch .bool .int)
  | v => .error (.mismatch .bool v.kind)

def text : Decoder String
  | .text s => .ok s
  | v => .error (.mismatch .text v.kind)

def bytes : Decoder (List UInt8)
  | .bytes data => .ok data
  | v => .error (.mismatch .bytes v.kind)

/-- What a text spells, if it is well formed. -/
def spelled {α : Type} (expected : Kind) (read : String → Option α) (s : String) :
    Except DecodeFault α :=
  match read s with
  | some a => .ok a
  | none => .error (.malformed expected)

def json : Decoder Json
  | .json document => .ok document
  | .text s => spelled .json Json.ofText? s
  | v => .error (.mismatch .json v.kind)

def timestamp : Decoder Timestamp
  | .timestamp t => .ok t
  | .text s => spelled .timestamp Timestamp.ofRfc3339? s
  | v => .error (.mismatch .timestamp v.kind)

def uuid : Decoder Uuid
  | .uuid u => .ok u
  | .text s => spelled .uuid Uuid.ofText? s
  | v => .error (.mismatch .uuid v.kind)

/-- NULL reads as nothing. -/
def optional {α : Type} (decode : Decoder α) : Decoder (Option α)
  | .null => .ok none
  | v => (decode v).map some

end Decoder

end ParamSql
