import ParamSql.Decoder
import ParamSql.Row
import ParamSql.Wire.Type

/-! Parameters and columns. How values become bytes is left to codecs, one for each kind of value and
width. The kind of a parameter and its declared type select the codec: integers take the width of the
type and are refused where they do not fit, and a codec refuses a type that it does not take. The type
of a column selects the codec that reads it. -/
namespace ParamSql.Wire

/-- Reads the columns of the types that it gives. -/
structure Reader (α : Type) where
  gives : WireType → Bool
  read? : WireType → List UInt8 → Option α

structure Codec (α : Type) extends Reader α where
  takes : WireType → Bool
  write? : WireType → α → Option (List UInt8)

/-- Local times are those of UTC. Dates and times of day are read as text. -/
structure Codecs where
  bool : Codec Bool
  int2 : Codec Int16
  int4 : Codec Int32
  int8 : Codec Int64
  oid : Codec UInt32
  float4 : Codec Single
  float8 : Codec Double
  text : Codec String
  bytea : Codec (List UInt8)
  json : Codec Json
  instant : Codec Timestamp
  localTime : Codec Timestamp
  uuid : Codec Uuid
  date : Reader String
  time : Reader String

section
variable {α : Type}

/-- The bytes of a value, as a type that is taken. -/
def Codec.checked? (c : Codec α) (type : WireType) (a : α) : Option (List UInt8) :=
  if c.takes type then c.write? type a else none

/-- The value of a cell. Of a type that is not given, not even NULL is read. -/
def Reader.cell (r : Reader α) (type : WireType) (kind : Kind) (value : α → Value) :
    Option (List UInt8) → Except DecodeFault Value
  | none => if r.gives type then .ok .null else .error (.malformed kind)
  | some bytes =>
    match if r.gives type then r.read? type bytes else none with
    | some a => .ok (value a)
    | none => .error (.malformed kind)

end

namespace Codecs

def int? (k : Codecs) (type : WireType) (n : Int64) : Option (List UInt8) :=
  match type with
  | .int2 => if NarrowInt.i16.holds n then k.int2.write? type n.toInt16 else none
  | .int4 => if NarrowInt.i32.holds n then k.int4.write? type n.toInt32 else none
  | .oid => if NarrowInt.u32.holds n then k.oid.write? type (.ofNat n.toInt.toNat) else none
  | .float4 => k.float4.write? type (.ofInt n.toInt)
  | .float8 => k.float8.write? type (.ofInt n.toInt)
  | _ => k.int8.checked? type n

def float? (k : Codecs) (type : WireType) (x : Double) : Option (List UInt8) :=
  match type with
  | .float4 => k.float4.write? type x.toSingle
  | _ => k.float8.checked? type x

def timestamp? (k : Codecs) (type : WireType) (t : Timestamp) : Option (List UInt8) :=
  match type with
  | .timestamp => k.localTime.write? type t
  | _ => k.instant.checked? type t

/-- A parameter: bytes, or `some none` for NULL, which any type takes; `none` if it is refused. -/
def param? (k : Codecs) (type : WireType) : Value → Option (Option (List UInt8))
  | .null => some none
  | .bool b => (k.bool.checked? type b).map some
  | .int n => (k.int? type n).map some
  | .float x => (k.float? type x).map some
  | .text s => (k.text.checked? type s).map some
  | .bytes data => (k.bytea.checked? type data).map some
  | .json document => (k.json.checked? type document).map some
  | .timestamp t => (k.timestamp? type t).map some
  | .uuid u => (k.uuid.checked? type u).map some

/-- All parameters, unless one is refused. -/
def params? (k : Codecs) (params : List (WireType × Value)) : Option (List (Option (List UInt8))) :=
  params.mapM fun p => k.param? p.1 p.2

/-- A column: a type that is not listed is read as text, if text can be of that type. -/
def column (k : Codecs) (type : WireType) : Option (List UInt8) → Except DecodeFault Value :=
  match type with
  | .bool => k.bool.cell type .bool .bool
  | .int2 => k.int2.cell type .int fun n => .int n.toInt64
  | .int4 => k.int4.cell type .int fun n => .int n.toInt64
  | .int8 => k.int8.cell type .int .int
  | .oid => k.oid.cell type .int fun n => .int (.ofNat n.toNat)
  | .float4 => k.float4.cell type .float fun x => .float x.toDouble
  | .float8 => k.float8.cell type .float .float
  | .bytea => k.bytea.cell type .bytes .bytes
  | .json | .jsonb => k.json.cell type .json .json
  | .timestamptz => k.instant.cell type .timestamp .timestamp
  | .timestamp => k.localTime.cell type .timestamp .timestamp
  | .uuid => k.uuid.cell type .uuid .uuid
  | .date => k.date.cell type .text .text
  | .time => k.time.cell type .text .text
  | _ =>
    if k.text.gives type then k.text.cell type .text .text
    else fun _ => .error (.unsupportedType type.typeName)

/-- A row; the first column that cannot be read decides. -/
def row (k : Codecs) (columns : List (String × WireType)) (cells : List (Option (List UInt8))) :
    Except Error Row := do
  let cells ← (columns.zip cells).mapM fun (c,cell) =>
    ((k.column c.2 cell).map (c.1,·)).mapError (.decode c.1)
  return ⟨cells⟩

end Codecs

end ParamSql.Wire
