import ParamSql.Json.Parser
import ParamSql.Json.Printer
import ParamSql.Wire.Codec

/-! The binary form of Postgres. Numbers have a fixed width and the highest byte first, text is UTF-8,
and instants are counts of microseconds since 2000-01-01. -/
namespace ParamSql.Wire

/-! ## Bytes of numbers and text -/

def twosComplement (width : Nat) (n : Int) : List UInt8 :=
  Octets.bigEndian width (n % Octets.count width).toNat

/-- The number that two's complement bytes spell. -/
def ofSigned (bytes : List UInt8) : Int :=
  let n := Octets.toNat bytes
  let count := Octets.count bytes.length
  if 2 * n < count then n else n - count

def utf8 (s : String) : List UInt8 := s.toUTF8.data.toList

def ofUtf8? (bytes : List UInt8) : Option String := String.fromUTF8? ⟨bytes.toArray⟩

/-- Seconds from 1970-01-01 to 2000-01-01. -/
def epoch : Int := 946684800

/-- Nanoseconds since 2000-01-01. -/
def sinceEpoch (t : Timestamp) : Int := (t.seconds - epoch) * 1000000000 + t.nanos

def ofMicros? (micros : Int) : Option Timestamp :=
  Timestamp.ofUnix? (epoch + micros / 1000000) (micros % 1000000 * 1000).toNat

/-- A date by its days since 2000-01-01. -/
def dateText? (days : Int) : Option String :=
  let days := days + epoch / 86400
  if Timestamp.isDayInRange days then some (Date.ofDays days).text else none

/-! ## Forms of values -/

/-- The bytes of values, and the values that bytes spell. -/
structure Form (α : Type) where
  encode : α → List UInt8
  decode? : List UInt8 → Option α

namespace Form

variable {α : Type}

def fixed? (width : Nat) (value : List UInt8 → α) (bytes : List UInt8) : Option α :=
  if bytes.length = width then some (value bytes) else none

def bool : Form Bool := ⟨fun b => [if b then 1 else 0],fixed? 1 (Octets.toNat · ≠ 0)⟩

def signed (width : Nat) (toInt : α → Int) (ofInt : Int → α) : Form α :=
  ⟨fun a => twosComplement width (toInt a),fixed? width fun bytes => ofInt (ofSigned bytes)⟩

def unsigned (width : Nat) (toNat : α → Nat) (ofNat : Nat → α) : Form α :=
  ⟨fun a => Octets.bigEndian width (toNat a),fixed? width fun bytes => ofNat (Octets.toNat bytes)⟩

def double : Form Double := unsigned 8 (·.bits.toNat) fun n => ⟨.ofNat n⟩

def text : Form String := ⟨utf8,ofUtf8?⟩

def bytea : Form (List UInt8) := ⟨id,some⟩

def uuid : Form Uuid := ⟨Uuid.octets,Uuid.ofOctets?⟩

def json : Form Json := ⟨fun document => utf8 document.text,fun bytes => (ofUtf8? bytes).bind Json.ofText?⟩

/-- What is finer than a microsecond is cut off. -/
def instant : Form Timestamp :=
  ⟨fun t => twosComplement 8 ((sinceEpoch t).tdiv 1000),
    fun bytes => if bytes.length = 8 then ofMicros? (ofSigned bytes) else none⟩

/-- The number of the version stands before the value. -/
def versioned (f : Form α) : Form α :=
  ⟨fun a => 1 :: f.encode a,fun
    | 1 :: bytes => f.decode? bytes
    | _ => none⟩

/-- A codec for some types, each with a form of its own. -/
def codec (types : List WireType) (form : WireType → Form α) : Codec α where
  gives := types.contains
  read? type := (form type).decode?
  takes := types.contains
  write? type a := some ((form type).encode a)

end Form

/-! ## The codecs -/

/-- The types of path labels, which are text behind the number of a version. -/
def labelTypes : List WireType := [.other "ltree",.other "lquery",.other "ltxtquery"]

def textTypes : List WireType :=
  [.text,.varchar,.bpchar,.name,.unknown,.other "citext"] ++ labelTypes

def Codecs.binary : Codecs where
  bool := Form.codec [.bool] fun _ => .bool
  int2 := Form.codec [.int2] fun _ => .signed 2 Int16.toInt Int16.ofInt
  int4 := Form.codec [.int4] fun _ => .signed 4 Int32.toInt Int32.ofInt
  int8 := Form.codec [.int8] fun _ => .signed 8 Int64.toInt Int64.ofInt
  oid := Form.codec [.oid] fun _ => .unsigned 4 UInt32.toNat UInt32.ofNat
  float4 := Form.codec [.float4] fun _ => .unsigned 4 (·.bits.toNat) fun n => ⟨.ofNat n⟩
  float8 := Form.codec [.float8] fun _ => .double
  text := Form.codec textTypes fun type => if type ∈ labelTypes then .versioned .text else .text
  bytea := Form.codec [.bytea] fun _ => .bytea
  json := Form.codec [.json,.jsonb] fun type => if type = .jsonb then .versioned .json else .json
  instant := Form.codec [.timestamptz] fun _ => .instant
  localTime := Form.codec [.timestamp] fun _ => .instant
  uuid := Form.codec [.uuid] fun _ => .uuid
  date := ⟨([.date] : List WireType).contains,fun _ bytes =>
    if bytes.length = 4 then dateText? (ofSigned bytes) else none⟩
  time := ⟨([.time] : List WireType).contains,fun _ =>
    Form.fixed? 8 fun bytes => timeOfDayText (ofSigned bytes)⟩

end ParamSql.Wire
