import ParamSql.Json
import ParamSql.Timestamp
import ParamSql.Uuid

/-! Values: what statements bind to their placeholders and what rows hold. -/
namespace ParamSql

inductive Kind where
  | null
  | bool
  | int
  | float
  | text
  | bytes
  | json
  | timestamp
  | uuid
  deriving DecidableEq, Repr, Inhabited

def Kind.name : Kind → String
  | null => "null"
  | bool => "bool"
  | int => "int"
  | float => "float"
  | text => "text"
  | bytes => "bytes"
  | json => "json"
  | timestamp => "timestamp"
  | uuid => "uuid"

inductive Value where
  | null
  | bool (b : Bool)
  | int (n : Int64)
  | float (x : Double)
  | text (s : String)
  | bytes (data : List UInt8)
  | json (document : Json)
  | timestamp (t : Timestamp)
  | uuid (u : Uuid)
  deriving DecidableEq, Inhabited

namespace Value

def kind : Value → Kind
  | null => .null
  | bool _ => .bool
  | int _ => .int
  | float _ => .float
  | text _ => .text
  | bytes _ => .bytes
  | json _ => .json
  | timestamp _ => .timestamp
  | uuid _ => .uuid

def isNull (v : Value) : Bool := v.kind == .null

/-- An absent value is NULL. -/
def ofOption {α : Type} (ofValue : α → Value) : Option α → Value
  | some a => ofValue a
  | none => null

end Value

end ParamSql
