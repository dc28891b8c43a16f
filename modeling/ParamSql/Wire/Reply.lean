import ParamSql.Exchange
import ParamSql.Wire.Codec

/-! What a Postgres server replies to a statement: rows and a command tag, or an error. -/
namespace ParamSql.Wire

structure ServerError where
  code : String
  message : String
  constraint : Option String
  deriving DecidableEq, Repr

/-- Violations of constraints are told apart by their SQLSTATE. -/
def ServerError.toError (e : ServerError) : Error :=
  let detail := e.constraint.getD "unknown" ++ ": " ++ e.message
  match e.code with
  | "23505" => .uniqueViolation detail
  | "23503" => .foreignKeyViolation detail
  | "23514" => .checkViolation detail
  | _ => .query ("db error: " ++ e.message)

structure Reply where
  columns : List (String × WireType)
  rows : List (List (Option (List UInt8)))
  tag : String
  failure : Option ServerError

/-- A whole number of 64 bits without sign; a plus sign may stand before it. -/
def count? (cs : List Char) : Option UInt64 :=
  let digits := match cs with
    | '+' :: digits => digits
    | digits => digits
  if !digits.isEmpty && digits.all Text.isDigit && Text.ofDigits digits < UInt64.size then
    some (UInt64.ofNat (Text.ofDigits digits))
  else none

/-- The number of rows that a command tag such as `UPDATE 3` ends with. -/
def affected (tag : String) : UInt64 :=
  (((Text.splitOnChar ' ' tag.toList).getLast?).bind count?).getD 0

namespace Codecs

/-- The reply, once the parameters could be sent. -/
def answer (k : Codecs) (params : List (WireType × Value)) (reply : Reply) : Except Error Reply :=
  match k.params? params with
  | none => .error (.query "error serializing parameter")
  | some _ =>
    match reply.failure with
    | some e => .error e.toError
    | none => .ok reply

def query (k : Codecs) (params : List (WireType × Value)) (reply : Reply) : Except Error (List Row) := do
  let reply ← k.answer params reply
  reply.rows.mapM (k.row reply.columns)

def execute (k : Codecs) (params : List (WireType × Value)) (reply : Reply) :
    Except Error ExecResult := do
  let reply ← k.answer params reply
  return ⟨affected reply.tag,none⟩

end Codecs

end ParamSql.Wire
