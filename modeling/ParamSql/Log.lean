import ParamSql.Statement
import ParamSql.Text.Truncate

/-! What a session reports about its statements. -/
namespace ParamSql

inductive LogEvent where
  | statement (tag dialect : String) (paramCount : Nat) (sql : String)
  | slowQuery (tag : String) (threshold : Duration) (sql : String)
  /-- A row was inserted, but the key generated for it is not known. -/
  | keyNotReported (table key : String)
  /-- A row was inserted, but the record did not take the key generated for it. -/
  | keyNotStored (table key : String) (error : Error)
  deriving DecidableEq

namespace LogEvent

def isWarning : LogEvent → Bool
  | statement .. => false
  | _ => true

def message? : LogEvent → Option String
  | statement .. => none
  | slowQuery .. => some "slow query"
  | keyNotReported .. => some "insert succeeded but no generated key was reported"
  | keyNotStored .. => some "insert succeeded but the generated key could not be stored"

end LogEvent

structure SqlLog where
  enabled : Bool
  /-- Longer statements are cut to this many bytes. -/
  maxLength : Option Nat
  slowThreshold : Option Duration
  dialect : Option Dialect
  deriving DecidableEq

namespace SqlLog

def default : SqlLog := ⟨true,some 200,none,none⟩

instance : Inhabited SqlLog := ⟨default⟩

def withMaxLength (l : SqlLog) (n : Nat) : SqlLog := { l with maxLength := some n }

def withoutLimit (l : SqlLog) : SqlLog := { l with maxLength := none }

def withSlowThreshold (l : SqlLog) (d : Duration) : SqlLog := { l with slowThreshold := some d }

def tagText (s : Statement) : String := s.tag.getD "-"

def before (l : SqlLog) (s : Statement) : List LogEvent :=
  if l.enabled then
    [.statement (tagText s) ((l.dialect.map Dialect.name).getD "-") s.args.length
      (Text.truncate l.maxLength s.sql)]
  else []

def after (l : SqlLog) (s : Statement) (elapsed : Duration) : List LogEvent :=
  match l.slowThreshold with
  | some threshold =>
    if threshold.nanos < elapsed.nanos then
      [.slowQuery (tagText s) threshold (Text.truncate l.maxLength s.sql)]
    else []
  | none => []

end SqlLog

end ParamSql
