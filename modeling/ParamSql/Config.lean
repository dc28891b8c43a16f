import ParamSql.Config.Document
import ParamSql.Log

/-! Configuration of a session. -/
namespace ParamSql

def Dialect.ofDriver (driver : String) : Except Error Dialect :=
  match ofDriver? driver with
  | some d => .ok d
  | none => .error (.unknownDriver driver)

structure Config where
  driver : String
  /-- The time limit of statements that have none of their own. -/
  timeoutMillis : Option UInt64
  slowMillis : Option UInt64
  logSql : Bool
  maxLoggedLength : Option UInt64
  deriving DecidableEq, Repr

namespace Config

def default : Config := ⟨"postgres",none,none,true,some 200⟩

instance : Inhabited Config := ⟨default⟩

def withDriver (c : Config) (driver : String) : Config := { c with driver := driver }

/-- Milliseconds are counted in 64 bits. -/
def withTimeout (c : Config) (d : Duration) : Config :=
  { c with timeoutMillis := some (UInt64.ofNat d.millis) }

def withSlowThreshold (c : Config) (d : Duration) : Config :=
  { c with slowMillis := some (UInt64.ofNat d.millis) }

def withLogSql (c : Config) (enabled : Bool) : Config := { c with logSql := enabled }

def timeout (c : Config) : Option Duration := c.timeoutMillis.map fun n => .ofMillis n.toNat

def slowThreshold (c : Config) : Option Duration := c.slowMillis.map fun n => .ofMillis n.toNat

def dialect (c : Config) : Except Error Dialect := Dialect.ofDriver c.driver

def sqlLog (c : Config) (d : Dialect) : SqlLog :=
  ⟨c.logSql,c.maxLoggedLength.map (·.toNat),c.slowThreshold,some d⟩

/-- A whole number of 64 bits without sign. -/
def word? : Document.Scalar → Option UInt64
  | .integer n => if 0 ≤ n ∧ n < UInt64.size then some (UInt64.ofNat n.toNat) else none
  | _ => none

def withSetting? (c : Config) (key : String) (value : Document.Scalar) : Option Config :=
  match key,value with
  | "driver", .text s => some { c with driver := s }
  | "query_timeout_ms", v => (word? v).map fun n => { c with timeoutMillis := some n }
  | "slow_query_threshold_ms", v => (word? v).map fun n => { c with slowMillis := some n }
  | "log_sql", .boolean b => some { c with logSql := b }
  | "max_logged_sql_length", v => (word? v).map fun n => { c with maxLoggedLength := some n }
  | _, _ => none

/-- Reads a settings document. Keys that are missing keep their defaults; unknown keys, repeated
keys and values of another type are refused. -/
def ofDocument (s : String) : Except Error Config :=
  match Document.ofText? s with
  | none => .error (.config "malformed document")
  | some entries =>
    if (entries.map (·.1)).Nodup then
      match entries.foldlM (fun c e => withSetting? c e.1 e.2) default with
      | some c => .ok c
      | none => .error (.config "unknown key or wrong type")
    else .error (.config "repeated key")

end Config

end ParamSql
