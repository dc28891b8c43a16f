import ParamSql.Error

/-! Statements: SQL text with the placeholders of one dialect, and the arguments bound to them from
left to right. -/
namespace ParamSql

structure Statement where
  sql : String
  args : List Value
  tag : Option String
  timeout : Option Duration
  deriving DecidableEq, Inhabited

namespace Statement

def ofSql (sql : String) (args : List Value) : Statement := ⟨sql,args,none,none⟩

def tagged (s : Statement) (tag : String) : Statement := { s with tag := some tag }

def withTimeout (s : Statement) (limit : Duration) : Statement := { s with timeout := some limit }

/-- The statement that asks for the plan of another. It binds the same arguments and has no
timeout. -/
def explain (s : Statement) (d : Dialect) (analyze : Bool) : Except Error Statement :=
  match d.planKeywords? analyze with
  | some keywords => .ok ⟨keywords ++ s.sql,s.args,s.tag.map ("explain:" ++ ·),none⟩
  | none => .error (.unsupported "EXPLAIN ANALYZE" d)

end Statement

end ParamSql
