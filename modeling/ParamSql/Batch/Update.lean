import ParamSql.Fragment
import ParamSql.Identifier
import ParamSql.KeyMap

/-! UPDATE of many rows, found by one key column. A column is set by a CASE on the key with an arm
for each row that gives the column; other rows keep their stored value. -/
namespace ParamSql

structure BatchUpdate where
  table : String
  key : String
  rows : List (Value × KeyMap Value)
  deriving DecidableEq, Inhabited

namespace BatchUpdate

def of (table key : String) : BatchUpdate := ⟨table,key,[]⟩

def addRow (q : BatchUpdate) (key : Value) (values : KeyMap Value) : BatchUpdate :=
  { q with rows := q.rows ++ [(key,values)] }

def ofRows? (table key : String) (rows : List (Value × KeyMap Value)) : Except Error BatchUpdate :=
  if rows.isEmpty then .error (.validation (.batchUpdateWithoutRows table))
  else .ok ⟨table,key,rows⟩

/-- All columns that some row gives, ascending, without the key. -/
def columns (q : BatchUpdate) : List String :=
  (KeyMap.ofList (((q.rows.flatMap (·.2.keys)).filter (· != q.key)).map (·,()))).keys

def writeArms (column : String) : List (Value × KeyMap Value) → Fragment → Fragment
  | [], out => out
  | (key,values) :: rows, out =>
    match values.get? column with
    | some v => writeArms column rows ((((out.text " WHEN ").bind key).text " THEN ").bind v)
    | none => writeArms column rows out

def writeColumns (d : Dialect) (q : BatchUpdate) : (first : Bool) → List String → Fragment →
    Fragment
  | _, [], out => out
  | first, column :: columns, out =>
    let out := ((if first then out else out.text ", ").ident d column).text " = CASE "
    let out := writeArms column q.rows (out.ident d q.key)
    writeColumns d q false columns (((out.text " ELSE ").ident d column).text " END")

def writeTo (d : Dialect) (q : BatchUpdate) (out : Fragment) : Fragment :=
  let out := ((out.text "UPDATE ").text (Identifier.table d q.table)).text " SET "
  let out := ((writeColumns d q true q.columns out).text " WHERE ").ident d q.key
  ((out.text " IN (").bindList (q.rows.map (·.1))).text ")"

def build (q : BatchUpdate) (d : Dialect) : Except Error Statement :=
  if q.rows.isEmpty then .error (.validation (.batchUpdateWithoutRows q.table))
  else if q.columns.isEmpty then .error (.validation (.batchUpdateWithoutColumns q.table))
  else (q.writeTo d .empty).build d

end BatchUpdate

end ParamSql
