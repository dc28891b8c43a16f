import ParamSql.Returning
import ParamSql.KeyMap

/-! INSERT of many rows. The columns are listed in ascending order, and the values of a row, which
come in the caller's order, follow their columns. -/
namespace ParamSql

structure BatchInsert where
  table : String
  /-- Each column with its place in the caller's order. -/
  columns : KeyMap Nat
  /-- Rows of values in ascending order of their columns. -/
  rows : List (List Value)
  returning : List String
  deriving DecidableEq, Inhabited

namespace BatchInsert

/-- A batch without rows. The columns have to be there, have names and differ. -/
def of? (table : String) (columns : List String) : Except Error BatchInsert :=
  if columns.isEmpty then .error (.validation .batchInsertWithoutColumns)
  else if columns.any Text.isBlankText then .error (.validation .batchInsertBlankColumn)
  else if columns.Nodup then .ok ⟨table,.ofList columns.zipIdx,[],[]⟩
  else .error (.validation .batchInsertRepeatedColumn)

def addRow? (q : BatchInsert) (values : List Value) : Except Error BatchInsert :=
  let width := q.columns.entries.length
  if values.length = width then
    .ok { q with rows := q.rows ++ [q.columns.entries.map fun c => values[c.2]?.getD .null] }
  else .error (.validation (.batchInsertRowWidth q.rows.length values.length width))

def ofRows? (table : String) (columns : List String) (rows : List (List Value)) :
    Except Error BatchInsert :=
  if rows.isEmpty then .error (.validation (.batchInsertWithoutRows table))
  else do
    let q ← of? table columns
    rows.foldlM (fun q row => q.addRow? row) q

def addReturning (q : BatchInsert) (columns : List String) : BatchInsert :=
  { q with returning := q.returning ++ columns }

def writeRows : (first : Bool) → List (List Value) → Fragment → Fragment
  | _, [], out => out
  | first, row :: rows, out =>
    writeRows false rows ((((if first then out else out.text ", ").text "(").bindList row).text ")")

def writeTo (d : Dialect) (q : BatchInsert) (out : Fragment) : Fragment :=
  let out := ((out.text "INSERT INTO ").text (Identifier.table d q.table)).text " ("
  writeRows true q.rows ((out.idents d q.columns.keys).text ") VALUES ")

def refusal? (q : BatchInsert) : Option Misuse :=
  if q.rows.isEmpty then some (.batchInsertWithoutRows q.table) else none

def build (q : BatchInsert) (d : Dialect) : Except Error Statement :=
  (q.writeTo d .empty).buildReturning d q.refusal? q.returning

end BatchInsert

end ParamSql
