import ParamSql.Returning
import ParamSql.KeyMap

/-! INSERT of one row. The columns are a map, so that the text depends only on what each column was
last set to. -/
namespace ParamSql

/-- What a column is set to: a bound value, or an expression written as it is. -/
inductive Assignment where
  | value (v : Value)
  | raw (sql : String)
  deriving DecidableEq, Inhabited

def Assignment.writeTo (a : Assignment) (out : Fragment) : Fragment :=
  match a with
  | value v => out.bind v
  | raw sql => out.text sql

abbrev Assignments := KeyMap Assignment

def KeyMap.setAll (fields : Assignments) (values : KeyMap Value) : Assignments :=
  fields.union (values.map .value)

structure Insert where
  table : String
  fields : Assignments
  returning : List String
  deriving DecidableEq, Inhabited

namespace Insert

def into (table : String) : Insert := ⟨table,.empty,[]⟩

def set (q : Insert) (column : String) (value : Value) : Insert :=
  { q with fields := q.fields.insert column (.value value) }

/-- An absent value leaves the column as it is. -/
def setIfGiven (q : Insert) (column : String) (value : Option Value) : Insert :=
  match value with
  | some v => q.set column v
  | none => q

def setRaw (q : Insert) (column sql : String) : Insert :=
  { q with fields := q.fields.insert column (.raw sql) }

def setAll (q : Insert) (values : KeyMap Value) : Insert :=
  { q with fields := q.fields.setAll values }

def addReturning (q : Insert) (columns : List String) : Insert :=
  { q with returning := q.returning ++ columns }

def columns (q : Insert) : List String := q.fields.keys

def writeAssignments : (first : Bool) → List (String × Assignment) → Fragment → Fragment
  | _, [], out => out
  | first, (_,a) :: rest, out =>
    writeAssignments false rest (a.writeTo (if first then out else out.text ", "))

def writeTo (d : Dialect) (q : Insert) (out : Fragment) : Fragment :=
  let out := (out.text "INSERT INTO ").text (Identifier.table d q.table)
  if q.fields.isEmpty then
    out.text (match d with
      | .mysql => " () VALUES ()"
      | .postgres | .sqlite => " DEFAULT VALUES")
  else
    let out := (((out.text " (").idents d q.columns).text ") VALUES (")
    (writeAssignments true q.fields.entries out).text ")"

def build (q : Insert) (d : Dialect) : Except Error Statement :=
  (q.writeTo d .empty).buildReturning d none q.returning

end Insert

end ParamSql
