import ParamSql.Insert
import ParamSql.Scope

/-! UPDATE. Without a condition that contributes something it is refused, unless all rows are asked
for. -/
namespace ParamSql

structure Update extends Scope where
  table : String
  fields : Assignments
  deriving Inhabited

namespace Update

def of (table : String) : Update := ⟨.empty,table,.empty⟩

def set (q : Update) (column : String) (value : Value) : Update :=
  { q with fields := q.fields.insert column (.value value) }

/-- An absent value leaves the column as it is. -/
def setIfGiven (q : Update) (column : String) (value : Option Value) : Update :=
  match value with
  | some v => q.set column v
  | none => q

def setRaw (q : Update) (column sql : String) : Update :=
  { q with fields := q.fields.insert column (.raw sql) }

def setAll (q : Update) (values : KeyMap Value) : Update :=
  { q with fields := q.fields.setAll values }

def ofAllRows (q : Update) : Update := { q with toScope := q.toScope.ofAllRows }

instance : Filterable Update where
  conditions q := q.conditions
  misuse q := q.misuse
  keep q conditions misuse := { q with conditions := conditions, misuse := misuse }
  keep_self _ := rfl

def addReturning (q : Update) (columns : List String) : Update :=
  { q with toScope := q.toScope.addReturning columns }

def refusal? (q : Update) : Option Misuse :=
  q.misuse.or
    (if q.fields.isEmpty then some (.updateWithoutColumns q.table)
    else if q.isOpen then some (.updateWithoutFilter q.table)
    else none)

def writeAssignments (d : Dialect) : (first : Bool) → List (String × Assignment) → Fragment →
    Fragment
  | _, [], out => out
  | first, (column,a) :: rest, out =>
    let out := ((if first then out else out.text ", ").ident d column).text " = "
    writeAssignments d false rest (a.writeTo out)

def writeTo (d : Dialect) (q : Update) (out : Fragment) : Fragment :=
  let out := ((out.text "UPDATE ").text (Identifier.table d q.table)).text " SET "
  q.conditions.writeClause " WHERE " d (writeAssignments d true q.fields.entries out)

def build (q : Update) (d : Dialect) : Except Error Statement :=
  (q.writeTo d .empty).buildReturning d q.refusal? q.returning

end Update

end ParamSql
