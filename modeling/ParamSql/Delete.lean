import ParamSql.Returning
import ParamSql.Scope

/-! DELETE. Without a condition that contributes something it is refused, unless all rows are asked
for. -/
namespace ParamSql

structure Delete extends Scope where
  table : String
  deriving Inhabited

namespace Delete

def of (table : String) : Delete := ⟨.empty,table⟩

def ofAllRows (q : Delete) : Delete := { q with toScope := q.toScope.ofAllRows }

instance : Filterable Delete where
  conditions q := q.conditions
  misuse q := q.misuse
  keep q conditions misuse := { q with conditions := conditions, misuse := misuse }
  keep_self _ := rfl

def addReturning (q : Delete) (columns : List String) : Delete :=
  { q with toScope := q.toScope.addReturning columns }

def refusal? (q : Delete) : Option Misuse :=
  q.misuse.or (if q.isOpen then some (.deleteWithoutFilter q.table) else none)

def writeTo (d : Dialect) (q : Delete) (out : Fragment) : Fragment :=
  q.conditions.writeClause " WHERE " d
    ((out.text "DELETE FROM ").text (Identifier.table d q.table))

def build (q : Delete) (d : Dialect) : Except Error Statement :=
  (q.writeTo d .empty).buildReturning d q.refusal? q.returning

end Delete

end ParamSql
