import ParamSql.Condition

/-! The rows that an UPDATE or DELETE changes: those that its conditions find. Where no condition
contributes anything, all rows have to be asked for. -/
namespace ParamSql

structure Scope where
  conditions : ConditionGroup
  returning : List String
  allRows : Bool
  misuse : Option Misuse
  deriving Inhabited

namespace Scope

def empty : Scope := ⟨.empty,[],false,none⟩

def addReturning (s : Scope) (columns : List String) : Scope :=
  { s with returning := s.returning ++ columns }

def ofAllRows (s : Scope) : Scope := { s with allRows := true }

instance : Filterable Scope where
  conditions := conditions
  misuse := misuse
  keep s conditions misuse := { s with conditions := conditions, misuse := misuse }
  keep_self _ := rfl

/-- Whether nothing tells which rows are meant. -/
def isOpen (s : Scope) : Bool := s.conditions.isEmpty && !s.allRows

end Scope

end ParamSql
