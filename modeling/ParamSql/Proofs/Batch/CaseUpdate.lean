import ParamSql.Identifier
import ParamSql.Value
import Mathlib.Logic.Function.Basic

/-! UPDATE statements that set columns by a CASE on a key column: their text, and what they do to a
stored row. A CASE takes the first arm whose key equals the stored key and else the stored value, and
NULL equals nothing. Setting the columns at once and one after another is the same, since no arm reads
a column that is set before. -/
namespace ParamSql

/-- A column and the arms of its CASE: a key and the value for it. The type `ν` is that of numbers of
placeholders, or of the values bound to them. -/
structure CaseAssignment (ν : Type) where
  column : String
  arms : List (ν × ν)

structure CaseUpdate (ν : Type) where
  table : String
  key : String
  assignments : List (CaseAssignment ν)
  keys : List ν

abbrev StoredRow := String → Value

/-- Equality in SQL, where `same` compares values that are not NULL. -/
def sqlEqual (same : Value → Value → Bool) (a b : Value) : Bool := !a.isNull && !b.isNull && same a b

namespace CaseAssignment

variable {ν μ : Type}

def map (f : ν → μ) (a : CaseAssignment ν) : CaseAssignment μ :=
  ⟨a.column,a.arms.map fun arm => (f arm.1,f arm.2)⟩

/-- The placeholders in the order of the text. -/
def slots (a : CaseAssignment ν) : List ν := a.arms.flatMap fun arm => [arm.1,arm.2]

def armText (d : Dialect) (arm : Nat × Nat) : String :=
  " WHEN " ++ d.placeholder arm.1 ++ " THEN " ++ d.placeholder arm.2

def text (d : Dialect) (key : String) (a : CaseAssignment Nat) : String :=
  d.quote a.column ++ " = CASE " ++ d.quote key ++ String.join (a.arms.map (armText d)) ++ " ELSE " ++
    d.quote a.column ++ " END"

def value (same : Value → Value → Bool) (key : String) (row : StoredRow) (a : CaseAssignment Value) :
    Value :=
  ((a.arms.find? fun arm => sqlEqual same (row key) arm.1).map (·.2)).getD (row a.column)

end CaseAssignment

namespace CaseUpdate

variable {ν μ : Type}

def map (f : ν → μ) (u : CaseUpdate ν) : CaseUpdate μ :=
  ⟨u.table,u.key,u.assignments.map (·.map f),u.keys.map f⟩

def slots (u : CaseUpdate ν) : List ν := u.assignments.flatMap (·.slots) ++ u.keys

def text (d : Dialect) (u : CaseUpdate Nat) : String :=
  "UPDATE " ++ Identifier.table d u.table ++ " SET " ++
    String.intercalate ", " (u.assignments.map (·.text d u.key)) ++ " WHERE " ++ d.quote u.key ++
    " IN (" ++ String.intercalate ", " (u.keys.map d.placeholder) ++ ")"

/-- Puts the arguments in the place of the numbers. -/
def bindArgs (u : CaseUpdate Nat) (args : List Value) : CaseUpdate Value :=
  u.map fun number => args.getD (number - 1) .null

variable (same : Value → Value → Bool)

def assignedAtOnce (key : String) (assignments : List (CaseAssignment Value)) (row : StoredRow) :
    StoredRow := fun column =>
  match assignments.find? (·.column = column) with
  | some a => a.value same key row
  | none => row column

def assignedInTurn (key : String) (assignments : List (CaseAssignment Value)) (row : StoredRow) :
    StoredRow :=
  assignments.foldl (fun row a => Function.update row a.column (a.value same key row)) row

/-- The row after the statement. MySQL lets an assignment see the ones before it. -/
def applied (d : Dialect) (u : CaseUpdate Value) (row : StoredRow) : StoredRow :=
  if u.keys.any (sqlEqual same (row u.key)) then
    match d with
    | .mysql => assignedInTurn same u.key u.assignments row
    | .postgres | .sqlite => assignedAtOnce same u.key u.assignments row
  else row

theorem assignedInTurn_eq {key : String} {assignments : List (CaseAssignment Value)}
    (distinct : (assignments.map (·.column)).Nodup) (unset : key ∉ assignments.map (·.column))
    (row : StoredRow) : assignedInTurn same key assignments row = assignedAtOnce same key assignments row := by
  induction assignments generalizing row with
  | nil => rfl
  | cons a assignments ih =>
    rw [List.map_cons,List.nodup_cons] at distinct
    rw [List.map_cons,List.mem_cons,not_or] at unset
    have later := ih distinct.2 unset.2 (Function.update row a.column (a.value same key row))
    have untouched (b : CaseAssignment Value) (inside : b ∈ assignments) :
        b.value same key (Function.update row a.column (a.value same key row)) = b.value same key row := by
      have other : b.column ≠ a.column := fun h => distinct.1 (h ▸ List.mem_map_of_mem inside)
      unfold CaseAssignment.value
      rw [Function.update_of_ne unset.1,Function.update_of_ne other]
    rw [assignedInTurn,List.foldl_cons,← assignedInTurn,later]
    funext column
    rw [assignedAtOnce,assignedAtOnce,List.find?_cons]
    by_cases equal : a.column = column
    · subst equal
      have absent : assignments.find? (·.column = a.column) = none :=
        List.find?_eq_none.mpr fun b inside h =>
          distinct.1 (of_decide_eq_true h ▸ List.mem_map_of_mem inside)
      rw [absent,decide_eq_true rfl]
      exact Function.update_self ..
    · rw [decide_eq_false equal]
      cases set : assignments.find? (·.column = column) with
      | none => exact Function.update_of_ne (Ne.symm equal) ..
      | some b => exact untouched b (List.mem_of_find?_eq_some set)

end CaseUpdate

end ParamSql
