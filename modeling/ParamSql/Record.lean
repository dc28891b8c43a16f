import ParamSql.Query

/-! Records that are stored in a table with a primary key. -/
namespace ParamSql

structure RecordType (ρ : Type) where
  table : String
  primaryKey : List String
  values : ρ → KeyMap Value
  /-- Takes over a key that the database generated, or refuses it. -/
  storeKey : ρ → Int64 → Except Error Unit × ρ

namespace RecordType

variable {ρ : Type}

def refuseKey (table : String) (r : ρ) (key : Int64) : Except Error Unit × ρ :=
  (.error (.validation (.generatedKeyRefused table key)),r)

/-- The key column that is left to the database: the only one, if it is NULL or absent. -/
def generatedKey? (t : RecordType ρ) (values : KeyMap Value) : Option String :=
  match t.primaryKey with
  | [key] => if (values.get? key).all Value.isNull then some key else none
  | _ => none

def keyConditions (t : RecordType ρ) (values : KeyMap Value) : Except Error (List Expr) :=
  if t.primaryKey.isEmpty then .error (.validation (.noPrimaryKey t.table))
  else t.primaryKey.mapM fun key =>
    match values.get? key with
    | some v =>
      if v.isNull then .error (.validation (.keyColumnWithoutValue t.table key))
      else .ok (.eq key v)
    | none => .error (.validation (.keyColumnWithoutValue t.table key))

def insert (t : RecordType ρ) (r : ρ) : Insert :=
  let values := t.values r
  let values := match t.generatedKey? values with
    | some key => values.erase key
    | none => values
  (Insert.into t.table).setAll values

/-- Updates the columns outside the key of the stored record. -/
def update (t : RecordType ρ) (r : ρ) : Except Error Update := do
  let values := t.values r
  let keys ← t.keyConditions values
  let others := t.primaryKey.foldl (·.erase ·) values
  return keys.foldl Filterable.filterExpr ((Update.of t.table).setAll others)

def delete (t : RecordType ρ) (r : ρ) : Except Error Delete := do
  let keys ← t.keyConditions (t.values r)
  return keys.foldl Filterable.filterExpr (Delete.of t.table)

/-- Finds a record by its key values, in the order of the key columns. -/
def find (t : RecordType ρ) (key : List Value) : Except Error Select :=
  if key.length = t.primaryKey.length ∧ key ≠ [] then
    .ok ((t.primaryKey.zip key).foldl (fun q e => Filterable.whereEq q e.1 e.2)
      (Select.star.fromTable t.table))
  else .error (.validation (.keyWidth t.table t.primaryKey.length key.length))

end RecordType

end ParamSql
