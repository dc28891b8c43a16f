import ParamSql.Insert

/-! INSERT that resolves a conflict with a stored row.

| dialect          | keep the row                    | overwrite columns                  |
|------------------|---------------------------------|------------------------------------|
| postgres, sqlite | `ON CONFLICT (k) DO NOTHING`    | `… DO UPDATE SET c = EXCLUDED.c`   |
| mysql            | `ON DUPLICATE KEY UPDATE k = k` | `… UPDATE c = VALUES(c)`           | -/
namespace ParamSql

inductive ConflictAction where
  | keep
  /-- Overwrite every inserted column outside the conflict target. -/
  | overwriteInserted
  | overwrite (columns : List String)
  deriving DecidableEq, Inhabited

structure Upsert where
  insert : Insert
  target : List String
  action : ConflictAction
  deriving DecidableEq, Inhabited

namespace Upsert

def ofInsert (insert : Insert) : Upsert := ⟨insert,[],.overwriteInserted⟩

def into (table : String) (values : KeyMap Value) : Upsert :=
  ofInsert ((Insert.into table).setAll values)

def onConflict (q : Upsert) (columns : List String) : Upsert := { q with target := columns }

def resolve (q : Upsert) (action : ConflictAction) : Upsert := { q with action := action }

def addReturning (q : Upsert) (columns : List String) : Upsert :=
  { q with insert := q.insert.addReturning columns }

/-- The columns that a conflict overwrites; none of them keeps the row. -/
def overwritten (q : Upsert) : List String :=
  match q.action with
  | .keep => []
  | .overwriteInserted => q.insert.columns.filter (!q.target.contains ·)
  | .overwrite columns => columns

/-- Assignments of the proposed values, with a comma between them. -/
def proposals (d : Dialect) (columns : List String) : String :=
  String.intercalate ", " (columns.map fun column =>
    let name := d.quote column
    match d with
    | .postgres | .sqlite => name ++ " = EXCLUDED." ++ name
    | .mysql => name ++ " = VALUES(" ++ name ++ ")")

/-- Writes what a conflict does. To keep the row, MySQL sets the first column of the target to itself;
a target without columns has no first one, and there the writer fails. -/
def writeConflict? (d : Dialect) (q : Upsert) (out : Fragment) : Option Fragment :=
  let columns := q.overwritten
  match d with
  | .postgres | .sqlite =>
    let out := ((out.text " ON CONFLICT (").idents d q.target).text ")"
    if columns.isEmpty then some (out.text " DO NOTHING")
    else some ((out.text " DO UPDATE SET ").text (proposals d columns))
  | .mysql =>
    let out := out.text " ON DUPLICATE KEY UPDATE "
    if columns.isEmpty then q.target[0]?.map fun key => ((out.ident d key).text " = ").ident d key
    else some (out.text (proposals d columns))

def refusal? (q : Upsert) : Option Misuse :=
  if q.target.isEmpty then some .upsertWithoutTarget else none

/-- The build, unless the writer fails. -/
def build? (q : Upsert) (d : Dialect) : Option (Except Error Statement) :=
  match q.refusal? with
  | some misuse => some (.error (.validation misuse))
  | none => do
    let out ← q.writeConflict? d (q.insert.writeTo d .empty)
    return out.buildReturning d none q.insert.returning

theorem isSome_writeConflict? (d : Dialect) {q : Upsert} (targeted : q.target ≠ []) (out : Fragment) :
    (q.writeConflict? d out).isSome := by
  obtain ⟨key,rest,target⟩ := List.exists_cons_of_ne_nil targeted
  unfold writeConflict?
  cases d with
  | postgres | sqlite =>
    dsimp only
    split <;> rfl
  | mysql =>
    dsimp only
    split
    · rw [target]
      rfl
    · rfl

/-- A target without columns is refused before the writer comes to it. -/
theorem isSome_build? (q : Upsert) (d : Dialect) : (q.build? d).isSome := by
  rw [build?,refusal?]
  by_cases targeted : q.target = []
  · rw [targeted]
    rfl
  · obtain ⟨out,written⟩ := Option.isSome_iff_exists.mp
      (isSome_writeConflict? d targeted (q.insert.writeTo d .empty))
    rw [if_neg (by simpa using targeted),written]
    rfl

def build (q : Upsert) (d : Dialect) : Except Error Statement := (q.build? d).get (q.isSome_build? d)

end Upsert

end ParamSql
