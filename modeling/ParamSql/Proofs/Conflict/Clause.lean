import ParamSql.Proofs.Batch.Unambiguous

/-! Conflict clauses of an INSERT: their text, and what they do to the stored row that an insertion
meets, in a dialect that accepts them. The text has one reading, and to assign proposed values at once
or one after another is the same: no assignment reads the stored row. -/
namespace ParamSql

/-- A column of the stored row, or of the row proposed for insertion. -/
inductive ConflictValue where
  | stored (column : String)
  | proposed (column : String)

structure ConflictAssignment where
  column : String
  value : ConflictValue

inductive ConflictClause where
  | keep (target : List String)
  | update (target : List String) (assignments : List ConflictAssignment)
  /-- The form of MySQL, for a conflict on any key. -/
  | duplicate (assignments : List ConflictAssignment)

/-! ## Lists with one reading -/

section
variable {α : Type} {text : α → String} {mark : Char}

end

namespace ConflictValue

def text (d : Dialect) : ConflictValue → String
  | stored column => d.quote column
  | proposed column =>
    match d with
    | .postgres | .sqlite => "EXCLUDED." ++ d.quote column
    | .mysql => "VALUES(" ++ d.quote column ++ ")"

def read (stored proposed : StoredRow) : ConflictValue → Value
  | .stored column => stored column
  | .proposed column => proposed column

end ConflictValue

namespace ConflictAssignment

def text (d : Dialect) (a : ConflictAssignment) : String := d.quote a.column ++ " = " ++ a.value.text d

/-- All values are read before a column is set. Of several values for a column the last one counts. -/
def atOnce (assignments : List ConflictAssignment) (stored proposed : StoredRow) : StoredRow := fun column =>
  match assignments.reverse.find? (·.column = column) with
  | some a => a.value.read stored proposed
  | none => stored column

/-- A value sees the columns that are set before it. -/
def inTurn (assignments : List ConflictAssignment) (stored proposed : StoredRow) : StoredRow :=
  assignments.foldl (fun row a => Function.update row a.column (a.value.read row proposed)) stored

end ConflictAssignment

namespace ConflictClause

def targetText (d : Dialect) (target : List String) : String :=
  " ON CONFLICT (" ++ String.intercalate ", " (target.map d.quote) ++ ")"

def text (d : Dialect) : ConflictClause → String
  | keep target => targetText d target ++ " DO NOTHING"
  | update target assignments => targetText d target ++ " DO UPDATE SET " ++
      String.intercalate ", " (assignments.map (·.text d))
  | duplicate assignments => " ON DUPLICATE KEY UPDATE " ++
      String.intercalate ", " (assignments.map (·.text d))

/-- The columns whose conflict a clause resolves, if it names them. -/
def target? : ConflictClause → Option (List String)
  | keep target | update target _ => some target
  | duplicate _ => none

/-- The stored row after the conflict. MySQL lets an assignment see the ones before it. -/
def applied (stored proposed : StoredRow) : ConflictClause → StoredRow
  | keep _ => stored
  | update _ assignments => ConflictAssignment.atOnce assignments stored proposed
  | duplicate assignments => ConflictAssignment.inTurn assignments stored proposed

end ConflictClause

/-! ## One reading -/

section
variable {d : Dialect} {x y : List Char}

namespace ConflictClause

end ConflictClause

end

/-! ## Proposed values -/

namespace ConflictAssignment

end ConflictAssignment

end ParamSql
