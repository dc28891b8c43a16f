import ParamSql.Decoder
import ParamSql.KeyMap

/-! Rows of a result: named cells in order. A name may occur more than once; reading by name takes
the first cell. -/
namespace ParamSql

structure Row where
  cells : List (String × Value)
  deriving DecidableEq, Inhabited

abbrev RowReader (α : Type) := Row → Except Error α

namespace Row

def columns (r : Row) : List String := r.cells.map (·.1)

def values (r : Row) : List Value := r.cells.map (·.2)

def width (r : Row) : Nat := r.cells.length

def get? (r : Row) (column : String) : Option Value := valueAt? column r.cells

def read {α : Type} (decode : Decoder α) (column : String) : RowReader α := fun r =>
  match r.get? column with
  | none => .error (.decode column .noSuchColumn)
  | some v => (decode v).mapError (.decode column)

def readAt {α : Type} (decode : Decoder α) (index : Nat) : RowReader α := fun r =>
  match r.cells[index]? with
  | none => .error (.decode ("#" ++ index.repr) .noSuchIndex)
  | some (column,v) => (decode v).mapError (.decode column)

/-- A value that is read from the first cell. -/
def scalar {α : Type} (decode : Decoder α) : RowReader α := readAt decode 0

/-- The cells by name; of cells with one name the last counts. -/
def toMap (r : Row) : KeyMap Value := .ofList r.cells

end Row

end ParamSql
