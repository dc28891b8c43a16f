import ParamSql.Fragment
import ParamSql.Identifier

/-! The RETURNING list of INSERT, UPDATE and DELETE, and how these statements are built. -/
namespace ParamSql.Fragment

def returning (f : Fragment) (d : Dialect) (columns : List String) : Except Error Fragment :=
  if columns.isEmpty then .ok f
  else if d.hasReturning then
    .ok ((f.text " RETURNING ").text (String.intercalate ", " (columns.map (Identifier.column d))))
  else .error (.unsupported "RETURNING" d)

/-- Builds what a statement has written, with the columns that it returns, unless its builder refuses
it. -/
def buildReturning (f : Fragment) (d : Dialect) (refusal? : Option Misuse) (columns : List String) :
    Except Error Statement :=
  match refusal? with
  | some misuse => .error (.validation misuse)
  | none => do
    let out ← f.returning d columns
    out.build d

end ParamSql.Fragment
