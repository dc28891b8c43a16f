import ParamSql.Proofs.Rendering
import ParamSql.Returning

/-! Statements that return columns. Such a statement is built exactly if its builder does not refuse it,
the dialect can return what is listed, and no template is at fault; and what is listed adds one text. -/
namespace ParamSql

def returningText (d : Dialect) (columns : List String) : String :=
  if columns.isEmpty then ""
  else " RETURNING " ++ String.intercalate ", " (columns.map (Identifier.column d))

namespace Fragment

variable {f : Fragment} {d : Dialect} {refusal? : Option Misuse} {columns : List String}
  {s : Statement}

theorem returning_eq (f : Fragment) (d : Dialect) (columns : List String) : f.returning d columns =
    if columns = [] ∨ d.hasReturning then .ok (f.text (returningText d columns))
    else .error (.unsupported "RETURNING" d) := by
  rw [returning,returningText]
  cases columns with
  | nil => simp [text_empty]
  | cons column columns => cases d.hasReturning <;> simp [text_text]

theorem buildReturning_none (f : Fragment) (d : Dialect) (columns : List String) :
    f.buildReturning d none columns =
      if columns = [] ∨ d.hasReturning then (f.text (returningText d columns)).build d
      else .error (.unsupported "RETURNING" d) := by
  rw [buildReturning,returning_eq]
  split <;> rfl

/-- What is built was not refused. -/
theorem buildReturning_eq_ok (built : f.buildReturning d refusal? columns = .ok s) :
    refusal? = none ∧ (f.returning d columns >>= (·.build d)) = .ok s := by
  cases refusal? with
  | some misuse => cases built
  | none => exact ⟨rfl,built⟩

theorem buildReturning_ok_iff : (∃ s, f.buildReturning d refusal? columns = .ok s) ↔
    refusal? = none ∧ (columns = [] ∨ d.hasReturning) ∧ f.mismatch = none := by
  cases refusal? with
  | some misuse => simp [buildReturning]
  | none =>
    rw [buildReturning_none]
    split
    next supported => cases clean : f.mismatch <;> simp [build,text,clean,supported]
    next unsupported => simp [unsupported]

theorem eq_of_buildReturning (built : f.buildReturning d refusal? columns = .ok s) :
    s = ⟨f.render d ++ returningText d columns,f.args,f.tag,none⟩ := by
  obtain ⟨rfl,-⟩ := buildReturning_eq_ok built
  rw [buildReturning_none] at built
  split at built
  next => rw [eq_of_build built,render_text,args_text,text]
  next => cases built

end Fragment

end ParamSql
