import ParamSql.Proofs.Fragment
import ParamSql.Upsert

/-! What stands behind the INSERT of a statement that resolves conflicts is one text. The writer of it
fails only without a target, and there the builder has refused before. -/
namespace ParamSql.Upsert

/-- What a conflict does, as text. -/
def conflictText (d : Dialect) (q : Upsert) : String :=
  let proposed := proposals d q.overwritten
  match d with
  | .postgres | .sqlite =>
    " ON CONFLICT (" ++ String.intercalate ", " (q.target.map d.quote) ++ ")" ++
      if q.overwritten.isEmpty then " DO NOTHING" else " DO UPDATE SET " ++ proposed
  | .mysql =>
    let kept := q.target.head?.elim "" fun key => d.quote key ++ " = " ++ d.quote key
    " ON DUPLICATE KEY UPDATE " ++ if q.overwritten.isEmpty then kept else proposed

theorem writeConflict?_eq (d : Dialect) {q : Upsert} (targeted : q.target ≠ []) (out : Fragment) :
    q.writeConflict? d out = some (out.text (q.conflictText d)) := by
  obtain ⟨key,rest,target⟩ := List.exists_cons_of_ne_nil targeted
  unfold writeConflict? conflictText
  cases d with
  | postgres | sqlite =>
    dsimp only [Fragment.idents]
    split <;> simp only [Fragment.text_text,← String.append_assoc]
  | mysql =>
    dsimp only [Fragment.ident]
    split
    · rw [target]
      simp only [List.getElem?_cons_zero,Option.map_some,List.head?_cons,Option.elim_some,
        Fragment.text_text,← String.append_assoc]
    · rw [Fragment.text_text]

theorem refusal?_eq_none_iff (q : Upsert) : q.refusal? = none ↔ q.target ≠ [] := by
  rw [refusal?]
  cases q.target <;> simp

theorem build?_eq_build (q : Upsert) (d : Dialect) : q.build? d = some (q.build d) :=
  (Option.some_get _).symm

/-- The statement is the INSERT with the text behind it, unless the builder refuses it. -/
theorem build_eq (q : Upsert) (d : Dialect) :
    q.build d = ((q.insert.writeTo d .empty).text (q.conflictText d)).buildReturning d q.refusal?
      q.insert.returning := by
  refine Option.some_inj.mp ((q.build?_eq_build d).symm.trans ?_)
  rw [build?]
  cases refused : q.refusal? with
  | some misuse => rfl
  | none =>
    rw [writeConflict?_eq d ((refusal?_eq_none_iff q).mp refused)]
    rfl

end ParamSql.Upsert
