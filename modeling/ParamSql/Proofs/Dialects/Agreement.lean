import ParamSql.Proofs.Counting
import ParamSql.Proofs.Dialects.Statements
import ParamSql.Proofs.Sound

/-! What the dialects have in common. All refuse alike and bind the same arguments, but for RETURNING
where it is missing. The texts of the two dialects with double quotes differ in the form of
placeholders and in the LIMIT before an OFFSET that stands alone, at every depth. -/
namespace ParamSql

/-! ## The symbols of a query -/

namespace Select
open ParamSql.Symbol

mutual
/-- What a query writes between double quotes. `unbounded` stands wherever a query in it has an OFFSET
and no LIMIT. -/
def symbols (unbounded : String) : Select → List Symbol
  | ⟨ctes,columns,exprs,isDistinct,source,joins,conditions,grouping,groupConditions,ordering,limit,
      offset,combined,_⟩ =>
    ofText (withKeywords ctes) ++ symbolsOfCtes unbounded true ctes ++
      (if ctes.isEmpty then [] else ofText " ") ++ (if combined.isEmpty then [] else ofText "(") ++
      ofText (if isDistinct then "SELECT DISTINCT " else "SELECT ") ++
      (writeList .postgres columns exprs .empty).word ++ symbolsOfSource unbounded source ++
      (writeConditions .postgres joins conditions grouping groupConditions .empty).word ++
      ofText (orderingText .postgres ordering) ++ ofText (limitText unbounded limit offset) ++
      (if combined.isEmpty then [] else ofText ")") ++ symbolsOfCombined unbounded combined

def symbolsOfCtes (unbounded : String) : (first : Bool) → List (Cte Select) → List Symbol
  | _, [] => []
  | first, ⟨name,columns,query,_⟩ :: ctes =>
    (if first then [] else ofText ", ") ++ (writeCteHead .postgres name columns .empty).word ++
      symbols unbounded query ++ ofText ")" ++ symbolsOfCtes unbounded false ctes

def symbolsOfSource (unbounded : String) : Option (Source Select) → List Symbol
  | none => []
  | some (.table name) => ofText " FROM " ++ ofText (Identifier.table .postgres name)
  | some (.subquery query label) =>
    ofText " FROM (" ++ symbols unbounded query ++ ofText ") AS " ++
      ofText (Dialect.postgres.quote label)

def symbolsOfCombined (unbounded : String) : List (SetOp × Select) → List Symbol
  | [] => []
  | (op,query) :: rest =>
    ofText op.keyword ++ ofText "(" ++ symbols unbounded query ++ ofText ")" ++
      symbolsOfCombined unbounded rest
end

end Select

@[simp] theorem Outline.word_text (d : Dialect) (s : String) :
    Outline.word d (.text s) = Symbol.ofText s := word_spelled _

@[simp] theorem Outline.word_written (d : Dialect) (f : Fragment) :
    Outline.word d (.written f) = f.word := word_spelled _

namespace Select

variable {d : Dialect}

theorem word_cteHead (marks : d.quoteMark = Dialect.postgres.quoteMark) (name : String)
    (columns : List String) :
    Outline.word d (cteHead name columns) = (writeCteHead .postgres name columns .empty).word := by
  have start : Fragment.empty.Alike True .empty := .refl .empty
  have outlined := (Outlined.start (d := d)).cteHead name columns
  rw [(start.cteHead (fun _ => marks) name columns).equal trivial]
  exact outlined.word.symm

mutual
theorem word_outline (marks : d.quoteMark = Dialect.postgres.quoteMark) : ∀ q : Select,
    Outline.word d (q.outline d) = q.symbols d.unboundedText
  | ⟨ctes,columns,exprs,isDistinct,source,joins,conditions,grouping,groupConditions,ordering,limit,
      offset,combined,_⟩ => by
    have start : Fragment.empty.Alike True .empty := .refl .empty
    have listed := (start.list (fun _ => marks) columns exprs).equal trivial
    have filtered := start.conditions (fun _ => marks) joins conditions grouping groupConditions
    have ended := (filtered.ordering (fun _ => marks) ordering).equal trivial
    rw [outline,symbols,writeTail,writeLimit_eq,← ended,writeOrdering_eq,listed]
    simp only [Outline.word_append,Outline.word_text,Outline.word_written,word_outlineCtes marks true,
      word_outlineSource marks,word_outlineCombined marks,apply_ite (Outline.word d),
      Fragment.word_text,List.append_assoc]
    rfl

theorem word_outlineCtes (marks : d.quoteMark = Dialect.postgres.quoteMark) (first : Bool) :
    ∀ ctes : List (Cte Select), Outline.word d (Outline.listed first (outlineCtes d ctes)) =
      symbolsOfCtes d.unboundedText first ctes
  | [] => by rw [outlineCtes,symbolsOfCtes]; rfl
  | ⟨name,columns,query,_⟩ :: ctes => by
    rw [outlineCtes,symbolsOfCtes,Outline.listed]
    simp only [Outline.word_append,Outline.word_text,word_cteHead marks,word_outline marks query,
      word_outlineCtes marks false ctes,apply_ite (Outline.word d),List.append_assoc]
    rfl

theorem word_outlineSource (marks : d.quoteMark = Dialect.postgres.quoteMark) :
    ∀ source : Option (Source Select),
      Outline.word d (outlineSource d source) = symbolsOfSource d.unboundedText source
  | none => rfl
  | some (.table name) => by
    rw [outlineSource,symbolsOfSource,Outline.word_append,Outline.word_text,Outline.word_text,
      Identifier.table_congr marks]
  | some (.subquery query label) => by
    simp only [outlineSource,symbolsOfSource,Outline.word_append,Outline.word_text,
      word_outline marks query,Dialect.quote_congr marks,Outline.word_name]
    exact congrArg _ (List.append_nil _)

theorem word_outlineCombined (marks : d.quoteMark = Dialect.postgres.quoteMark) :
    ∀ combined : List (SetOp × Select),
      Outline.word d (outlineCombined d combined) = symbolsOfCombined d.unboundedText combined
  | [] => rfl
  | (op,query) :: rest => by
    simp only [outlineCombined,symbolsOfCombined,Outline.word_append,Outline.word_text,
      word_outline marks query,word_outlineCombined marks rest]
end

end Select

/-! ## Builds -/

namespace BuiltAlike

variable {same : Prop} {d e : Dialect} {x y : Except Error Statement}

theorem args {s t : Statement} (h : BuiltAlike same d e x y) (left : x = .ok s) (right : y = .ok t) :
    t.args = s.args := by
  cases h with
  | refused w => cases left
  | @written f g alike =>
    rw [f.eq_of_build left,g.eq_of_build right]
    exact alike.args

end BuiltAlike

namespace Query

theorem alike (q : Query) {d e : Dialect}
    (supported : q.returning = [] ∨ d.hasReturning ∧ e.hasReturning) :
    BuiltAlike False d e (q.build d) (q.build e) :=
  .query False.elim q (fun holds => holds.elim) supported

end Query

namespace Agreement

end Agreement

/-! ## Texts -/

end ParamSql
