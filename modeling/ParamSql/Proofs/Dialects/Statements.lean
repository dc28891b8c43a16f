import ParamSql.Proofs.Dialects
import ParamSql.Query

/-! Whole statements in two dialects. Both are refused for the same reason or both are written, and
alike; the list of returned columns matters only where a dialect cannot return any. -/
namespace ParamSql

/-- Both dialects refuse for the same reason, or both write, and the fragments are alike. -/
inductive WrittenAlike (same : Prop) : Except Error Fragment → Except Error Fragment → Prop
  | refused (x : Error) : WrittenAlike same (.error x) (.error x)
  | written {f g : Fragment} (h : f.Alike same g) : WrittenAlike same (.ok f) (.ok g)

/-- Both dialects refuse for the same reason, or both build what they have written. -/
inductive BuiltAlike (same : Prop) (d e : Dialect) :
    Except Error Statement → Except Error Statement → Prop
  | refused (x : Error) : BuiltAlike same d e (.error x) (.error x)
  | written {f g : Fragment} (h : f.Alike same g) : BuiltAlike same d e (f.build d) (g.build e)

variable {same : Prop} {d e : Dialect} {f g : Fragment} {first : Bool}

theorem WrittenAlike.andThen {x y : Except Error Fragment}
    {next next' : Fragment → Except Error Fragment} (h : WrittenAlike same x y)
    (rest : ∀ {f g : Fragment}, f.Alike same g → WrittenAlike same (next f) (next' g)) :
    WrittenAlike same (x >>= next) (y >>= next') := by
  cases h with
  | refused x => exact .refused x
  | written alike => exact rest alike

theorem WrittenAlike.built {x y : Except Error Fragment} (h : WrittenAlike same x y) :
    BuiltAlike same d e (x >>= fun out => out.build d) (y >>= fun out => out.build e) := by
  cases h with
  | refused x => exact .refused x
  | written alike => exact .written alike

theorem BuiltAlike.unless {p : Prop} [Decidable p] {x y : Except Error Statement} (z : Error)
    (h : BuiltAlike same d e x y) :
    BuiltAlike same d e (if p then .error z else x) (if p then .error z else y) := by
  split
  · exact .refused z
  · exact h

/-! ## SELECT -/

theorem Fragment.Alike.limit (bounds : same → d.unboundedLimit = e.unboundedLimit)
    (h : f.Alike same g) (limit offset : Option UInt64) :
    (Select.writeLimit d limit offset f).Alike same (Select.writeLimit e limit offset g) := by
  rw [Select.writeLimit_eq,Select.writeLimit_eq]
  exact h.text fun holds => by rw [Dialect.unboundedText,← bounds holds,Dialect.unboundedText]

namespace WrittenAlike

mutual
theorem select (marks : same → d.quoteMark = e.quoteMark)
    (bounds : same → d.unboundedLimit = e.unboundedLimit) : ∀ (q : Select) {f g : Fragment},
    f.Alike same g → WrittenAlike same (q.writeTo d f) (q.writeTo e g)
  | ⟨ctes,columns,exprs,isDistinct,source,joins,conditions,grouping,groupConditions,ordering,limit,
      offset,combined,misuse⟩, f, g, h => by
    cases misuse with
    | some misuse => rw [Select.writeTo,Select.writeTo]; exact .refused _
    | none =>
      rw [Select.writeTo,Select.writeTo]
      refine (selectCtes marks bounds ctes (h.keyword _)).andThen fun h => ?_
      have opened := (h.textUnless ctes.isEmpty " ").textUnless combined.isEmpty "("
      have started := opened.keyword (if isDistinct then "SELECT DISTINCT " else "SELECT ")
      refine (selectSource marks bounds source (started.list marks columns exprs)).andThen fun h => ?_
      have filtered := h.conditions marks joins conditions grouping groupConditions
      have limited := (filtered.ordering marks ordering).limit bounds limit offset
      exact selectCombined marks bounds combined (limited.textUnless combined.isEmpty ")")

theorem selectCtes (marks : same → d.quoteMark = e.quoteMark)
    (bounds : same → d.unboundedLimit = e.unboundedLimit) : ∀ (ctes : List (Cte Select))
    {first : Bool} {f g : Fragment}, f.Alike same g →
    WrittenAlike same (Select.writeCtes d first ctes f) (Select.writeCtes e first ctes g)
  | [], first, f, g, h => by
    rw [Select.writeCtes,Select.writeCtes]
    exact .written h
  | ⟨name,columns,query,_⟩ :: ctes, first, f, g, h => by
    rw [Select.writeCtes,Select.writeCtes]
    have headed := (h.textUnless first ", ").cteHead marks name columns
    exact (select marks bounds query headed).andThen fun h =>
      selectCtes marks bounds ctes (h.keyword ")")

theorem selectSource (marks : same → d.quoteMark = e.quoteMark)
    (bounds : same → d.unboundedLimit = e.unboundedLimit) : ∀ (source : Option (Source Select))
    {f g : Fragment}, f.Alike same g →
    WrittenAlike same (Select.writeSource d source f) (Select.writeSource e source g)
  | none, f, g, h => by
    rw [Select.writeSource,Select.writeSource]
    exact .written h
  | some (.table name), f, g, h => by
    rw [Select.writeSource,Select.writeSource]
    exact .written ((h.keyword " FROM ").table marks name)
  | some (.subquery query label), f, g, h => by
    rw [Select.writeSource,Select.writeSource]
    exact (select marks bounds query (h.keyword " FROM (")).andThen fun h =>
      .written ((h.keyword ") AS ").ident marks label)

theorem selectCombined (marks : same → d.quoteMark = e.quoteMark)
    (bounds : same → d.unboundedLimit = e.unboundedLimit) : ∀ (combined : List (SetOp × Select))
    {f g : Fragment}, f.Alike same g →
    WrittenAlike same (Select.writeCombined d combined f) (Select.writeCombined e combined g)
  | [], f, g, h => by
    rw [Select.writeCombined,Select.writeCombined]
    exact .written h
  | (op,query) :: rest, f, g, h => by
    rw [Select.writeCombined,Select.writeCombined]
    exact (select marks bounds query ((h.keyword op.keyword).keyword "(")).andThen fun h =>
      selectCombined marks bounds rest (h.keyword ")")
end

end WrittenAlike

/-! ## Rows -/

namespace Fragment.Alike

theorem assignment (h : f.Alike same g) (a : Assignment) :
    (a.writeTo f).Alike same (a.writeTo g) :=
  h.behind a.writeTo_append

theorem insertAssignments (h : f.Alike same g) (entries : List (String × Assignment)) :
    (Insert.writeAssignments first entries f).Alike same (Insert.writeAssignments first entries g) := by
  induction entries generalizing first f g with
  | nil => exact h
  | cons entry entries ih => exact ih ((h.textUnless first ", ").assignment entry.2)

theorem rows (h : f.Alike same g) (rows : List (List Value)) :
    (BatchInsert.writeRows first rows f).Alike same (BatchInsert.writeRows first rows g) := by
  induction rows generalizing first f g with
  | nil => exact h
  | cons row rows ih => exact ih ((((h.textUnless first ", ").keyword "(").bindList row).keyword ")")

section
variable (marks : same → d.quoteMark = e.quoteMark)
include marks

theorem insert (h : f.Alike same g) (q : Insert) : (q.writeTo d f).Alike same (q.writeTo e g) := by
  have headed := (h.keyword "INSERT INTO ").table marks q.table
  unfold Insert.writeTo
  dsimp only
  split
  · refine headed.text fun holds => ?_
    have alike := marks holds
    cases d <;> cases e <;> first | exact absurd alike (by decide) | rfl
  · have columns := ((headed.keyword " (").idents marks q.columns).keyword ") VALUES ("
    exact (columns.insertAssignments q.fields.entries).keyword ")"

theorem updateAssignments (h : f.Alike same g) (entries : List (String × Assignment)) :
    (Update.writeAssignments d first entries f).Alike same
      (Update.writeAssignments e first entries g) := by
  induction entries generalizing first f g with
  | nil => exact h
  | cons entry entries ih =>
    have target := ((h.textUnless first ", ").ident marks entry.1).keyword " = "
    exact ih (target.assignment entry.2)

theorem update (h : f.Alike same g) (q : Update) : (q.writeTo d f).Alike same (q.writeTo e g) := by
  have headed := ((h.keyword "UPDATE ").table marks q.table).keyword " SET "
  exact (headed.updateAssignments marks q.fields.entries).clause marks " WHERE " q.conditions

theorem delete (h : f.Alike same g) (q : Delete) : (q.writeTo d f).Alike same (q.writeTo e g) :=
  ((h.keyword "DELETE FROM ").table marks q.table).clause marks " WHERE " q.conditions

theorem upsert (h : f.Alike same g) (q : Upsert) :
    ((q.insert.writeTo d f).text (q.conflictText d)).Alike same
      ((q.insert.writeTo e g).text (q.conflictText e)) :=
  (h.insert marks q.insert).text fun holds => q.conflictText_congr (marks holds)

theorem batchInsert (h : f.Alike same g) (q : BatchInsert) :
    (q.writeTo d f).Alike same (q.writeTo e g) := by
  have headed := ((h.keyword "INSERT INTO ").table marks q.table).keyword " ("
  exact ((headed.idents marks q.columns.keys).keyword ") VALUES ").rows q.rows

theorem caseColumns (h : f.Alike same g) (q : BatchUpdate) (first : Bool) (columns : List String) :
    (BatchUpdate.writeColumns d q first columns f).Alike same
      (BatchUpdate.writeColumns e q first columns g) := by
  induction columns generalizing first f g with
  | nil => exact h
  | cons column columns ih =>
    have target := ((h.textUnless first ", ").ident marks column).keyword " = CASE "
    have arms := (target.ident marks q.key).behind (Trails.arms column q.rows).append
    exact ih (((arms.keyword " ELSE ").ident marks column).keyword " END") false

theorem batchUpdate (h : f.Alike same g) (q : BatchUpdate) :
    (q.writeTo d f).Alike same (q.writeTo e g) := by
  have headed := ((h.keyword "UPDATE ").table marks q.table).keyword " SET "
  have assigned := headed.caseColumns marks q true q.columns
  have keyed := ((assigned.keyword " WHERE ").ident marks q.key).keyword " IN ("
  exact (keyed.bindList (q.rows.map (·.1))).keyword ")"

theorem returning (h : f.Alike same g) {columns : List String}
    (supported : columns = [] ∨ d.hasReturning ∧ e.hasReturning) :
    WrittenAlike same (f.returning d columns) (g.returning e columns) := by
  rw [Fragment.returning,Fragment.returning]
  rcases supported with rfl | ⟨left,right⟩
  · exact .written h
  · rw [left,right]
    split
    · exact .written h
    · exact .written ((h.keyword " RETURNING ").columns marks columns)

theorem buildReturning (h : f.Alike same g) {columns : List String}
    (supported : columns = [] ∨ d.hasReturning ∧ e.hasReturning) (refusal? : Option Misuse) :
    BuiltAlike same d e (f.buildReturning d refusal? columns) (g.buildReturning e refusal? columns) := by
  cases refusal? with
  | some misuse => exact .refused _
  | none => exact (h.returning marks supported).built

end
end Fragment.Alike

/-! ## Statements -/

/-- The columns that a statement is to return. -/
def Query.returning : Query → List String
  | insert q => q.returning
  | update q => q.returning
  | delete q => q.returning
  | upsert q => q.insert.returning
  | batchInsert q => q.returning
  | select _ | batchUpdate _ | named _ | fragment _ => []

namespace BuiltAlike

theorem select (marks : same → d.quoteMark = e.quoteMark)
    (bounds : same → d.unboundedLimit = e.unboundedLimit) (q : Select) :
    BuiltAlike same d e (q.build d) (q.build e) :=
  (WrittenAlike.select marks bounds q (.refl .empty)).built

theorem query (marks : same → d.quoteMark = e.quoteMark) (q : Query)
    (bounds : same → (∃ r, q = .select r) → d.unboundedLimit = e.unboundedLimit)
    (supported : q.returning = [] ∨ d.hasReturning ∧ e.hasReturning) :
    BuiltAlike same d e (q.build d) (q.build e) := by
  have start : Fragment.empty.Alike same .empty := .refl .empty
  cases q with
  | select q => exact select marks (fun holds => bounds holds ⟨q,rfl⟩) q
  | insert q => exact (start.insert marks q).buildReturning marks supported none
  | update q => exact (start.update marks q).buildReturning marks supported q.refusal?
  | delete q => exact (start.delete marks q).buildReturning marks supported q.refusal?
  | upsert q =>
    simp only [Query.build,Upsert.build_eq]
    exact (start.upsert marks q).buildReturning marks supported q.refusal?
  | batchInsert q => exact (start.batchInsert marks q).buildReturning marks supported q.refusal?
  | batchUpdate q => exact .unless _ (.unless _ (.written (start.batchUpdate marks q)))
  | named q =>
    simp only [Query.build,NamedSql.build]
    cases NamedSql.writeTokens q.params q.tokens .empty with
    | error x => exact .refused x
    | ok out => exact .written (.refl out)
  | fragment out => exact .written (.refl out)

end BuiltAlike

end ParamSql
