import ParamSql.Proofs.Quoted.Queries
import ParamSql.Proofs.Template

/-! One builder in two dialects. Whatever the dialects are, the writers bind the same values, keep the
same mismatch and refuse alike; and dialects that quote alike write the same text, up to the LIMIT of
a query that has only an OFFSET. -/
namespace ParamSql

/-! ## Identifiers -/

section
variable {d e : Dialect}

theorem Dialect.quoteChars_congr (marks : d.quoteMark = e.quoteMark) : e.quoteChars = d.quoteChars := by
  funext name
  rw [quoteChars,quoteChars,marks]

theorem Dialect.quote_congr (marks : d.quoteMark = e.quoteMark) : e.quote = d.quote := by
  funext name
  rw [quote,quote,quoteChars_congr marks]

namespace Identifier

theorem dotted_congr (marks : d.quoteMark = e.quoteMark) : dotted e = dotted d := by
  funext name
  rw [dotted,dotted,Dialect.quoteChars_congr marks]

theorem columnChars_congr (marks : d.quoteMark = e.quoteMark) : columnChars e = columnChars d := by
  funext written
  simp only [columnChars,dotted_congr marks]

theorem column_congr (marks : d.quoteMark = e.quoteMark) : column e = column d := by
  funext written
  rw [column,column,columnChars_congr marks]

theorem table_congr (marks : d.quoteMark = e.quoteMark) : table e = table d := by
  funext written
  simp only [table,tableChars,aliasedTable,dotted_congr marks,Dialect.quoteChars_congr marks]

theorem orderItem?_congr (marks : d.quoteMark = e.quoteMark) : orderItem? e = orderItem? d := by
  funext written
  simp only [orderItem?,orderChars?,columnChars_congr marks]

end Identifier
end

/-! ## Writers of text alone -/

/-- The text that bounds a query which has an OFFSET and no LIMIT. -/
def Dialect.unboundedText (d : Dialect) : String := d.unboundedLimit.elim "" (" LIMIT " ++ ·)

namespace Select

def orderingText (d : Dialect) (entries : List String) : String :=
  let items := entries.filterMap (Identifier.orderItem? d)
  if items.isEmpty then "" else " ORDER BY " ++ String.intercalate ", " items

/-- LIMIT and OFFSET; `unbounded` stands for the LIMIT where only an OFFSET is given. -/
def limitText (unbounded : String) : (limit offset : Option UInt64) → String
  | some n, some m => " LIMIT " ++ n.toNat.repr ++ " OFFSET " ++ m.toNat.repr
  | some n, none => " LIMIT " ++ n.toNat.repr
  | none, some m => unbounded ++ " OFFSET " ++ m.toNat.repr
  | none, none => ""

theorem writeOrdering_eq (d : Dialect) (entries : List String) (out : Fragment) :
    writeOrdering d entries out = out.text (orderingText d entries) := by
  simp only [writeOrdering,orderingText]
  split
  · rw [Fragment.text_empty]
  · rw [Fragment.text_text]

theorem writeLimit_eq (d : Dialect) (limit offset : Option UInt64) (out : Fragment) :
    writeLimit d limit offset out = out.text (limitText d.unboundedText limit offset) := by
  cases limit with
  | some n =>
    cases offset with
    | some m =>
      show (out.text (" LIMIT " ++ n.toNat.repr)).text (" OFFSET " ++ m.toNat.repr) = _
      rw [Fragment.text_text,limitText,← String.append_assoc]
    | none => rfl
  | none =>
    cases offset with
    | none => exact out.text_empty.symm
    | some m =>
      cases d with
      | postgres => exact congrArg out.text (String.empty_append).symm
      | sqlite | mysql =>
        show ((out.text " LIMIT ").text _).text (" OFFSET " ++ m.toNat.repr) = _
        rw [Fragment.text_text,Fragment.text_text]
        rfl

end Select

namespace Upsert

theorem conflictText_congr {d e : Dialect} (marks : d.quoteMark = e.quoteMark) (q : Upsert) :
    q.conflictText e = q.conflictText d := by
  unfold conflictText proposals
  rw [Dialect.quote_congr marks]
  cases d <;> cases e <;> first | exact absurd marks (by decide) | rfl

end Upsert

/-! ## Steps -/

namespace Fragment

/-- Fragments with the same slots and mismatch; if `same` holds they are equal. -/
structure Alike (same : Prop) (f g : Fragment) : Prop where
  args : g.args = f.args
  mismatch : g.mismatch = f.mismatch
  equal : same → g = f

namespace Alike

variable {same : Prop} {d e : Dialect} {f g : Fragment} {first : Bool}

theorem refl (f : Fragment) : Alike same f f := ⟨rfl,rfl,fun _ => rfl⟩

theorem text {s t : String} (h : Alike same f g) (alike : same → t = s) :
    Alike same (f.text s) (g.text t) := by
  refine ⟨?_,h.mismatch,fun holds => ?_⟩
  · rw [args_text,args_text,h.args]
  · rw [h.equal holds,alike holds]

theorem keyword (h : Alike same f g) (s : String) : Alike same (f.text s) (g.text s) :=
  h.text fun _ => rfl

theorem append (h : Alike same f g) (more : Fragment) :
    Alike same (f.append more) (g.append more) := by
  refine ⟨?_,?_,fun holds => ?_⟩
  · rw [args_append,args_append,h.args]
  · rw [Fragment.append,Fragment.append,h.mismatch]
  · rw [h.equal holds]

/-- A writer that does not look at what it continues, and writes the same in every dialect. -/
theorem behind {w : Fragment → Fragment} (h : Alike same f g)
    (continues : ∀ f, w f = f.append (w .empty)) : Alike same (w f) (w g) := by
  rw [continues f,continues g]
  exact h.append (w .empty)

theorem bind (h : Alike same f g) (v : Value) : Alike same (f.bind v) (g.bind v) :=
  h.behind (w := (Fragment.bind · v)) fun f => by simp

theorem bindList (h : Alike same f g) (values : List Value) :
    Alike same (f.bindList values) (g.bindList values) :=
  h.behind (w := (Fragment.bindList · values)) fun f => f.bindList_append values

theorem fill (h : Alike same f g) (sql : String) (args : List Value) :
    Alike same (f.fill sql args) (g.fill sql args) :=
  h.behind (w := (Fragment.fill · sql args)) fun f => by simp

theorem textUnless (h : Alike same f g) (bare : Bool) (s : String) :
    Alike same (if bare then f else f.text s) (if bare then g else g.text s) := by
  cases bare with
  | true => exact h
  | false => exact h.keyword s

section
variable (marks : same → d.quoteMark = e.quoteMark)
include marks

theorem ident (h : Alike same f g) (name : String) :
    Alike same (f.ident d name) (g.ident e name) :=
  h.text fun holds => by rw [Dialect.quote_congr (marks holds)]

theorem idents (h : Alike same f g) (names : List String) :
    Alike same (f.idents d names) (g.idents e names) :=
  h.text fun holds => by rw [Dialect.quote_congr (marks holds)]

theorem column (h : Alike same f g) (column : String) :
    Alike same (f.text (Identifier.column d column)) (g.text (Identifier.column e column)) :=
  h.text fun holds => by rw [Identifier.column_congr (marks holds)]

theorem columns (h : Alike same f g) (columns : List String) :
    Alike same (f.text (String.intercalate ", " (columns.map (Identifier.column d))))
      (g.text (String.intercalate ", " (columns.map (Identifier.column e)))) :=
  h.text fun holds => by rw [Identifier.column_congr (marks holds)]

theorem table (h : Alike same f g) (table : String) :
    Alike same (f.text (Identifier.table d table)) (g.text (Identifier.table e table)) :=
  h.text fun holds => by rw [Identifier.table_congr (marks holds)]

end

/-! ## Clauses -/

mutual
theorem expr (marks : same → d.quoteMark = e.quoteMark) : ∀ (x : Expr) {f g : Fragment},
    Alike same f g → Alike same (x.writeTo d f) (x.writeTo e g)
  | .and members, f, g, h | .or members, f, g, h => by
    rw [Expr.writeTo,Expr.writeTo]
    exact joined marks members h
  | .not inner, f, g, h => by
    rw [Expr.writeTo,Expr.writeTo]
    split
    · exact h
    · exact (expr marks inner (h.keyword "NOT (")).keyword ")"
  | .compare column op v, f, g, h =>
    ((((h.column marks column).keyword " ").keyword op).keyword " ").bind v
  | .nullCheck column isNull, f, g, h => (h.column marks column).keyword _
  | .inList column values negated, f, g, h => by
    rw [Expr.writeTo,Expr.writeTo]
    split
    · exact h.keyword _
    · exact (((h.column marks column).keyword _).bindList values).keyword ")"
  | .between column low high negated, f, g, h =>
    ((((h.column marks column).keyword _).bind low).keyword " AND ").bind high
  | .template sql args, f, g, h => h.fill sql args
  | .raw sql, f, g, h => h.keyword sql
  | .always, f, g, h | .never, f, g, h => h.keyword _

theorem joined (marks : same → d.quoteMark = e.quoteMark) : ∀ (xs : List Expr) {word : String}
    {wrap first : Bool} {f g : Fragment}, Alike same f g →
    Alike same (Expr.writeJoined d word wrap first xs f) (Expr.writeJoined e word wrap first xs g)
  | [], word, wrap, first, f, g, h => h
  | x :: xs, word, wrap, first, f, g, h => by
    rw [Expr.writeJoined,Expr.writeJoined]
    split
    · exact joined marks xs h
    · refine joined marks xs ?_
      have separated := h.textUnless first word
      split
      · exact (expr marks x (separated.keyword "(")).keyword ")"
      · exact expr marks x separated
end

theorem exprs (h : Alike same f g) (xs : List (String × List Value)) :
    Alike same (Select.writeExprs first xs f) (Select.writeExprs first xs g) := by
  induction xs generalizing first f g with
  | nil => exact h
  | cons x xs ih => exact ih ((h.textUnless first ", ").fill x.1 x.2)

section
variable (marks : same → d.quoteMark = e.quoteMark)
include marks

theorem condition (h : Alike same f g) (c : Condition) :
    Alike same (c.writeTo d f) (c.writeTo e g) := by
  rw [← c.writeTo_toExpr,← c.writeTo_toExpr]
  exact expr marks c.toExpr h

theorem clause (h : Alike same f g) (keyword : String) (q : ConditionGroup) :
    Alike same (q.writeClause keyword d f) (q.writeClause keyword e g) := by
  rw [ConditionGroup.writeClause,ConditionGroup.writeClause]
  split
  · exact h
  · rw [← q.writeTo_toExpr,← q.writeTo_toExpr]
    exact expr marks q.toExpr (h.keyword keyword)

theorem join (h : Alike same f g) (j : Join) :
    Alike same (j.writeTo d f) (j.writeTo e g) := by
  obtain ⟨kind,table,on⟩ := j
  have headed := (h.keyword kind.keyword).table marks table
  cases on with
  | none => exact headed
  | some c =>
    simp only [Join.writeTo]
    split
    · exact headed
    · exact (headed.keyword " ON ").condition marks c

theorem joins (h : Alike same f g) (js : List Join) :
    Alike same (Select.writeJoins d js f) (Select.writeJoins e js g) := by
  induction js generalizing f g with
  | nil => exact h
  | cons j js ih => exact ih (h.join marks j)

theorem list (h : Alike same f g) (columns : List String) (xs : List (String × List Value)) :
    Alike same (Select.writeList d columns xs f) (Select.writeList e columns xs g) := by
  rw [Select.writeList,Select.writeList]
  split
  · exact h.keyword "*"
  · exact (h.columns marks columns).exprs xs

theorem grouping (h : Alike same f g) (columns : List String) :
    Alike same (Select.writeGrouping d columns f) (Select.writeGrouping e columns g) := by
  rw [Select.writeGrouping,Select.writeGrouping]
  split
  · exact h
  · exact (h.keyword " GROUP BY ").columns marks columns

theorem conditions (h : Alike same f g) (js : List Join) (conditions : ConditionGroup)
    (columns : List String) (groupConditions : ConditionGroup) :
    Alike same (Select.writeConditions d js conditions columns groupConditions f)
      (Select.writeConditions e js conditions columns groupConditions g) := by
  have filtered := (h.joins marks js).clause marks " WHERE " conditions
  exact (filtered.grouping marks columns).clause marks " HAVING " groupConditions

theorem ordering (h : Alike same f g) (entries : List String) :
    Alike same (Select.writeOrdering d entries f) (Select.writeOrdering e entries g) := by
  rw [Select.writeOrdering_eq,Select.writeOrdering_eq]
  exact h.text fun holds => by rw [Select.orderingText,Identifier.orderItem?_congr (marks holds),
    Select.orderingText]

theorem cteHead (h : Alike same f g) (name : String) (columns : List String) :
    Alike same (Select.writeCteHead d name columns f) (Select.writeCteHead e name columns g) := by
  have headed := h.ident marks name
  simp only [Select.writeCteHead]
  split
  · exact headed.keyword " AS ("
  · exact (((headed.keyword " (").idents marks columns).keyword ")").keyword " AS ("

end

end Alike
end Fragment

end ParamSql
