import ParamSql.Proofs.Fragment
import ParamSql.Proofs.Lockstep.Statements
import ParamSql.Proofs.Rows
import ParamSql.Proofs.Sending

/-! What a count counts. The statement of a count is that of a SELECT of COUNT(*), which stands in place
of the select list or over the whole statement as a subquery. Main statement: the number that a
session reads from the answer is that of the rows of the statement without its order and page, unless
the statement has a HAVING but neither DISTINCT, GROUP BY nor a set operation. Then the rows of its one
group are counted. -/
namespace ParamSql

namespace Select

/-- The SELECT that a count is: COUNT(*) takes the place of the select list, or stands over the
statement as a subquery. -/
def counting (q : Select) : Select :=
  if q.countsSubquery then
    { star with
      ctes := q.ctes
      exprs := [("COUNT(*)",[])]
      source := some (.subquery q.counted "count_subquery")
      misuse := q.misuse }
  else { q with columns := [], exprs := [("COUNT(*)",[])], ordering := [], limit := none, offset := none }

theorem writeTo_counting (d : Dialect) (q : Select) (out : Fragment) :
    q.counting.writeTo d out = q.writeCount d out := by
  obtain ⟨ctes,columns,exprs,isDistinct,source,joins,conditions,grouping,groupConditions,ordering,
    limit,offset,combined,misuse⟩ := q
  rw [counting,writeCount]
  cases misuse with
  | some misuse => split <;> rw [writeTo]
  | none =>
    have headed (f : Fragment) : writeList d [] [("COUNT(*)",[])] (f.text "SELECT ") =
        f.text "SELECT COUNT(*)" := by
      rw [writeList,if_neg (by decide),writeExprs,writeExprs,List.isEmpty_nil,if_pos rfl,
        Fragment.fill_unmarked (by decide) _ (by decide)]
      simp only [List.map_nil,String.intercalate_nil,Fragment.text_text]
      rfl
    split
    next subquery =>
      have closed (f : Fragment) : writeCombined d [] (writeLimit d none none (writeOrdering d []
          (writeConditions d [] .empty [] .empty f))) = pure f := by
        rw [writeCombined]
        rfl
      rw [star,writeTo]
      simp only [List.isEmpty_nil,if_true,Bool.false_eq_true,if_false,writeSource,headed,closed,
        Fragment.text_text,bind_pure]
      rfl
    next plain =>
      simp only [countsSubquery,Bool.or_eq_true,Bool.not_eq_true',not_or,Bool.not_eq_true,
        Bool.not_eq_false,List.isEmpty_iff] at plain
      obtain ⟨⟨rfl,-⟩,rfl⟩ := plain
      have closed (f : Fragment) : writeCombined d [] (writeLimit d none none (writeOrdering d [] f)) =
          pure f := by
        rw [writeCombined]
        rfl
      rw [writeTo]
      simp only [List.isEmpty_nil,if_true,Bool.false_eq_true,if_false,closed,headed]

theorem build_counting (d : Dialect) (q : Select) : q.counting.build d = q.buildCount d := by
  rw [build,writeTo_counting,buildCount]

/-- The statement without its own order and page. -/
def unordered (q : Select) : Select := { q with ordering := [], limit := none, offset := none }

end Select

namespace Database

variable {ε ρ : Type} (db : Database ε ρ) (env : ε)

/-- The environment in which the clauses of a query are read. -/
def inside (q : Select) : ε := db.defined (q.ctes.any (·.isRecursive)) q.ctes env

/-- The rows that FROM, the joins and WHERE leave. -/
def found (q : Select) : List ρ :=
  db.filtered (db.inside env q) q.conditions
    (q.joins.foldl (fun rows j => db.joined (db.inside env q) j rows)
      (db.sourceRows q.source (db.inside env q)))

theorem tuples_countRows : db.tuples env [.countRows] =
    fun group => [[.int (Int64.ofNat group.length)]] := by
  funext group
  simp [tuples,db.isSetReturning_countRows,db.cells_countRows]

theorem groups_countRows (conditions : ConditionGroup) (rows : List ρ) :
    db.groups env [.countRows] [] conditions rows = db.having env conditions [rows] := by
  simp [groups,db.isAggregate_countRows]

theorem length_tuples {items : List Item} (single : ∀ item ∈ items, db.isSetReturning item = false)
    (groups : List (List ρ)) : (groups.flatMap (db.tuples env items)).length = groups.length := by
  have none : items.any db.isSetReturning = false := List.any_eq_false.mpr fun item member => by
    simp [single item member]
  simp [List.length_flatMap,tuples,none]

theorem groups_plain {items : List Item} (plain : ∀ item ∈ items, db.isAggregate item = false)
    (conditions : ConditionGroup) (rows : List ρ) : db.groups env items [] conditions rows =
      if conditions.isEmpty then rows.map ([·]) else db.having env conditions [rows] := by
  have none : items.any db.isAggregate = false := List.any_eq_false.mpr fun item member => by
    simp [plain item member]
  cases empty : conditions.isEmpty <;> simp [groups,none,empty]

theorem selected_unordered (items : List Item) (groups : List (List ρ)) :
    db.selected env items false [] groups = groups.flatMap (db.tuples env items) := by
  simp [selected,List.map_flatMap,Function.comp_def]

theorem page_whole (rows : Bag) : page none none rows = rows := rfl

theorem rows_counted (q : Select) : db.rows q.counted (db.inside env q) = db.rows q.unordered env := by
  obtain ⟨ctes,columns,exprs,isDistinct,source,joins,conditions,grouping,groupConditions,ordering,
    limit,offset,combined,misuse⟩ := q
  rw [Select.unordered,Select.counted,rows,rows,List.any_nil,defined,inside]

theorem listed_countRows : Item.listed [] [("COUNT(*)",[])] = [.countRows] := rfl

theorem rows_counting_subquery {q : Select} (subquery : q.countsSubquery) :
    db.rows q.counting env = [[.int (Int64.ofNat (db.rows q.unordered env).length)]] := by
  rw [Select.counting,if_pos subquery,Select.star,rows,combinedRows,combinedFrom,page_whole,
    selected_unordered,listed_countRows,groups_countRows,sourceRows,← inside,rows_counted]
  simp [having,filtered,ConditionGroup.isEmpty,ConditionGroup.empty,tuples_countRows]

theorem rows_counting_plain {q : Select} (plain : q.countsSubquery = false) :
    db.rows q.counting env = (db.having (db.inside env q) q.groupConditions [db.found env q]).map
      fun group => [.int (Int64.ofNat group.length)] := by
  obtain ⟨ctes,columns,exprs,isDistinct,source,joins,conditions,grouping,groupConditions,ordering,
    limit,offset,combined,misuse⟩ := q
  rw [Select.counting,if_neg (by simp [plain])]
  simp only [Select.countsSubquery,Bool.or_eq_false_iff,Bool.not_eq_false',List.isEmpty_iff] at plain
  obtain ⟨⟨rfl,rfl⟩,rfl⟩ := plain
  rw [rows,combinedRows,combinedFrom,page_whole,selected_unordered,listed_countRows,groups_countRows,
    found,inside,tuples_countRows]
  exact List.flatMap_pure_eq_map _ _

/-- With neither aggregates nor set-returning calls there is a row for each row that is found, or one
for all of them if there is a HAVING. -/
theorem length_rows_plain {q : Select} (plain : q.countsSubquery = false)
    (ordinary : ∀ item ∈ q.items, db.isAggregate item = false ∧ db.isSetReturning item = false) :
    (db.rows q.unordered env).length =
      if q.groupConditions.isEmpty then (db.found env q).length
      else (db.having (db.inside env q) q.groupConditions [db.found env q]).length := by
  obtain ⟨ctes,columns,exprs,isDistinct,source,joins,conditions,grouping,groupConditions,ordering,
    limit,offset,combined,misuse⟩ := q
  simp only [Select.countsSubquery,Bool.or_eq_false_iff,Bool.not_eq_false',List.isEmpty_iff] at plain
  obtain ⟨⟨rfl,rfl⟩,rfl⟩ := plain
  have plain : ∀ item ∈ Item.listed columns exprs, db.isAggregate item = false := fun item member =>
    (ordinary item member).1
  have single : ∀ item ∈ Item.listed columns exprs, db.isSetReturning item = false :=
    fun item member => (ordinary item member).2
  rw [Select.unordered,rows,combinedRows,combinedFrom,page_whole,selected_unordered,Option.elim_none,
    db.length_tuples _ single,db.groups_plain _ plain,← inside,← found]
  split <;> simp

end Database

/-! ## Counts of a session -/

namespace Session

/-- What a count reads from the rows of an answer. -/
def countOf (rows : List Row) : Except Error Int64 :=
  match rows.head? with
  | some row => Row.scalar Decoder.int row
  | none => .ok 0

theorem count_answered {s : Session} {q : Select} {statement : Statement} {x : Exchange}
    (built : q.buildCount s.dialect = .ok statement) (answered : x.next.failure = none)
    (prompt : x.next.latency = .immediate) :
    ∃ after, (s.count q).run.run x = (countOf x.next.rows,after) ∧
      after.sent = x.sent ++ [⟨.query,statement.sql,statement.args⟩] := by
  refine ⟨x.calling statement .query s.log,?_,rfl⟩
  have first : (ofExcept (.ok statement) : ExchangeM Statement) = pure statement := rfl
  rw [count,built,first,pure_bind,ExceptT.run_bind,StateT.run_bind,run_query,
    Response.outcome_prompt answered prompt]
  dsimp only [Except.map,bind]
  rw [countOf]
  cases x.next.rows.head? with
  | none => rfl
  | some row => cases decoded : Row.scalar Decoder.int row <;> simp only [decoded] <;> rfl

theorem countOf_nil : countOf [] = .ok 0 := rfl

theorem countOf_int {rows : List Row} {n : Int64} {more : Bag}
    (values : rows.map (·.values) = [.int n] :: more) : countOf rows = .ok n := by
  obtain ⟨⟨cells⟩,rest,rfl,first,-⟩ := List.map_eq_cons_iff.mp values
  obtain ⟨⟨name,v⟩,cells,rfl,rfl,-⟩ := List.map_eq_cons_iff.mp first
  rfl

/-- The answer to a count that is no subquery has a row for the one group, if the group is kept. -/
theorem countOf_plain {ε ρ : Type} (db : Database ε ρ) (env : ε) {q : Select}
    (plain : q.countsSubquery = false)
    (ordinary : ∀ item ∈ q.items, db.isAggregate item = false ∧ db.isSetReturning item = false)
    {rows : List Row} (answer : rows.map (·.values) = db.rows q.counting env) :
    countOf rows = .ok (Int64.ofNat (if q.groupConditions.isEmpty then (db.rows q.unordered env).length
      else (db.rows q.unordered env).length * (db.found env q).length)) := by
  have length := db.length_rows_plain env plain ordinary
  have counted := answer.trans (db.rows_counting_plain env plain)
  cases conditions : q.groupConditions.isEmpty with
  | true =>
    simp only [Database.having,conditions,if_true] at length counted
    rw [if_pos rfl,length]
    exact countOf_int counted
  | false =>
    simp only [Database.having,conditions,Bool.false_eq_true,if_false] at length counted
    rw [if_neg Bool.false_ne_true,length]
    -- A group that is not kept leaves an answer without rows, which counts as 0.
    cases kept : db.holdsOfGroup (db.inside env q) q.groupConditions (db.found env q) with
    | true =>
      simp only [List.filter_cons,kept,if_true,List.filter_nil,List.map_cons] at counted ⊢
      rw [List.length_singleton,Nat.one_mul]
      exact countOf_int counted
    | false =>
      simp only [List.filter_cons,kept,List.filter_nil] at counted ⊢
      rw [List.map_eq_nil_iff.mp (counted.trans (by simp))]
      simp [countOf_nil]

end Session

/-- A session counts the rows of the statement without its order and page. With a HAVING and neither
DISTINCT, GROUP BY nor a set operation it counts the rows of the one group instead, if the group is
kept. -/
theorem Session.count_eq_length {ε ρ : Type} (db : Database ε ρ) (env : ε) {s : Session} {q : Select}
    {statement : Statement} {x : Exchange} (built : q.buildCount s.dialect = .ok statement)
    (ordinary : ∀ item ∈ q.items, db.isAggregate item = false ∧ db.isSetReturning item = false)
    (answered : x.next.failure = none) (prompt : x.next.latency = .immediate)
    (rows : x.next.rows.map (·.values) = db.rows q.counting env) :
    q.counting.build s.dialect = .ok statement ∧
    ∃ after, after.sent = x.sent ++ [⟨.query,statement.sql,statement.args⟩] ∧
      (s.count q).run.run x = (.ok (Int64.ofNat (if q.countsSubquery || q.groupConditions.isEmpty then
        (db.rows q.unordered env).length
        else (db.rows q.unordered env).length * (db.found env q).length)),after) := by
  refine ⟨(q.build_counting s.dialect).trans built,?_⟩
  obtain ⟨after,ran,sent⟩ := count_answered built answered prompt
  refine ⟨after,sent,ran.trans (Prod.ext ?_ rfl)⟩
  show countOf x.next.rows = .ok (Int64.ofNat _)
  cases subquery : q.countsSubquery with
  | true => exact countOf_int (rows.trans (db.rows_counting_subquery env subquery))
  | false => exact countOf_plain db env subquery ordinary rows

/-- Three rows in every table, and conditions on a group that compare its size. -/
def Database.threeRows : Database Unit Nat where
  bare := 0
  table _ _ := [1,2,3]
  labelled _ _ _ := 0
  joined _ _ rows := rows
  define _ _ _ _ env := env
  holds _ _ _ := true
  holdsOfGroup _ conditions group := conditions.members.all fun
    | .raw "COUNT(*) > ?" [.int n] => n.toInt < group.length
    | _ => true
  groupKey _ _ _ := .null
  isAggregate item := item = .countRows
  isSetReturning _ := false
  cells _ item group := if item = .countRows then [.int (Int64.ofNat group.length)] else [.int 1]
  expanded _ _ _ := []
  alike a b := a = b
  arranged _ _ pairs := pairs
  isAggregate_countRows := rfl
  isSetReturning_countRows := rfl
  cells_countRows _ _ := rfl

theorem Session.count_eq_length_distinct :
    let q := ((Select.star.fromTable "t").addExpr "1" []).setDistinct true
    let x := Exchange.ofResponses [{ Response.empty with rows := [⟨[("count",.int 1)]⟩] }]
    ∃ after, ((Session.ofDialect .postgres).count q).run.run x = (.ok 1,after) ∧
      (Database.threeRows.rows q.unordered ()).length = 1 := by
  intro q x
  have built : q.buildCount .postgres = .ok ⟨"SELECT COUNT(*) FROM (SELECT DISTINCT 1 FROM \"t\") " ++
    "AS \"count_subquery\"",[],none,none⟩ := by decide
  have counted := count_eq_length Database.threeRows () (s := .ofDialect .postgres) (x := x) built
    (by decide) rfl rfl (by decide)
  obtain ⟨-,after,-,ran⟩ := counted
  exact ⟨after,ran,by decide⟩

/-- One group passes the HAVING, so the statement has one row, but the count is that of the rows in
the group. -/
theorem Session.having_miscounted :
    let q := ((Select.star.fromTable "t").addExpr "1" []).having "COUNT(*) > ?" [.int 2]
    let x := Exchange.ofResponses [{ Response.empty with rows := [⟨[("count",.int 3)]⟩] }]
    (∀ item ∈ q.items, Database.threeRows.isAggregate item = false) ∧
      q.counting.build .postgres = q.buildCount .postgres ∧
      q.buildCount .postgres =
        .ok ⟨"SELECT COUNT(*) FROM \"t\" HAVING COUNT(*) > $1",[.int 2],none,none⟩ ∧
      x.next.rows.map (·.values) = Database.threeRows.rows q.counting () ∧
      (((Session.ofDialect .postgres).count q).run.run x).1 = .ok 3 ∧
      Database.threeRows.rows q.unordered () = [[.int 1]] := by
  intro q x
  exact ⟨by decide,q.build_counting .postgres,by decide,by decide,rfl,by decide⟩

end ParamSql
