import ParamSql.Proofs.Condition
import ParamSql.Proofs.Conflict.Text
import ParamSql.Proofs.KeyMap
import ParamSql.Proofs.Lockstep

/-! The writers of whole statements stay in lockstep. -/
namespace ParamSql

theorem Condition.isEmpty_mapValues (φ : Value → Value) (c : Condition) :
    (c.mapValues φ).isEmpty = c.isEmpty := by
  rw [← c.isEmpty_toExpr,← isEmpty_toExpr,c.mapValues_toExpr,Expr.isEmpty_mapValues]

theorem ConditionGroup.isEmpty_mapValues (φ : Value → Value) (q : ConditionGroup) :
    (q.mapValues φ).isEmpty = q.isEmpty := by
  rw [← q.isEmpty_toExpr,← isEmpty_toExpr,q.mapValues_toExpr,Expr.isEmpty_mapValues]

/-! ## SELECT -/

namespace Select

/-- The query whose rows a count counts as a subquery. -/
def counted (q : Select) : Select :=
  { q with ctes := [], ordering := [], limit := none, offset := none }

theorem isEmpty_mapCtes (φ : Value → Value) (ctes : List (Cte Select)) :
    (mapCtes φ ctes).isEmpty = ctes.isEmpty := by
  cases ctes <;> rfl

theorem isEmpty_mapCombined (φ : Value → Value) (combined : List (SetOp × Select)) :
    (mapCombined φ combined).isEmpty = combined.isEmpty := by
  cases combined <;> rfl

theorem withKeywords_mapCtes (φ : Value → Value) (ctes : List (Cte Select)) :
    withKeywords (mapCtes φ ctes) = withKeywords ctes := by
  have same : (mapCtes φ ctes).any (·.isRecursive) = ctes.any (·.isRecursive) := by
    induction ctes with
    | nil => rfl
    | cons cte ctes ih => rw [mapCtes,List.any_cons,List.any_cons,ih]
  rw [withKeywords,isEmpty_mapCtes,same,withKeywords]

end Select

theorem Insert.columns_mapValues (φ : Value → Value) (q : Insert) :
    (q.mapValues φ).columns = q.columns := KeyMap.keys_map _ q.fields

theorem Upsert.overwritten_mapValues (φ : Value → Value) (q : Upsert) :
    (q.mapValues φ).overwritten = q.overwritten := by
  obtain ⟨insert,target,action⟩ := q
  cases action with
  | keep | overwrite columns => rfl
  | overwriteInserted =>
    show (insert.mapValues φ).columns.filter _ = insert.columns.filter _
    rw [insert.columns_mapValues]; rfl

theorem Upsert.conflictText_mapValues (φ : Value → Value) (q : Upsert) (d : Dialect) :
    (q.mapValues φ).conflictText d = q.conflictText d := by
  have target : (q.mapValues φ).target = q.target := rfl
  unfold conflictText
  rw [q.overwritten_mapValues,target]

theorem BatchUpdate.columns_mapValues (φ : Value → Value) (q : BatchUpdate) :
    (q.mapValues φ).columns = q.columns := by
  simp [columns,mapValues,List.flatMap_map]

theorem BatchUpdate.map_fst_mapValues (φ : Value → Value) (q : BatchUpdate) :
    (q.mapValues φ).rows.map (·.1) = (q.rows.map (·.1)).map φ := by
  simp [mapValues]

theorem isKeyword_append_repr {s : String} (fixed : isKeyword s) (n : Nat) :
    isKeyword (s ++ n.repr) := by
  have digits (c : Char) (member : c ∈ n.repr.toList) : c ≠ '$' ∧ c ≠ '?' := by
    have digit : c.isDigit := Nat.isDigit_of_mem_toDigits (b := 10) (by decide) (by decide)
      (by simpa [Nat.repr] using member)
    constructor <;> rintro rfl <;> revert digit <;> decide
  unfold isKeyword at fixed ⊢
  rw [String.toList_append]
  split at fixed
  next => cases fixed
  next c cs split =>
    rw [split,List.cons_append]
    simp only [Bool.and_eq_true,List.all_eq_true,List.mem_cons,List.mem_append] at fixed ⊢
    refine ⟨fixed.1,fun x member => ?_⟩
    rcases member with member | member | member
    · exact fixed.2 x (.inl member)
    · exact fixed.2 x (.inr member)
    · simpa using digits x member

namespace Lockstep

variable {l : Lockstep} {f g : Fragment} {clear first : Bool} {d : Dialect}

theorem spells_withKeywords (ctes : List (Cte Select)) : l.Spells (Select.withKeywords ctes) := by
  rw [Select.withKeywords]
  split
  · intro c member; simp at member
  · split <;> exact spells_keyword _ (by decide)

theorem spells_unboundedLimit {s : String} (found : d.unboundedLimit = some s) : l.Spells s := by
  intro c member
  cases d with
  | postgres => cases found
  | sqlite => cases found; exact allowed_of_mem member
  | mysql => cases found; exact allowed_of_mem member

theorem Reaches.condition (c : Condition) (admitted : ∀ t ∈ c.supplied, l.Admits t)
    (h : l.Reaches true f g) :
    l.Reaches false (c.writeTo d f) ((c.mapValues l.value).writeTo d g) := by
  rw [← c.writeTo_toExpr,← Condition.writeTo_toExpr,c.mapValues_toExpr]
  exact h.expr _ (by rwa [c.supplied_toExpr])

theorem Reaches.group (q : ConditionGroup) (admitted : ∀ t ∈ q.supplied, l.Admits t)
    (h : l.Reaches true f g) :
    l.Reaches false (q.writeTo d f) ((q.mapValues l.value).writeTo d g) := by
  rw [← q.writeTo_toExpr,← ConditionGroup.writeTo_toExpr,q.mapValues_toExpr]
  exact h.expr _ (by rwa [q.supplied_toExpr])

theorem Reaches.clause (h : l.Reaches clear f g) (word : String) (q : ConditionGroup)
    (admitted : ∀ t ∈ q.supplied, l.Admits t) (fixed : isKeyword word) :
    l.Reaches false (q.writeClause word d f) ((q.mapValues l.value).writeClause word d g) := by
  rw [ConditionGroup.writeClause,ConditionGroup.writeClause,q.isEmpty_mapValues]
  split
  · exact h.loose
  · exact (h.keyword word fixed).group q admitted

theorem Reaches.join (j : Join) (admitted : ∀ t ∈ j.supplied, l.Admits t)
    (h : l.Reaches clear f g) :
    l.Reaches false (j.writeTo d f) ((j.mapValues l.value).writeTo d g) := by
  obtain ⟨kind,table,on⟩ := j
  have named : l.Spells table := admitted (.free table) List.mem_cons_self
  have headed := (h.keyword kind.keyword (by cases kind <;> decide)).free (named.table d)
  cases on with
  | none => exact headed.loosen
  | some c =>
    change l.Reaches false (if kind = .cross || c.isEmpty then _ else _)
      (if kind = .cross || (c.mapValues l.value).isEmpty then _ else _)
    rw [c.isEmpty_mapValues]
    split
    · exact headed.loosen
    · exact (headed.keyword " ON " (by decide)).condition c fun t member =>
        admitted t (List.mem_cons_of_mem _ member)

theorem Reaches.joins (js : List Join) (admitted : ∀ t ∈ js.flatMap (·.supplied), l.Admits t)
    (h : l.Reaches false f g) :
    l.Reaches false (Select.writeJoins d js f)
      (Select.writeJoins d (js.map (·.mapValues l.value)) g) := by
  induction js generalizing f g with
  | nil => exact h
  | cons j js ih =>
    rw [List.flatMap_cons,List.forall_mem_append] at admitted
    obtain ⟨inJoin,inJoins⟩ := admitted
    exact ih inJoins (h.join j inJoin)

theorem Reaches.exprs (exprs : List (String × List Value))
    (admitted : ∀ t ∈ exprs.map (Supplied.template ·.1), l.Admits t) (h : l.Reaches first f g) :
    l.Reaches false (Select.writeExprs first exprs f)
      (Select.writeExprs first (exprs.map fun e => (e.1,e.2.map l.value)) g) := by
  induction exprs generalizing first f g with
  | nil => exact h.loose
  | cons e exprs ih =>
    rw [List.map_cons,List.forall_mem_cons] at admitted
    obtain ⟨inExpr,inExprs⟩ := admitted
    exact ih inExprs ((h.separate ", " (by decide)).fill e.2 inExpr)

theorem Reaches.list (columns : List String) (exprs : List (String × List Value))
    (named : ∀ t ∈ Supplied.ofFree columns, l.Admits t)
    (admitted : ∀ t ∈ exprs.map (Supplied.template ·.1), l.Admits t) (h : l.Reaches true f g) :
    l.Reaches false (Select.writeList d columns exprs f)
      (Select.writeList d columns (exprs.map fun e => (e.1,e.2.map l.value)) g) := by
  rw [Select.writeList,Select.writeList,List.isEmpty_map]
  split
  · exact (h.keyword "*" (by decide)).loosen
  · exact (h.free (spells_columns named)).anyEnd.exprs exprs admitted

theorem Reaches.grouping (columns : List String) (named : ∀ t ∈ Supplied.ofFree columns, l.Admits t)
    (h : l.Reaches false f g) :
    l.Reaches false (Select.writeGrouping d columns f) (Select.writeGrouping d columns g) := by
  rw [Select.writeGrouping,Select.writeGrouping]
  split
  · exact h
  · exact ((h.keyword " GROUP BY " (by decide)).free (spells_columns named)).loosen

theorem Reaches.ordering (entries : List String) (named : ∀ t ∈ Supplied.ofFree entries, l.Admits t)
    (h : l.Reaches false f g) :
    l.Reaches false (Select.writeOrdering d entries f) (Select.writeOrdering d entries g) := by
  have items : l.Spells (String.intercalate ", " (entries.filterMap (Identifier.orderItem? d))) := by
    refine spells_intercalate fun item found => ?_
    obtain ⟨entry,inside,item⟩ := List.mem_filterMap.mp found
    exact Spells.orderItem (named (.free entry) (List.mem_map_of_mem inside)) item
  simp only [Select.writeOrdering]
  split
  · exact h
  · exact ((h.keyword " ORDER BY " (by decide)).free items).loosen

theorem Reaches.limit (limit offset : Option UInt64) (h : l.Reaches false f g) :
    l.Reaches false (Select.writeLimit d limit offset f) (Select.writeLimit d limit offset g) := by
  have counted {clear : Bool} {f g : Fragment} (h : l.Reaches clear f g) (n : UInt64) (s : String)
      (fixed : isKeyword s) : l.Reaches false (f.text (s ++ n.toNat.repr)) (g.text (s ++ n.toNat.repr)) :=
    (h.keyword _ (isKeyword_append_repr fixed n.toNat)).loosen
  cases limit with
  | some n =>
    cases offset with
    | none => exact counted h n " LIMIT " (by decide)
    | some m => exact counted (counted h n " LIMIT " (by decide)) m " OFFSET " (by decide)
  | none =>
    cases offset with
    | none => exact h
    | some m =>
      have unbounded (s : String) (spelled : l.Spells s) := counted
        ((h.keyword " LIMIT " (by decide)).free spelled) m " OFFSET " (by decide)
      cases d with
      | postgres => exact counted h m " OFFSET " (by decide)
      | sqlite => exact unbounded "-1" (spells_unboundedLimit (d := .sqlite) rfl)
      | mysql => exact unbounded _ (spells_unboundedLimit (d := .mysql) rfl)

theorem Reaches.conditions (js : List Join) (conditions : ConditionGroup) (columns : List String)
    (groupConditions : ConditionGroup) (joined : ∀ t ∈ js.flatMap (·.supplied), l.Admits t)
    (filtered : ∀ t ∈ conditions.supplied, l.Admits t)
    (grouped : ∀ t ∈ Supplied.ofFree columns, l.Admits t)
    (kept : ∀ t ∈ groupConditions.supplied, l.Admits t) (h : l.Reaches false f g) :
    l.Reaches false (Select.writeConditions d js conditions columns groupConditions f)
      (Select.writeConditions d (js.map (·.mapValues l.value)) (conditions.mapValues l.value) columns
        (groupConditions.mapValues l.value) g) := by
  have filtered := (h.joins js joined (d := d)).clause " WHERE " conditions filtered (by decide) (d := d)
  exact (filtered.grouping columns grouped).clause " HAVING " groupConditions kept (by decide)

theorem Reaches.cteHead (name : String) (columns : List String) (named : l.Spells name)
    (listed : ∀ t ∈ Supplied.ofFree columns, l.Admits t) (h : l.Reaches true f g) :
    l.Reaches true (Select.writeCteHead d name columns f) (Select.writeCteHead d name columns g) := by
  have headed := h.ident named (d := d)
  simp only [Select.writeCteHead]
  split
  · exact headed.keyword " AS (" (by decide)
  · have opened := (headed.keyword " (" (by decide)).idents listed (d := d)
    exact (opened.keyword ")" (by decide)).keyword " AS (" (by decide)

mutual
theorem outcome_select : ∀ (q : Select) {f g : Fragment}, (∀ t ∈ q.supplied, l.Admits t) →
    l.Reaches true f g → l.Outcome (q.writeTo d f) ((q.mapValues l.value).writeTo d g)
  | ⟨ctes,columns,exprs,isDistinct,source,joins,conditions,grouping,groupConditions,ordering,limit,
      offset,combined,misuse⟩, f, g, admitted, h => by
    simp only [Select.supplied,List.mem_append,or_imp,forall_and] at admitted
    obtain ⟨⟨⟨⟨⟨⟨⟨⟨⟨inCtes,inColumns⟩,inExprs⟩,inSource⟩,inJoins⟩,inConditions⟩,inGrouping⟩,
      inGroupConditions⟩,inOrdering⟩,inCombined⟩ := admitted
    rw [Select.mapValues]
    cases misuse with
    | some misuse => rw [Select.writeTo,Select.writeTo]; exact .refused _
    | none =>
      rw [Select.writeTo,Select.writeTo,Select.withKeywords_mapCtes,Select.isEmpty_mapCtes,
        Select.isEmpty_mapCombined]
      refine (outcome_ctes ctes inCtes (h.free (spells_withKeywords ctes))).andThen fun h => ?_
      have opened := (h.unless ctes.isEmpty " " (by decide)).unless combined.isEmpty "(" (by decide)
      have started := opened.keyword (if isDistinct then "SELECT DISTINCT " else "SELECT ")
        (by cases isDistinct <;> decide)
      have listed := started.list columns exprs inColumns inExprs (d := d)
      refine (outcome_source source inSource listed).andThen fun h => ?_
      have filtered := h.conditions joins conditions grouping groupConditions inJoins inConditions
        inGrouping inGroupConditions (d := d)
      have limited := (filtered.ordering ordering inOrdering (d := d)).limit limit offset (d := d)
      exact outcome_combined combined inCombined (limited.unless combined.isEmpty ")" (by decide))

theorem outcome_ctes : ∀ (ctes : List (Cte Select)) {first : Bool} {f g : Fragment},
    (∀ t ∈ Select.suppliedCtes ctes, l.Admits t) → l.Reaches first f g →
    l.Outcome (Select.writeCtes d first ctes f)
      (Select.writeCtes d first (Select.mapCtes l.value ctes) g)
  | [], first, f, g, admitted, h => by
    rw [Select.mapCtes,Select.writeCtes,Select.writeCtes]
    exact .written h.loose
  | ⟨name,columns,query,isRecursive⟩ :: ctes, first, f, g, admitted, h => by
    simp only [Select.suppliedCtes,List.mem_append,List.mem_cons,or_imp,forall_and,forall_eq] at admitted
    obtain ⟨⟨⟨inName,inColumns⟩,inQuery⟩,inCtes⟩ := admitted
    rw [Select.mapCtes,Select.writeCtes,Select.writeCtes]
    have headed := (h.separate ", " (by decide)).cteHead name columns inName inColumns (d := d)
    exact (outcome_select query inQuery headed).andThen fun h =>
      outcome_ctes ctes inCtes (h.keyword ")" (by decide)).loosen

theorem outcome_source : ∀ (source : Option (Source Select)) {f g : Fragment},
    (∀ t ∈ Select.suppliedSource source, l.Admits t) → l.Reaches false f g →
    l.Outcome (Select.writeSource d source f)
      (Select.writeSource d (Select.mapSource l.value source) g)
  | none, f, g, admitted, h => by
    rw [Select.mapSource,Select.writeSource,Select.writeSource]
    exact .written h
  | some (.table name), f, g, admitted, h => by
    have named : l.Spells name := admitted (.free name) List.mem_cons_self
    rw [Select.mapSource,Select.writeSource,Select.writeSource]
    exact .written ((h.keyword " FROM " (by decide)).free (named.table d)).loosen
  | some (.subquery query label), f, g, admitted, h => by
    have named : l.Spells label := admitted (.free label) List.mem_cons_self
    have inQuery : ∀ t ∈ query.supplied, l.Admits t := fun t member =>
      admitted t (List.mem_cons_of_mem _ member)
    rw [Select.mapSource,Select.writeSource,Select.writeSource]
    exact (outcome_select query inQuery (h.keyword " FROM (" (by decide))).andThen fun h =>
      .written ((h.keyword ") AS " (by decide)).ident named).loosen

theorem outcome_combined : ∀ (combined : List (SetOp × Select)) {f g : Fragment},
    (∀ t ∈ Select.suppliedCombined combined, l.Admits t) → l.Reaches false f g →
    l.Outcome (Select.writeCombined d combined f)
      (Select.writeCombined d (Select.mapCombined l.value combined) g)
  | [], f, g, admitted, h => by
    rw [Select.mapCombined,Select.writeCombined,Select.writeCombined]
    exact .written h
  | (op,query) :: rest, f, g, admitted, h => by
    have inQuery : ∀ t ∈ query.supplied, l.Admits t := fun t member =>
      admitted t (List.mem_append_left _ member)
    have inRest : ∀ t ∈ Select.suppliedCombined rest, l.Admits t := fun t member =>
      admitted t (List.mem_append_right _ member)
    have opened := (h.keyword op.keyword (by cases op <;> decide)).keyword "(" (by decide)
    rw [Select.mapCombined,Select.writeCombined,Select.writeCombined]
    exact (outcome_select query inQuery opened).andThen fun h =>
      outcome_combined rest inRest (h.keyword ")" (by decide)).loosen
end

theorem outcome_count (q : Select) (admitted : ∀ t ∈ q.supplied, l.Admits t)
    (h : l.Reaches true f g) :
    l.Outcome (q.writeCount d f) ((q.mapValues l.value).writeCount d g) := by
  obtain ⟨ctes,columns,exprs,isDistinct,source,joins,conditions,grouping,groupConditions,ordering,
    limit,offset,combined,misuse⟩ := q
  simp only [Select.supplied,List.mem_append,or_imp,forall_and] at admitted
  obtain ⟨⟨⟨⟨⟨⟨⟨⟨⟨inCtes,inColumns⟩,inExprs⟩,inSource⟩,inJoins⟩,inConditions⟩,inGrouping⟩,
    inGroupConditions⟩,-⟩,inCombined⟩ := admitted
  rw [Select.mapValues]
  cases misuse with
  | some misuse => exact .refused _
  | none =>
    simp only [Select.writeCount,Select.withKeywords_mapCtes,Select.isEmpty_mapCtes,
      Select.countsSubquery,Select.isEmpty_mapCombined]
    refine (outcome_ctes ctes inCtes (h.free (spells_withKeywords ctes))).andThen fun h => ?_
    have spaced := h.unless ctes.isEmpty " " (by decide)
    refine .branch Iff.rfl ?_ ?_
    · have inCounted : ∀ t ∈ (Select.counted ⟨ctes,columns,exprs,isDistinct,source,joins,conditions,
          grouping,groupConditions,ordering,limit,offset,combined,none⟩).supplied, l.Admits t := by
        simp only [Select.counted,Select.supplied,Select.suppliedCtes,Supplied.ofFree,List.map_nil,
          List.nil_append,List.append_nil,List.mem_append,or_imp,forall_and]
        exact ⟨⟨⟨⟨⟨⟨⟨inColumns,inExprs⟩,inSource⟩,inJoins⟩,inConditions⟩,inGrouping⟩,
          inGroupConditions⟩,inCombined⟩
      have opened := spaced.keyword "SELECT COUNT(*) FROM (" (by decide)
      have counted := outcome_select _ inCounted opened (d := d)
      rw [Select.counted,Select.mapValues,Select.mapCtes] at counted
      exact counted.andThen fun h => .written ((h.keyword ") AS " (by decide)).ident
        (spells_keyword "count_subquery" (by decide))).loosen
    · refine (outcome_source source inSource
        (spaced.keyword "SELECT COUNT(*)" (by decide)).loosen).andThen fun h => ?_
      exact .written (h.conditions joins conditions grouping groupConditions inJoins inConditions
        inGrouping inGroupConditions)

/-! ## INSERT, UPDATE, DELETE -/

theorem Reaches.assignment (a : Assignment) (admitted : ∀ t ∈ a.supplied, l.Admits t)
    (h : l.Reaches true f g) :
    l.Reaches false (a.writeTo f) ((a.mapValues l.value).writeTo g) := by
  cases a with
  | value v => exact h.bind v
  | raw sql => exact (h.free (admitted (.free sql) List.mem_cons_self)).loosen

theorem Outcome.returning {columns : List String} (named : ∀ t ∈ Supplied.ofFree columns, l.Admits t)
    (h : l.Reaches false f g) : l.Outcome (f.returning d columns) (g.returning d columns) := by
  rw [Fragment.returning,Fragment.returning]
  split
  · exact .written h
  · split
    · exact .written ((h.keyword " RETURNING " (by decide)).free (spells_columns named)).loosen
    · exact .refused _

theorem Reaches.insertAssignments (entries : List (String × Assignment))
    (admitted : ∀ e ∈ entries, ∀ t ∈ e.2.supplied, l.Admits t) (h : l.Reaches first f g) :
    l.Reaches false (Insert.writeAssignments first entries f)
      (Insert.writeAssignments first (entries.map fun e => (e.1,e.2.mapValues l.value)) g) := by
  induction entries generalizing first f g with
  | nil => exact h.loose
  | cons e entries ih =>
    obtain ⟨inEntry,inEntries⟩ := List.forall_mem_cons.mp admitted
    exact ih inEntries ((h.separate ", " (by decide)).assignment e.2 inEntry)

theorem Reaches.updateAssignments (entries : List (String × Assignment))
    (named : ∀ e ∈ entries, l.Spells e.1)
    (admitted : ∀ e ∈ entries, ∀ t ∈ e.2.supplied, l.Admits t) (h : l.Reaches first f g) :
    l.Reaches false (Update.writeAssignments d first entries f)
      (Update.writeAssignments d first (entries.map fun e => (e.1,e.2.mapValues l.value)) g) := by
  induction entries generalizing first f g with
  | nil => exact h.loose
  | cons e entries ih =>
    obtain ⟨name,names⟩ := List.forall_mem_cons.mp named
    obtain ⟨inEntry,inEntries⟩ := List.forall_mem_cons.mp admitted
    have target := (h.separate ", " (by decide)).ident name (d := d)
    exact ih names inEntries ((target.keyword " = " (by decide)).assignment e.2 inEntry)

theorem admits_keys {fields : Assignments} (admitted : ∀ t ∈ fields.supplied, l.Admits t) :
    ∀ e ∈ fields.entries, l.Spells e.1 := fun e member =>
  admitted (.free e.1) (List.mem_flatMap.mpr ⟨e,member,List.mem_cons_self⟩)

theorem admits_assignments {fields : Assignments} (admitted : ∀ t ∈ fields.supplied, l.Admits t) :
    ∀ e ∈ fields.entries, ∀ t ∈ e.2.supplied, l.Admits t := fun e member t inside =>
  admitted t (List.mem_flatMap.mpr ⟨e,member,List.mem_cons_of_mem _ inside⟩)

theorem admits_names {names : List String} (spelled : ∀ s ∈ names, l.Spells s) :
    ∀ t ∈ Supplied.ofFree names, l.Admits t := by
  intro t member
  obtain ⟨s,inside,rfl⟩ := List.mem_map.mp member
  exact spelled s inside

theorem Reaches.insert (q : Insert) (admitted : ∀ t ∈ q.supplied, l.Admits t)
    (h : l.Reaches true f g) :
    l.Reaches true (q.writeTo d f) ((q.mapValues l.value).writeTo d g) := by
  simp only [Insert.supplied,List.mem_append,List.mem_cons,or_imp,forall_and,forall_eq] at admitted
  obtain ⟨⟨inTable,inFields⟩,-⟩ := admitted
  have headed := (h.keyword "INSERT INTO " (by decide)).free (Spells.table inTable d)
  unfold Insert.writeTo
  refine .branch (by simp [Insert.mapValues]) ?_ ?_
  · exact headed.keyword _ (by cases d <;> decide)
  · have named : ∀ t ∈ Supplied.ofFree q.columns, l.Admits t := admits_names fun s member => by
      obtain ⟨e,inside,rfl⟩ := List.mem_map.mp member
      exact admits_keys inFields e inside
    have listed := (headed.keyword " (" (by decide)).idents named (d := d)
    have opened := listed.keyword ") VALUES (" (by decide)
    have valued := opened.insertAssignments q.fields.entries (admits_assignments inFields)
    rw [q.columns_mapValues]
    exact valued.keyword ")" (by decide)

theorem Reaches.update (q : Update) (admitted : ∀ t ∈ q.supplied, l.Admits t)
    (h : l.Reaches true f g) :
    l.Reaches false (q.writeTo d f) ((q.mapValues l.value).writeTo d g) := by
  simp only [Update.supplied,List.mem_append,List.mem_cons,or_imp,forall_and,forall_eq] at admitted
  obtain ⟨⟨⟨inTable,inFields⟩,inConditions⟩,-⟩ := admitted
  have headed := (h.keyword "UPDATE " (by decide)).free (Spells.table inTable d)
  have assigned := (headed.keyword " SET " (by decide)).updateAssignments q.fields.entries
    (admits_keys inFields) (admits_assignments inFields) (d := d)
  exact assigned.clause " WHERE " q.conditions inConditions (by decide)

theorem Reaches.delete (q : Delete) (admitted : ∀ t ∈ q.supplied, l.Admits t)
    (h : l.Reaches true f g) :
    l.Reaches false (q.writeTo d f) ((q.mapValues l.value).writeTo d g) := by
  simp only [Delete.supplied,List.mem_append,List.mem_cons,or_imp,forall_and,forall_eq] at admitted
  obtain ⟨⟨inTable,inConditions⟩,-⟩ := admitted
  have headed := (h.keyword "DELETE FROM " (by decide)).free (Spells.table inTable d)
  exact headed.clause " WHERE " q.conditions inConditions (by decide)

theorem spells_proposals {columns : List String}
    (admitted : ∀ t ∈ Supplied.ofFree columns, l.Admits t) : l.Spells (Upsert.proposals d columns) := by
  apply spells_list _ admitted
  intro column spelled
  have quoted := spelled.quote d
  cases d with
  | postgres | sqlite =>
    have target := quoted.append (spells_keyword " = EXCLUDED." (by decide))
    exact target.append quoted
  | mysql =>
    have target := (quoted.append (spells_keyword " = VALUES(" (by decide))).append quoted
    exact target.append (spells_keyword ")" (by decide))

theorem spells_conflictText (q : Upsert) (targeted : ∀ t ∈ Supplied.ofFree q.target, l.Admits t)
    (overwritten : ∀ t ∈ Supplied.ofFree q.overwritten, l.Admits t) : l.Spells (q.conflictText d) := by
  have proposed := spells_proposals overwritten (d := d)
  have names := spells_list (fun _ h => h.quote d) targeted
  have aimed := (spells_keyword " ON CONFLICT (" (by decide)).append names
  have listed := aimed.append (spells_keyword ")" (by decide))
  have opened := spells_keyword " ON DUPLICATE KEY UPDATE " (by decide) (l := l)
  unfold Upsert.conflictText
  cases d with
  | postgres | sqlite =>
    dsimp only
    split
    · exact listed.append (spells_keyword " DO NOTHING" (by decide))
    · exact listed.append ((spells_keyword " DO UPDATE SET " (by decide)).append proposed)
  | mysql =>
    dsimp only
    split
    · refine opened.append ?_
      cases target : q.target with
      | nil => exact fun c member => absurd member (by simp)
      | cons key rest =>
        have named : l.Spells key := targeted (.free key) (target ▸ List.mem_cons_self)
        have quoted := named.quote .mysql
        exact (quoted.append (spells_keyword " = " (by decide))).append quoted
    · exact opened.append proposed

theorem Reaches.upsert (q : Upsert) (admitted : ∀ t ∈ q.supplied, l.Admits t)
    (h : l.Reaches true f g) :
    l.Reaches true ((q.insert.writeTo d f).text (q.conflictText d))
      (((q.mapValues l.value).insert.writeTo d g).text ((q.mapValues l.value).conflictText d)) := by
  simp only [Upsert.supplied,List.mem_append,or_imp,forall_and] at admitted
  obtain ⟨⟨inInsert,inTarget⟩,inOverwritten⟩ := admitted
  rw [q.conflictText_mapValues]
  exact (h.insert q.insert inInsert).free (spells_conflictText q inTarget inOverwritten)

/-! ## Batches -/

theorem Reaches.rows (rows : List (List Value)) (h : l.Reaches first f g) :
    l.Reaches false (BatchInsert.writeRows first rows f)
      (BatchInsert.writeRows first (rows.map (·.map l.value)) g) := by
  induction rows generalizing first f g with
  | nil => exact h.loose
  | cons row rows ih =>
    have opened := (h.separate ", " (by decide)).keyword "(" (by decide)
    exact ih ((opened.bindList row).keyword ")" (by decide)).loosen

theorem Reaches.batchInsert (q : BatchInsert) (admitted : ∀ t ∈ q.supplied, l.Admits t)
    (h : l.Reaches true f g) :
    l.Reaches false (q.writeTo d f) ((q.mapValues l.value).writeTo d g) := by
  simp only [BatchInsert.supplied,List.mem_append,List.mem_cons,or_imp,forall_and,forall_eq] at admitted
  obtain ⟨⟨inTable,inColumns⟩,-⟩ := admitted
  have headed := (h.keyword "INSERT INTO " (by decide)).free (Spells.table inTable d)
  have listed := (headed.keyword " (" (by decide)).idents inColumns (d := d)
  have opened := listed.keyword ") VALUES " (by decide)
  exact opened.rows q.rows

theorem Reaches.arms (column : String) (rows : List (Value × KeyMap Value))
    (h : l.Reaches false f g) :
    l.Reaches false (BatchUpdate.writeArms column rows f)
      (BatchUpdate.writeArms column (rows.map fun row => (l.value row.1,row.2.map l.value)) g) := by
  induction rows generalizing f g with
  | nil => exact h
  | cons row rows ih =>
    simp only [List.map_cons,BatchUpdate.writeArms,KeyMap.get?_map]
    cases row.2.get? column with
    | none => exact ih h
    | some v =>
      have keyed := (h.keyword " WHEN " (by decide)).bind row.1
      exact ih ((keyed.keyword " THEN " (by decide)).bind v)

theorem Reaches.caseColumns (q : BatchUpdate) (key : l.Spells q.key) (columns : List String)
    (named : ∀ s ∈ columns, l.Spells s) (h : l.Reaches first f g) :
    l.Reaches false (BatchUpdate.writeColumns d q first columns f)
      (BatchUpdate.writeColumns d (q.mapValues l.value) first columns g) := by
  induction columns generalizing first f g with
  | nil => exact h.loose
  | cons column columns ih =>
    obtain ⟨name,names⟩ := List.forall_mem_cons.mp named
    have target := ((h.separate ", " (by decide)).ident name (d := d)).keyword " = CASE " (by decide)
    have arms := (target.ident key (d := d)).loosen.arms column q.rows
    have default := ((arms.keyword " ELSE " (by decide)).ident name (d := d)).keyword " END" (by decide)
    exact ih names default.loosen

theorem Reaches.batchUpdate (q : BatchUpdate) (admitted : ∀ t ∈ q.supplied, l.Admits t)
    (h : l.Reaches true f g) :
    l.Reaches false (q.writeTo d f) ((q.mapValues l.value).writeTo d g) := by
  simp only [BatchUpdate.supplied,List.mem_cons,or_imp,forall_and,forall_eq] at admitted
  obtain ⟨inTable,inKey,inRows⟩ := admitted
  have named : ∀ s ∈ q.columns, l.Spells s := fun s member => by
    obtain ⟨e,found,rfl⟩ := KeyMap.mem_keys_ofList member
    obtain ⟨name,kept,rfl⟩ := List.mem_map.mp found
    obtain ⟨row,inside,key⟩ := List.mem_flatMap.mp (List.mem_filter.mp kept).1
    exact inRows (.free name) (List.mem_flatMap.mpr ⟨row,inside,List.mem_map_of_mem key⟩)
  have headed := (h.keyword "UPDATE " (by decide)).free (Spells.table inTable d)
  have assigned := (headed.keyword " SET " (by decide)).caseColumns q inKey q.columns named (d := d)
  have keyed := (assigned.keyword " WHERE " (by decide)).ident inKey (d := d)
  have listed := (keyed.keyword " IN (" (by decide)).bindList (q.rows.map (·.1))
  simp only [BatchUpdate.writeTo,q.columns_mapValues,q.map_fst_mapValues]
  exact (listed.keyword ")" (by decide)).loosen

end Lockstep

end ParamSql
