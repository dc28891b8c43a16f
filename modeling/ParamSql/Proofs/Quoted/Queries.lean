import ParamSql.Proofs.Quoted.Statements
import Mathlib.Logic.Function.Basic

/-! Where names stand in SELECT, at every depth: names of WITH queries, their columns and labels of
subqueries. Main statement: read where it should have them, a built statement has exactly the names
that were given, in this order. -/
namespace ParamSql
open Outline

namespace Select

theorem writeList_append (d : Dialect) (columns : List String) (exprs : List (String × List Value))
    (f : Fragment) : writeList d columns exprs f = f.append (writeList d columns exprs .empty) := by
  have reached : (Lockstep.continuing f).Reaches false (writeList d columns exprs .empty)
      (writeList d columns (exprs.map fun e => (e.1,e.2.map id)) f) :=
    .list columns exprs (fun t _ => Lockstep.admits_ofAny t) (fun t _ => Lockstep.admits_ofAny t) .start
  simpa using reached.eq_append

/-- What a query writes behind its FROM clause. -/
def writeTail (d : Dialect) (joins : List Join) (conditions : ConditionGroup) (grouping : List String)
    (groupConditions : ConditionGroup) (ordering : List String) (limit offset : Option UInt64)
    (out : Fragment) : Fragment :=
  writeLimit d limit offset (writeOrdering d ordering
    (writeConditions d joins conditions grouping groupConditions out))

end Select

namespace Trails

theorem join (d : Dialect) (j : Join) : Trails (j.writeTo d) := by
  obtain ⟨kind,table,on⟩ := j
  have blank : kind.keyword.toList.head? = some ' ' := by cases kind <;> rfl
  have plain : Trails fun f => (f.text kind.keyword).text (Identifier.table d table) :=
    headed _ blank (v := (Fragment.text · (Identifier.table d table))) fun f => by simp
  unfold Join.writeTo
  cases on with
  | none => exact plain
  | some c =>
    dsimp only
    split
    · exact plain
    · refine headed _ blank
        (v := fun f => c.writeTo d ((f.text (Identifier.table d table)).text " ON ")) fun f => ?_
      rw [c.writeTo_append,c.writeTo_append d ((Fragment.empty.text _).text _),Fragment.append_assoc]
      simp

theorem joins (d : Dialect) (js : List Join) : Trails (Select.writeJoins d js) := by
  induction js with
  | nil => exact skip
  | cons j js ih => exact (join d j).comp ih

theorem grouping (d : Dialect) (columns : List String) : Trails (Select.writeGrouping d columns) := by
  unfold Select.writeGrouping
  split
  · exact skip
  · exact headed " GROUP BY " rfl (v := (Fragment.text · _)) fun f => by simp

theorem ordering (d : Dialect) (entries : List String) : Trails (Select.writeOrdering d entries) := by
  unfold Select.writeOrdering
  dsimp only
  split
  · exact skip
  · exact headed " ORDER BY " rfl (v := (Fragment.text · _)) fun f => by simp

theorem limit (d : Dialect) (limit offset : Option UInt64) :
    Trails (Select.writeLimit d limit offset) := by
  have counted (s : String) (blank : s.toList.head? = some ' ') (n : UInt64) :
      Trails (Fragment.text · (s ++ n.toNat.repr)) :=
    text _ (by rw [String.toList_append,List.head?_append,blank,Option.some_or])
  have unbounded (s : String) : Trails fun f => (f.text " LIMIT ").text s :=
    headed " LIMIT " rfl (v := (Fragment.text · s)) fun f => by simp
  cases limit with
  | some n =>
    cases offset with
    | none => exact counted " LIMIT " rfl n
    | some m => exact (counted " LIMIT " rfl n).comp (counted " OFFSET " rfl m)
  | none =>
    cases offset with
    | none => exact skip
    | some m =>
      cases d with
      | postgres => exact counted " OFFSET " rfl m
      | sqlite | mysql => exact (unbounded _).comp (counted " OFFSET " rfl m)

theorem tail (d : Dialect) (joins : List Join) (conditions : ConditionGroup) (columns : List String)
    (groupConditions : ConditionGroup) (entries : List String) (bound offset : Option UInt64) :
    Trails (Select.writeTail d joins conditions columns groupConditions entries bound offset) := by
  have filtered := (Trails.joins d joins).comp (clause " WHERE " rfl d conditions)
  have grouped := (filtered.comp (grouping d columns)).comp (clause " HAVING " rfl d groupConditions)
  exact (grouped.comp (ordering d entries)).comp (limit d bound offset)

end Trails

/-! ## The outline of a query -/

namespace Select

def cteHead (name : String) (columns : List String) : Outline :=
  [.name name] ++ (if columns.isEmpty then [] else text " (" ++ quoted columns ++ text ")") ++
    text " AS ("

mutual
def outline (d : Dialect) : Select → Outline
  | ⟨ctes,columns,exprs,isDistinct,source,joins,conditions,grouping,groupConditions,ordering,limit,
      offset,combined,_⟩ =>
    text (withKeywords ctes) ++ listed true (outlineCtes d ctes) ++
      (if ctes.isEmpty then [] else text " ") ++ (if combined.isEmpty then [] else text "(") ++
      text (if isDistinct then "SELECT DISTINCT " else "SELECT ") ++
      written (writeList d columns exprs .empty) ++ outlineSource d source ++
      written (writeTail d joins conditions grouping groupConditions ordering limit offset .empty) ++
      (if combined.isEmpty then [] else text ")") ++ outlineCombined d combined

def outlineCtes (d : Dialect) : List (Cte Select) → List Outline
  | [] => []
  | ⟨name,columns,query,_⟩ :: ctes =>
    (cteHead name columns ++ outline d query ++ text ")") :: outlineCtes d ctes

def outlineSource (d : Dialect) : Option (Source Select) → Outline
  | none => []
  | some (.table name) => text " FROM " ++ text (Identifier.table d name)
  | some (.subquery query label) => text " FROM (" ++ outline d query ++ text ") AS " ++ [.name label]

def outlineCombined (d : Dialect) : List (SetOp × Select) → Outline
  | [] => []
  | (op,query) :: rest =>
    text op.keyword ++ text "(" ++ outline d query ++ text ")" ++ outlineCombined d rest
end

mutual
/-- The names of WITH queries and of their columns, and the labels of subqueries. -/
def quotedNames : Select → List String
  | ⟨ctes,_,_,_,source,_,_,_,_,_,_,_,combined,_⟩ =>
    quotedCtes ctes ++ quotedSource source ++ quotedCombined combined

def quotedCtes : List (Cte Select) → List String
  | [] => []
  | ⟨name,columns,query,_⟩ :: ctes => name :: columns ++ quotedNames query ++ quotedCtes ctes

def quotedSource : Option (Source Select) → List String
  | some (.subquery query label) => quotedNames query ++ [label]
  | _ => []

def quotedCombined : List (SetOp × Select) → List String
  | [] => []
  | (_,query) :: rest => quotedNames query ++ quotedCombined rest
end

end Select

namespace Outlined

variable {d : Dialect} {closed first : Bool} {o : Outline} {f : Fragment}

theorem optional (bare : Bool) (s : String) (plain : endsName s) (h : Outlined d false o f) :
    Outlined d false (o ++ if bare then [] else Outline.text s) (if bare then f else f.text s) := by
  cases bare with
  | true => exact (List.append_nil o).symm ▸ h
  | false => exact (h.keyword s plain).loosen

theorem cteHead (name : String) (columns : List String) (h : Outlined d true o f) :
    Outlined d true (o ++ Select.cteHead name columns) (Select.writeCteHead d name columns f) := by
  have named := h.name name
  unfold Select.writeCteHead Select.cteHead
  dsimp only
  split
  · simpa only [List.append_assoc,List.append_nil] using named.keyword " AS (" rfl
  · have listed := ((named.keyword " (" rfl).idents columns).keyword ")" rfl
    simpa only [List.append_assoc] using listed.keyword " AS (" rfl

mutual
theorem select : ∀ (q : Select) {o : Outline} {f : Fragment}, Outlined d true o f →
    Drawn d (o ++ q.outline d) (q.writeTo d f)
  | ⟨ctes,columns,exprs,isDistinct,source,joins,conditions,grouping,groupConditions,ordering,limit,
      offset,combined,misuse⟩, o, f, h => by
    cases misuse with
    | some misuse => rw [Select.writeTo]; exact .refused _
    | none =>
      rw [Select.writeTo]
      refine (selectCtes ctes (h.text _)).andThen fun h => ?_
      have opened := (h.optional ctes.isEmpty " " rfl).optional combined.isEmpty "(" rfl
      have started := opened.keyword (if isDistinct then "SELECT DISTINCT " else "SELECT ")
        (by cases isDistinct <;> rfl)
      have listed := started.free (Select.writeList_append d columns exprs _)
      refine (selectSource source listed).andThen fun h => ?_
      -- A label may end the FROM clause, so what follows has to begin with a blank.
      have ended := h.trail (.tail d joins conditions grouping groupConditions ordering limit offset)
      have closed := ended.optional combined.isEmpty ")" rfl
      simpa only [Select.outline,Select.writeTail,List.append_assoc] using selectCombined combined closed

theorem selectCtes : ∀ (ctes : List (Cte Select)) {first : Bool} {o : Outline} {f : Fragment},
    Outlined d first o f →
    Drawn d (o ++ listed first (Select.outlineCtes d ctes)) (Select.writeCtes d first ctes f)
  | [], first, o, f, h => by
    rw [Select.writeCtes,Select.outlineCtes,listed,List.append_nil]
    exact .written h.loosen
  | ⟨name,columns,query,_⟩ :: ctes, first, o, f, h => by
    rw [Select.writeCtes,Select.outlineCtes,listed]
    refine (select query ((h.separate).cteHead name columns)).andThen fun h => ?_
    simpa only [List.append_assoc] using selectCtes ctes (h.keyword ")" rfl).loosen

theorem selectSource : ∀ (source : Option (Source Select)) {o : Outline} {f : Fragment},
    Outlined d true o f → Drawn d (o ++ Select.outlineSource d source) (Select.writeSource d source f)
  | none, o, f, h => by
    rw [Select.writeSource,Select.outlineSource,List.append_nil]
    exact .written h.loosen
  | some (.table name), o, f, h => by
    rw [Select.writeSource,Select.outlineSource,← List.append_assoc]
    exact .written ((h.text " FROM ").text _).loosen
  | some (.subquery query label), o, f, h => by
    rw [Select.writeSource,Select.outlineSource]
    refine (select query (h.text " FROM (")).andThen fun h => ?_
    have labelled := (h.keyword ") AS " rfl).name label
    exact .written (by simpa only [List.append_assoc] using labelled)

theorem selectCombined : ∀ (combined : List (SetOp × Select)) {o : Outline} {f : Fragment},
    Outlined d false o f →
    Drawn d (o ++ Select.outlineCombined d combined) (Select.writeCombined d combined f)
  | [], o, f, h => by
    rw [Select.writeCombined,Select.outlineCombined,List.append_nil]
    exact .written h
  | (op,query) :: rest, o, f, h => by
    rw [Select.writeCombined,Select.outlineCombined]
    have opened := (h.keyword op.keyword (by cases op <;> rfl)).text "("
    refine (select query opened).andThen fun h => ?_
    simpa only [List.append_assoc] using selectCombined rest (h.keyword ")" rfl).loosen
end

end Outlined

/-! ## Names of an outline -/

namespace Select

theorem names_cteHead (name : String) (columns : List String) :
    names (cteHead name columns) = name :: columns := by
  unfold cteHead
  split
  next none => simp [List.isEmpty_iff.mp none]
  next => simp

mutual
theorem names_outline (d : Dialect) : ∀ q : Select, names (q.outline d) = q.quotedNames
  | ⟨ctes,columns,exprs,isDistinct,source,joins,conditions,grouping,groupConditions,ordering,limit,
      offset,combined,_⟩ => by
    have inCtes := names_outlineCtes d ctes
    have inSource := names_outlineSource d source
    have inCombined := names_outlineCombined d combined
    rw [outline,quotedNames]
    simp [inCtes,inSource,inCombined,apply_ite names]

theorem names_outlineCtes (d : Dialect) : ∀ ctes : List (Cte Select),
    (outlineCtes d ctes).flatMap names = quotedCtes ctes
  | [] => rfl
  | ⟨name,columns,query,_⟩ :: ctes => by
    rw [outlineCtes,quotedCtes,List.flatMap_cons,names_outlineCtes d ctes]
    simp [names_cteHead,names_outline d query]

theorem names_outlineSource (d : Dialect) : ∀ source : Option (Source Select),
    names (outlineSource d source) = quotedSource source
  | none => rfl
  | some (.table name) => by simp [outlineSource,quotedSource]
  | some (.subquery query label) => by simp [outlineSource,quotedSource,names_outline d query]

theorem names_outlineCombined (d : Dialect) : ∀ combined : List (SetOp × Select),
    names (outlineCombined d combined) = quotedCombined combined
  | [] => rfl
  | (op,query) :: rest => by
    simp [outlineCombined,quotedCombined,names_outline d query,names_outlineCombined d rest]
end

end Select

/-! ## Reading the names -/

namespace Upsert

/-- The columns of the conflict target, where it is written. -/
def aimed (d : Dialect) (q : Upsert) : List String :=
  match d with
  | .postgres | .sqlite => q.target
  | .mysql => []

/-- The columns that a conflict assigns. -/
def assigned (d : Dialect) (q : Upsert) : List String :=
  match d with
  | .postgres | .sqlite => q.overwritten
  | .mysql => if q.overwritten.isEmpty then q.target.take 1 else q.overwritten

end Upsert

@[simp] theorem Outline.names_returned (d : Dialect) (columns : List String) :
    names (returned d columns) = [] := by
  simp [returned,apply_ite names]

theorem Insert.names_base (d : Dialect) (q : Insert) : names (q.base d) = q.columns := by
  unfold Insert.base
  split
  next none =>
    have bare : q.columns = [] := by simpa [columns,KeyMap.keys,KeyMap.isEmpty] using none
    simp [bare]
  next => simp [List.flatMap_map]

theorem Upsert.names_resolution (d : Dialect) (q : Upsert) :
    names (q.resolution d) = q.aimed d ++ (q.assigned d).flatMap fun c => [c,c] := by
  have proposed (columns : List String) :
      (columns.map (proposal d)).flatMap names = columns.flatMap fun c => [c,c] := by
    rw [List.flatMap_map]
    cases d <;> simp [proposal]
  cases d with
  | postgres | sqlite =>
    unfold resolution
    dsimp only
    split
    next none => simp [aimed,assigned,List.isEmpty_iff.mp none]
    next => simp [aimed,assigned,proposed]
  | mysql =>
    unfold resolution assigned
    dsimp only
    split
    next none => cases q.target <;> simp [aimed]
    next => simp [aimed,proposed]

theorem Insert.names_outline (d : Dialect) (q : Insert) : names (q.outline d) = q.columns := by
  rw [outline,names_append,q.names_base,names_returned,List.append_nil]

theorem Insert.namesAt?_of_build {q : Insert} {d : Dialect} {s : Statement} (built : q.build d = .ok s) :
    s.namesAt? d (q.outline d) = some q.columns := by
  have drawn : Drawn d (q.outline d) ((q.writeTo d .empty).returning d q.returning) :=
    (Outlined.insert q).returning q.returning
  rw [drawn.namesAt? (Fragment.buildReturning_eq_ok built).2,q.names_outline]

theorem Upsert.names_outline (d : Dialect) (q : Upsert) : names (q.outline d) =
    q.insert.columns ++ q.aimed d ++ (q.assigned d).flatMap fun c => [c,c] := by
  rw [outline,names_append,names_append,q.insert.names_base,q.names_resolution,names_returned,
    List.append_nil,List.append_assoc]

theorem Update.names_outline (d : Dialect) (q : Update) : names (q.outline d) = q.fields.keys := by
  have targets : (q.fields.entries.map target).flatMap names = q.fields.keys := by
    rw [List.flatMap_map,KeyMap.keys,List.map_eq_flatMap]
    simp [target]
  simp [outline,targets]

theorem BatchInsert.names_outline (d : Dialect) (q : BatchInsert) :
    names (q.outline d) = q.columns.keys := by
  simp [outline,row,List.flatMap_map]

theorem BatchUpdate.names_outline (d : Dialect) (q : BatchUpdate) :
    names (q.outline d) = q.columns.flatMap (fun c => [c,q.key,c]) ++ [q.key] := by
  simp [outline,target,List.flatMap_map]

/-- A lexer takes a quoted name exactly as it was given, and in every statement the names that stand
where columns, targets, assignments, WITH queries and labels belong are the given ones in order. -/
theorem quoted_names_read (d : Dialect) :
    (∀ (text rest : List Char) (n : String), d.readQuoted? text = some (n.toList,rest) ↔
      text = (d.quote n).toList ++ rest ∧ rest.head? ≠ some d.quoteMark) ∧
    Function.Injective d.quote ∧
    (∀ (q : Insert) (s : Statement), q.build d = .ok s →
      s.namesAt? d (q.outline d) = some q.columns) ∧
    (∀ (q : Upsert) (s : Statement), q.build d = .ok s →
      s.namesAt? d (q.outline d) =
        some (q.insert.columns ++ q.aimed d ++ (q.assigned d).flatMap fun c => [c,c])) ∧
    (∀ (q : Update) (s : Statement), q.build d = .ok s →
      s.namesAt? d (q.outline d) = some q.fields.keys) ∧
    (∀ (q : BatchInsert) (s : Statement), q.build d = .ok s →
      s.namesAt? d (q.outline d) = some q.columns.keys) ∧
    (∀ (q : BatchUpdate) (s : Statement), q.build d = .ok s →
      s.namesAt? d (q.outline d) =
        some (q.columns.flatMap (fun c => [c,q.key,c]) ++ [q.key])) ∧
    (∀ (q : Select) (s : Statement), q.build d = .ok s →
      s.namesAt? d (q.outline d) = some q.quotedNames) := by
  refine ⟨?lexer,d.quote_injective,?insert,?upsert,?update,?batchInsert,?batchUpdate,?select⟩
  case lexer =>
    intro text rest n
    rw [Dialect.quote,String.toList_ofList]
    exact Dialect.readQuoted?_eq_some_iff
  case insert => exact fun q s built => Insert.namesAt?_of_build built
  case upsert =>
    intro q s built
    rw [q.build_eq] at built
    obtain ⟨accepted,built⟩ := Fragment.buildReturning_eq_ok built
    rw [(Outlined.upsert q (q.refusal?_eq_none_iff.mp accepted)).namesAt? built,q.names_outline]
  case update =>
    intro q s built
    rw [(Outlined.update q).namesAt? (Fragment.buildReturning_eq_ok built).2,q.names_outline]
  case batchInsert =>
    intro q s built
    rw [(Outlined.batchInsert q).namesAt? (Fragment.buildReturning_eq_ok built).2,q.names_outline]
  case batchUpdate =>
    intro q s built
    rw [BatchUpdate.build] at built
    split at built
    next => cases built
    next =>
      split at built
      next => cases built
      next => rw [(Outlined.batchUpdate q).namesAt? built,q.names_outline]
  case select =>
    intro q s built
    have drawn : Drawn d (q.outline d) (q.writeTo d .empty) := Outlined.start.select q
    rw [drawn.namesAt? built,q.names_outline]

theorem quoted_names_read_marks :
    let q := (Upsert.into "t" (.ofList [("a\"",.int 1),("b, c",.int 2)])).onConflict ["a\""]
    let r : Select := { Select.star with
      ctes := [⟨"w (",["x\"","y"],Select.ofColumns ["1"],false⟩]
      source := some (.subquery (Select.ofColumns ["2"]) "; --") }
    (∃ s, q.build .postgres = .ok s ∧
      s.namesAt? .postgres (q.outline .postgres) = some ["a\"","b, c","a\"","b, c","b, c"]) ∧
    ∃ s, r.build .mysql = .ok s ∧
      s.namesAt? .mysql (r.outline .mysql) = some ["w (","x\"","y","; --"] := by
  intro q r
  constructor
  · obtain ⟨-,-,-,upsert,-⟩ := quoted_names_read .postgres
    exact ⟨_,rfl,upsert q _ rfl⟩
  · obtain ⟨-,-,-,-,-,-,-,select⟩ := quoted_names_read .mysql
    exact ⟨_,rfl,select r _ rfl⟩

end ParamSql
