import ParamSql.Proofs.Calls
import ParamSql.Select.Compile

/-! The calls that construct a SELECT, clause by clause. Whether a call fails and what it adds depend on
the call alone, so a SELECT is gathered from its calls. Main statement: calls on different clauses can
change places. -/
namespace ParamSql.Select

/-- What a call adds to the clauses of a SELECT. -/
structure Additions where
  ctes : List (Cte Select) := []
  columns : List String := []
  exprs : List (String × List Value) := []
  distinct : Option Bool := none
  source : Option (Source Select) := none
  joins : List Join := []
  conditions : List Condition := []
  grouping : List String := []
  groupConditions : List Condition := []
  ordering : List String := []
  limit : Option UInt64 := none
  offset : Option UInt64 := none
  combined : List (SetOp × Select) := []
  misuse : Option Misuse := none

namespace Call

def additions : Call → Additions
  | columns names => { columns := names.filter (!Text.isBlankText ·) }
  | expr sql args =>
    { exprs := [(sql,args)].filter fun e => (Fragment.mismatch? e.1 e.2).isNone
      misuse := (Fragment.mismatch? sql args).map .selectMarkers }
  | distinct isDistinct => { distinct := some isDistinct }
  | fromTable table => { source := some (.table table) }
  | fromTableAs table label => { source := some (.table (table ++ " " ++ label)) }
  | fromSubquery query label => { source := some (.subquery query (Text.trimmed label)) }
  | join kind table on _ =>
    { joins := [⟨kind,table,some on⟩]
      misuse := on.misuse?.map .deferred }
  | crossJoin table => { joins := [⟨.cross,table,none⟩] }
  | filter call =>
    { conditions := call.accepted
      misuse := call.refusal?.map .deferred }
  | groupBy names => { grouping := names.filter (!Text.isBlankText ·) }
  | having sql args =>
    { groupConditions := [Condition.raw sql args].filter (·.misuse?.isNone)
      misuse := (Condition.raw sql args).misuse?.map .deferred }
  | havingExpr e => { groupConditions := [.expr e] }
  | orderBy entry => { ordering := [entry].filter (!Text.isBlankText ·) }
  | limit n => { limit := some n }
  | offset n => { offset := some n }
  | paginate page perPage =>
    { limit := some perPage
      offset := some (UInt64.ofNat (min ((page.toNat - 1) * perPage.toNat) (UInt64.size - 1))) }
  | withQuery name names query => { ctes := [⟨Text.trimmed name,names,query,false⟩] }
  | withRecursive name names query => { ctes := [⟨Text.trimmed name,names,query,true⟩] }
  | combine op other => { combined := other.toList.map (op,·) }

/-- Why a call fails at once. -/
def fault? : Call → Option Error
  | fromSubquery _ label =>
    if Text.isBlankText label then some (.validation .unnamedSubquery) else none
  | withQuery name _ _ => if Text.isBlankText name then some (.validation .unnamedCte) else none
  | withRecursive name _ query =>
    if query.combined.isEmpty || !query.combined.all (·.1.isUnion) then
      some (.validation (.recursiveWithoutUnion name))
    else if Text.isBlankText name then some (.validation .unnamedCte) else none
  | _ => none

end Call

namespace Additions

/-- Additions are put behind what a clause holds; a clause of one value takes the new one, and the first
misuse stays. -/
def addTo (a : Additions) (q : Select) : Select :=
  ⟨q.ctes ++ a.ctes,q.columns ++ a.columns,q.exprs ++ a.exprs,a.distinct.getD q.isDistinct,
    a.source.or q.source,q.joins ++ a.joins,⟨q.conditions.members ++ a.conditions⟩,
    q.grouping ++ a.grouping,⟨q.groupConditions.members ++ a.groupConditions⟩,
    q.ordering ++ a.ordering,a.limit.or q.limit,a.offset.or q.offset,q.combined ++ a.combined,
    q.misuse.or a.misuse⟩

/-- The SELECT that has been given no more than this. -/
def toSelect (a : Additions) : Select :=
  ⟨a.ctes,a.columns,a.exprs,a.distinct.getD false,a.source,a.joins,⟨a.conditions⟩,a.grouping,
    ⟨a.groupConditions⟩,a.ordering,a.limit,a.offset,a.combined,a.misuse⟩

def ofCalls (calls : List Call) : Additions where
  ctes := calls.flatMap (·.additions.ctes)
  columns := calls.flatMap (·.additions.columns)
  exprs := calls.flatMap (·.additions.exprs)
  distinct := (calls.filterMap (·.additions.distinct)).getLast?
  source := (calls.filterMap (·.additions.source)).getLast?
  joins := calls.flatMap (·.additions.joins)
  conditions := calls.flatMap (·.additions.conditions)
  grouping := calls.flatMap (·.additions.grouping)
  groupConditions := calls.flatMap (·.additions.groupConditions)
  ordering := calls.flatMap (·.additions.ordering)
  limit := (calls.filterMap (·.additions.limit)).getLast?
  offset := (calls.filterMap (·.additions.offset)).getLast?
  combined := calls.flatMap (·.additions.combined)
  misuse := calls.findSome? (·.additions.misuse)

def append (a b : Additions) : Additions :=
  ⟨a.ctes ++ b.ctes,a.columns ++ b.columns,a.exprs ++ b.exprs,b.distinct.or a.distinct,
    b.source.or a.source,a.joins ++ b.joins,a.conditions ++ b.conditions,a.grouping ++ b.grouping,
    a.groupConditions ++ b.groupConditions,a.ordering ++ b.ordering,b.limit.or a.limit,
    b.offset.or a.offset,a.combined ++ b.combined,a.misuse.or b.misuse⟩

instance : Append Additions := ⟨append⟩

theorem ofCalls_append (calls more : List Call) :
    ofCalls (calls ++ more) = ofCalls calls ++ ofCalls more := by
  show _ = append _ _
  simp [ofCalls,append]

theorem ofCalls_singleton (call : Call) : ofCalls [call] = call.additions := by
  have last {α : Type} (added : Call → Option α) : ([call].filterMap added).getLast? = added call := by
    cases same : added call <;> simp [same]
  simp [ofCalls,last]

theorem addTo_toSelect (a b : Additions) : a.addTo b.toSelect = (b ++ a).toSelect := by
  show _ = (append b a).toSelect
  cases distinct : a.distinct <;> simp [addTo,toSelect,append,distinct]

end Additions

/-- The SELECT that calls make if none of them fails. -/
def gathered (calls : List Call) : Select := (Additions.ofCalls calls).toSelect

theorem apply_eq (q : Select) (call : Call) :
    call.apply q = call.fault?.elim (.ok (call.additions.addTo q)) .error := by
  obtain ⟨ctes,columns,exprs,isDistinct,source,joins,⟨conditions⟩,grouping,⟨groupConditions⟩,ordering,
    limit,offset,combined,misuse⟩ := q
  cases call with
  | expr sql args =>
    cases mismatch : Fragment.mismatch? sql args <;>
      simp [Call.apply,addExpr,refuse,mismatch,Call.fault?,Call.additions,Additions.addTo]
  | join kind table on conditional =>
    cases misused : on.misuse? <;>
      simp [Call.apply,Select.join,refuse,misused,Call.fault?,Call.additions,Additions.addTo]
  | filter call => simp [Call.apply,apply_where,Call.fault?,Call.additions,Additions.addTo]
  | having sql args =>
    cases mismatch : Fragment.mismatch? sql args <;>
      simp [Call.apply,Select.having,refuse,mismatch,Condition.misuse?,ConditionGroup.push,Call.fault?,
        Call.additions,Additions.addTo]
  | orderBy entry =>
    cases blank : Text.isBlankText entry <;>
      simp [Call.apply,Select.orderBy,blank,Call.fault?,Call.additions,Additions.addTo]
  | combine op other =>
    cases other <;> simp [Call.apply,Select.combine,Call.fault?,Call.additions,Additions.addTo]
  | fromSubquery query label =>
    cases blank : Text.isBlankText label <;>
      simp [Call.apply,Select.fromSubquery,blank,Call.fault?,Call.additions,Additions.addTo]
  | withQuery name names query =>
    cases blank : Text.isBlankText name <;>
      simp [Call.apply,Select.withQuery,addCte,blank,Call.fault?,Call.additions,Additions.addTo]
  | withRecursive name names query =>
    cases unions : query.combined.isEmpty || !query.combined.all (·.1.isUnion) <;>
      cases blank : Text.isBlankText name <;>
        simp [Call.apply,Select.withRecursive,addCte,unions,blank,Call.fault?,Call.additions,
          Additions.addTo]
  | _ =>
    simp [Call.apply,addColumns,setDistinct,Select.fromTable,Select.fromTableAs,Select.join,
      Select.groupBy,Select.havingExpr,ConditionGroup.push,setLimit,setOffset,Select.paginate,
      Call.fault?,Call.additions,Additions.addTo]

theorem made?_eq (calls : List Call) :
    made? calls = (calls.findSome? (·.fault?)).elim (.ok (gathered calls)) .error := by
  induction calls using List.reverseRecOn with
  | nil => rfl
  | append_singleton calls call ih =>
    rw [made?] at ih
    rw [made?,List.foldlM_append,ih,List.findSome?_append]
    cases calls.findSome? (·.fault?) with
    | some e => rfl
    | none =>
      show (call.apply (gathered calls) >>= pure) = _
      rw [bind_pure,apply_eq]
      cases failed : call.fault? with
      | some e => simp [failed]
      | none =>
        have added : call.additions.addTo (gathered calls) = gathered (calls ++ [call]) := by
          rw [gathered,Additions.addTo_toSelect,← Additions.ofCalls_singleton,
            ← Additions.ofCalls_append,gathered]
        simp [failed,added]

/-- A call can take the place of one that does the same. -/
theorem made?_changed (before after : List Call) {call other : Call}
    (same : ∀ q, call.apply q = other.apply q) :
    made? (before ++ call :: after) = made? (before ++ other :: after) := by
  simp only [made?,List.foldlM_append,List.foldlM_cons,same]

theorem made?_skip (before after : List Call) {call : Call} (idle : ∀ q, call.apply q = .ok q) :
    made? (before ++ call :: after) = made? (before ++ after) := by
  simp only [made?,List.foldlM_append,List.foldlM_cons,idle]
  rfl

theorem apply_orderBy_of_blank {entry : String} (blank : Text.isBlankText entry) (q : Select) :
    (Call.orderBy entry).apply q = .ok q := by
  rw [Call.apply,orderBy,if_pos blank]

/-! ## The clauses that calls are about -/

inductive Clause where
  | ctes
  | columns
  | exprs
  | distinct
  | source
  | joins
  | conditions
  | grouping
  | groupConditions
  | ordering
  | limit
  | offset
  | combined
  deriving DecidableEq

namespace Clause

/-- The clauses of one value, of which a later call takes the place of an earlier one. -/
def isSingle : Clause → Bool
  | distinct | source | limit | offset => true
  | _ => false

/-- A page is a limit and an offset. -/
def all : Call → List Clause
  | .columns _ => [columns]
  | .expr .. => [exprs]
  | .distinct _ => [distinct]
  | .fromTable _ | .fromTableAs .. | .fromSubquery .. => [source]
  | .join .. | .crossJoin _ => [joins]
  | .filter _ => [conditions]
  | .groupBy _ => [grouping]
  | .having .. | .havingExpr _ => [groupConditions]
  | .orderBy _ => [ordering]
  | .limit _ => [limit]
  | .offset _ => [offset]
  | .paginate .. => [limit,offset]
  | .withQuery .. | .withRecursive .. => [ctes]
  | .combine .. => [combined]

/-- The calls on a clause, in their order. -/
def calls (clause : Clause) (cs : List Call) : List Call := cs.filter fun call => clause ∈ all call

/-- Two lists of calls have the same calls on a clause, or the same last one if no other counts. -/
def Agree (clause : Clause) (cs others : List Call) : Prop :=
  if clause.isSingle then (clause.calls cs).getLast? = (clause.calls others).getLast?
  else clause.calls cs = clause.calls others

variable {α : Type} {clause : Clause} {cs others : List Call}

/-- A clause of many values has those of the calls on it. -/
theorem Agree.flatMap (agree : clause.Agree cs others) (many : clause.isSingle = false)
    {added : Call → List α} (elsewhere : ∀ call, clause ∉ all call → added call = []) :
    cs.flatMap added = others.flatMap added := by
  have own (cs : List Call) : cs.flatMap added = (clause.calls cs).flatMap added := by
    induction cs with
    | nil => rfl
    | cons call cs ih =>
      rw [List.flatMap_cons,ih,calls,calls,List.filter_cons]
      split
      next => rw [List.flatMap_cons]
      next absent => rw [elsewhere call (by simpa using absent),List.nil_append]
  rw [Agree,many,if_neg Bool.false_ne_true] at agree
  rw [own,own others,agree]

/-- A clause of one value has that of the last call on it. -/
theorem Agree.getLast? (agree : clause.Agree cs others) (single : clause.isSingle)
    {added : Call → Option α} (own : ∀ call, (added call).isSome ↔ clause ∈ all call) :
    (cs.filterMap added).getLast? = (others.filterMap added).getLast? := by
  have last (cs : List Call) : (cs.filterMap added).getLast? = (clause.calls cs).getLast?.bind added := by
    induction cs using List.reverseRecOn with
    | nil => rfl
    | append_singleton cs call ih =>
      rw [calls] at ih ⊢
      by_cases concerned : clause ∈ all call
      · obtain ⟨value,same⟩ := Option.isSome_iff_exists.mp ((own call).mpr concerned)
        simp [concerned,same]
      · have none : added call = none := by simpa [← own call] using concerned
        simp [concerned,none,ih]
  rw [Agree,single,if_pos rfl] at agree
  rw [last,last others,agree]

end Clause

theorem gathered_eq_of_agree {calls others : List Call}
    (agree : ∀ clause : Clause, clause.Agree calls others)
    (misuse : (gathered calls).misuse = (gathered others).misuse) : gathered calls = gathered others := by
  have distinct : (calls.filterMap (·.additions.distinct)).getLast? =
      (others.filterMap (·.additions.distinct)).getLast? :=
    (agree .distinct).getLast? rfl fun call => by cases call <;> simp [Clause.all,Call.additions]
  simp only [gathered,Additions.toSelect,Additions.ofCalls,Select.mk.injEq,ConditionGroup.mk.injEq]
  refine ⟨(agree .ctes).flatMap rfl ?_,(agree .columns).flatMap rfl ?_,(agree .exprs).flatMap rfl ?_,
    congrArg (·.getD false) distinct,(agree .source).getLast? rfl ?_,(agree .joins).flatMap rfl ?_,
    (agree .conditions).flatMap rfl ?_,(agree .grouping).flatMap rfl ?_,
    (agree .groupConditions).flatMap rfl ?_,(agree .ordering).flatMap rfl ?_,
    (agree .limit).getLast? rfl ?_,(agree .offset).getLast? rfl ?_,(agree .combined).flatMap rfl ?_,misuse⟩
  -- Every call adds to its own clauses and to no other.
  all_goals intro call
  all_goals cases call <;> simp [Clause.all,Call.additions]

theorem eq_gathered {calls : List Call} {q : Select} (made : made? calls = .ok q) :
    q = gathered calls := by
  rw [made?_eq] at made
  cases failed : calls.findSome? (·.fault?) with
  | some e => rw [failed] at made; cases made
  | none => rw [failed] at made; exact (Except.ok.inj made).symm

/-- Calls that are neither refused nor to be reported make the same statement and the same count in
every order that keeps the order within each clause. -/
theorem agreeing_calls_build_alike {calls others : List Call} {q r : Select} (made : made? calls = .ok q)
    (remade : made? others = .ok r) (unreported : q.misuse = none) (silent : r.misuse = none)
    (agree : ∀ clause : Clause, clause.Agree calls others) (d : Dialect) :
    q.build d = r.build d ∧ q.buildCount d = r.buildCount d := by
  obtain rfl := eq_gathered made
  obtain rfl := eq_gathered remade
  rw [gathered_eq_of_agree agree (unreported.trans silent.symm)]
  exact ⟨rfl,rfl⟩

/-- Two orders of the calls for a page; other limits and tables stand before the last ones. -/
theorem agreeing_calls_build_alike_page :
    let calls : List Call := [.columns ["id"],.fromTable "users",.distinct true,
      .filter (.filterExpr (.eq "open" (.bool true))),.filter (.filter (.raw "age > ?" [.int 18])),
      .orderBy "id desc",.paginate 2 10]
    let others : List Call := [.limit 3,.fromTable "u",.filter (.filterExpr (.eq "open" (.bool true))),
      .paginate 2 10,.orderBy "id desc",.distinct true,.filter (.filter (.raw "age > ?" [.int 18])),
      .columns ["id"],.fromTable "users"]
    ∃ q r, made? calls = .ok q ∧ made? others = .ok r ∧ q.misuse = none ∧ r.misuse = none ∧
      (∀ clause : Clause, clause.Agree calls others) ∧
      r.build .postgres = .ok ⟨"SELECT DISTINCT \"id\" FROM \"users\" WHERE \"open\" = $1 " ++
        "AND (age > $2) ORDER BY \"id\" DESC LIMIT 10 OFFSET 10",[.bool true,.int 18],none,none⟩ ∧
      q.buildCount .postgres = r.buildCount .postgres := by
  intro calls others
  have made : made? calls = .ok (gathered calls) := rfl
  have remade : made? others = .ok (gathered others) := rfl
  have agree : ∀ clause : Clause, clause.Agree calls others := fun clause => by cases clause <;> rfl
  obtain ⟨same,counted⟩ := agreeing_calls_build_alike made remade rfl rfl agree .postgres
  refine ⟨_,_,made,remade,rfl,rfl,agree,?_,counted⟩
  rw [← same]
  decide

end ParamSql.Select
