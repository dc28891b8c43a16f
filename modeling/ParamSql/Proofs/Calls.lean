import ParamSql.Delete
import ParamSql.Select
import ParamSql.Update
import Mathlib.Data.List.Induction

/-! The calls that construct a statement, as data. A statement is what a list of calls makes of the
initial one. The conditions of an UPDATE or DELETE are those of its calls that were not refused, and
its misuse is the first refusal; what the calls say of the rows is told once for both statements. -/
namespace ParamSql

/-- The calls of all builders with a WHERE clause. -/
inductive WhereCall where
  | filter (c : Condition)
  | filterExpr (e : Expr)
  | equalIfGiven (column : String) (value : Option Value)

namespace WhereCall

variable {β : Type} [Filterable β]

def apply (b : β) : WhereCall → β
  | filter c => Filterable.filter b c
  | filterExpr e => Filterable.filterExpr b e
  | equalIfGiven column value => Filterable.whereEqIfGiven b column value

/-- The condition that a call is given, if it is given one. -/
def condition? : WhereCall → Option Condition
  | filter c => some c
  | filterExpr e => some (.expr e)
  | equalIfGiven column value => value.map fun v => .expr (.eq column v)

def refusal? (call : WhereCall) : Option Misuse := call.condition?.bind (·.misuse?)

/-- The conditions that a call adds. -/
def accepted (call : WhereCall) : List Condition :=
  call.condition?.toList.filter (·.misuse?.isNone)

/-- Every call is a `filter`: an expression is never refused by a call. -/
theorem apply_eq_filter (b : β) (call : WhereCall) :
    call.apply b = call.condition?.elim b (Filterable.filter b) := by
  cases call with
  | filter c | filterExpr e => rfl
  | equalIfGiven column value => cases value <;> rfl

theorem apply_eq (b : β) (call : WhereCall) : call.apply b =
    Filterable.keep b ⟨(Filterable.conditions b).members ++ call.accepted⟩
      ((Filterable.misuse b).or (call.refusal?.map .deferred)) := by
  rw [apply_eq_filter,accepted,refusal?]
  cases call.condition? with
  | none => simpa using (Filterable.keep_self b).symm
  | some c => cases h : c.misuse? <;> simp [Filterable.filter,ConditionGroup.push,h]

end WhereCall

/-- The calls of all builders that set columns. -/
inductive SetCall where
  | set (column : String) (value : Value)
  | setIfGiven (column : String) (value : Option Value)
  | setRaw (column sql : String)
  | setAll (values : KeyMap Value)

def SetCall.assign (fields : Assignments) : SetCall → Assignments
  | set column value => fields.insert column (.value value)
  | setIfGiven column value => value.elim fields (fields.insert column <| .value ·)
  | setRaw column sql => fields.insert column (.raw sql)
  | setAll values => fields.setAll values

/-! ## The rows that are changed -/

namespace Scope

/-- The calls that UPDATE and DELETE have in common. -/
inductive Call where
  | filter (call : WhereCall)
  | returning (columns : List String)
  | allRows

namespace Call

def apply (s : Scope) : Call → Scope
  | filter call => call.apply s
  | returning columns => s.addReturning columns
  | allRows => s.ofAllRows

def where? : Call → Option WhereCall
  | filter call => some call
  | _ => none

def returned : Call → List String
  | returning columns => columns
  | _ => []

def isAllRows : Call → Bool
  | allRows => true
  | _ => false

end Call

/-- The scope that a list of calls makes. -/
def made (calls : List Call) : Scope := calls.foldl Call.apply empty

theorem apply_eq (s : Scope) (call : Call) : call.apply s =
    ⟨⟨s.conditions.members ++ call.where?.toList.flatMap (·.accepted)⟩,s.returning ++ call.returned,
      s.allRows || call.isAllRows,s.misuse.or ((call.where?.bind (·.refusal?)).map .deferred)⟩ := by
  cases call with
  | filter call =>
    rw [Call.apply,WhereCall.apply_eq]
    simp [Filterable.keep,Filterable.conditions,Filterable.misuse,Call.where?,Call.returned,
      Call.isAllRows]
  | _ => simp [Call.apply,addReturning,ofAllRows,Call.where?,Call.returned,Call.isAllRows]

theorem foldl_apply (s : Scope) (calls : List Call) : calls.foldl Call.apply s =
    ⟨⟨s.conditions.members ++ (calls.filterMap (·.where?)).flatMap (·.accepted)⟩,
      s.returning ++ calls.flatMap (·.returned),s.allRows || calls.any (·.isAllRows),
      s.misuse.or (((calls.filterMap (·.where?)).findSome? (·.refusal?)).map .deferred)⟩ := by
  induction calls generalizing s with
  | nil => simp
  | cons call calls ih =>
    rw [List.foldl_cons,ih,apply_eq]
    cases call with
    | filter call =>
      cases refused : call.refusal? <;> simp [Call.where?,refused,Bool.or_assoc]
    | _ => simp [Call.where?,Bool.or_assoc]

theorem made_eq (calls : List Call) : made calls =
    ⟨⟨(calls.filterMap (·.where?)).flatMap (·.accepted)⟩,calls.flatMap (·.returned),
      calls.any (·.isAllRows),
      ((calls.filterMap (·.where?)).findSome? (·.refusal?)).map .deferred⟩ := by
  rw [made,foldl_apply]
  simp [empty,ConditionGroup.empty]

theorem allRows_made_iff (calls : List Call) : (made calls).allRows ↔ .allRows ∈ calls := by
  rw [made_eq,List.any_eq_true]
  constructor
  · rintro ⟨call,member,all⟩
    cases call <;> first | exact member | cases all
  · exact fun member => ⟨_,member,rfl⟩

end Scope

/-! ## UPDATE -/

namespace Update

inductive Call where
  | set (call : SetCall)
  | scope (call : Scope.Call)

namespace Call

abbrev filter (call : WhereCall) : Call := scope (.filter call)

abbrev returning (columns : List String) : Call := scope (.returning columns)

abbrev allRows : Call := scope .allRows

def apply (q : Update) : Call → Update
  | set (.set column value) => q.set column value
  | set (.setIfGiven column value) => q.setIfGiven column value
  | set (.setRaw column sql) => q.setRaw column sql
  | set (.setAll values) => q.setAll values
  | scope (.filter call) => call.apply q
  | scope (.returning columns) => q.addReturning columns
  | scope .allRows => q.ofAllRows

def set? : Call → Option SetCall
  | set call => some call
  | scope _ => none

def scope? : Call → Option Scope.Call
  | set _ => none
  | scope call => some call

def assign (fields : Assignments) (call : Call) : Assignments := call.set?.elim fields (·.assign fields)

def where? (call : Call) : Option WhereCall := call.scope?.bind (·.where?)

def returned (call : Call) : List String := call.scope?.elim [] (·.returned)

def isAllRows (call : Call) : Bool := call.scope?.any (·.isAllRows)

end Call

/-- The UPDATE that a list of calls makes. -/
def made (table : String) (calls : List Call) : Update := calls.foldl Call.apply (of table)

theorem apply_eq (q : Update) (call : Call) : call.apply q =
    ⟨call.scope?.elim q.toScope (·.apply q.toScope),q.table,call.assign q.fields⟩ := by
  cases call with
  | set call =>
    cases call with
    | setIfGiven column value => cases value <;> rfl
    | _ => rfl
  | scope call =>
    cases call with
    | filter call =>
      show call.apply q = ⟨call.apply q.toScope,q.table,q.fields⟩
      rw [WhereCall.apply_eq,WhereCall.apply_eq]
      rfl
    | _ => rfl

theorem made_eq (table : String) (calls : List Call) : made table calls =
    ⟨.made (calls.filterMap (·.scope?)),table,calls.foldl Call.assign .empty⟩ := by
  have folded (q : Update) : calls.foldl Call.apply q =
      ⟨(calls.filterMap (·.scope?)).foldl Scope.Call.apply q.toScope,q.table,
        calls.foldl Call.assign q.fields⟩ := by
    induction calls generalizing q with
    | nil => rfl
    | cons call calls ih =>
      rw [List.foldl_cons,ih,apply_eq]
      cases call <;> rfl
  exact folded (of table)

/-- What the calls say of the rows, among those that set columns. -/
theorem scope_calls (calls : List Call) :
    (calls.filterMap (·.scope?)).filterMap (·.where?) = calls.filterMap (·.where?) ∧
      (calls.filterMap (·.scope?)).flatMap (·.returned) = calls.flatMap (·.returned) ∧
      (calls.filterMap (·.scope?)).any (·.isAllRows) = calls.any (·.isAllRows) := by
  refine ⟨List.filterMap_filterMap,?_,?_⟩
  · induction calls with
    | nil => rfl
    | cons call calls ih =>
      cases call with
      | set call => exact ih
      | scope call => exact congrArg (call.returned ++ ·) ih
  · induction calls with
    | nil => rfl
    | cons call calls ih =>
      cases call with
      | set call => exact ih
      | scope call => exact congrArg (call.isAllRows || ·) ih

end Update

/-! ## DELETE -/

namespace Delete

abbrev Call := Scope.Call

def apply (q : Delete) : Call → Delete
  | .filter call => call.apply q
  | .returning columns => q.addReturning columns
  | .allRows => q.ofAllRows

/-- The DELETE that a list of calls makes. -/
def made (table : String) (calls : List Call) : Delete := calls.foldl apply (of table)

theorem apply_eq (q : Delete) (call : Call) : q.apply call = ⟨call.apply q.toScope,q.table⟩ := by
  cases call with
  | filter call =>
    rw [apply,Scope.Call.apply,WhereCall.apply_eq,WhereCall.apply_eq]
    rfl
  | _ => rfl

theorem made_eq (table : String) (calls : List Call) : made table calls = ⟨.made calls,table⟩ := by
  have folded (q : Delete) : calls.foldl apply q = ⟨calls.foldl Scope.Call.apply q.toScope,q.table⟩ := by
    induction calls generalizing q with
    | nil => rfl
    | cons call calls ih => rw [List.foldl_cons,ih,apply_eq,List.foldl_cons]
  exact folded (of table)

end Delete

/-! ## SELECT -/

namespace Select

inductive Call where
  | columns (names : List String)
  | expr (sql : String) (args : List Value)
  | distinct (isDistinct : Bool)
  | fromTable (table : String)
  | fromTableAs (table label : String)
  | fromSubquery (query : Select) (label : String)
  | join (kind : JoinKind) (table : String) (on : Condition) (conditional : kind ≠ .cross)
  | crossJoin (table : String)
  | filter (call : WhereCall)
  | groupBy (names : List String)
  | having (sql : String) (args : List Value)
  | havingExpr (e : Expr)
  | orderBy (entry : String)
  | limit (n : UInt64)
  | offset (n : UInt64)
  | paginate (page perPage : UInt64)
  | withQuery (name : String) (names : List String) (query : Select)
  | withRecursive (name : String) (names : List String) (query : Select)
  | combine (op : SetOp) (other : Option Select)

def Call.apply (q : Select) : Call → Except Error Select
  | columns names => .ok (q.addColumns names)
  | expr sql args => .ok (q.addExpr sql args)
  | distinct isDistinct => .ok (q.setDistinct isDistinct)
  | fromTable table => .ok (q.fromTable table)
  | fromTableAs table label => .ok (q.fromTableAs table label)
  | fromSubquery query label => q.fromSubquery query label
  | join kind table on _ => .ok (q.join kind table (some on))
  | crossJoin table => .ok (q.join .cross table none)
  | filter call => .ok (call.apply q)
  | groupBy names => .ok (q.groupBy names)
  | having sql args => .ok (q.having sql args)
  | havingExpr e => .ok (q.havingExpr e)
  | orderBy entry => .ok (q.orderBy entry)
  | limit n => .ok (q.setLimit n)
  | offset n => .ok (q.setOffset n)
  | paginate page perPage => .ok (q.paginate page perPage)
  | withQuery name names query => q.withQuery name names query
  | withRecursive name names query => q.withRecursive name names query
  | combine op other => .ok (q.combine op other)

/-- The SELECT that a list of calls makes, if no call fails at once. -/
def made? (calls : List Call) : Except Error Select := calls.foldlM Call.apply star

theorem apply_where (q : Select) (call : WhereCall) : call.apply q =
    { q with
      conditions := ⟨q.conditions.members ++ call.accepted⟩
      misuse := q.misuse.or (call.refusal?.map .deferred) } :=
  call.apply_eq q

/-- What holds at the start and is kept by every call that does not fail holds of every SELECT that
calls make. -/
theorem made?_induction {P : List Call → Select → Prop} (start : P [] star)
    (step : ∀ {calls q call next}, P calls q → call.apply q = .ok next → P (calls ++ [call]) next)
    {calls : List Call} {q : Select} (made : made? calls = .ok q) : P calls q := by
  induction calls using List.reverseRecOn generalizing q with
  | nil => cases made; exact start
  | append_singleton calls call ih =>
    rw [made?,List.foldlM_append] at made
    cases before : calls.foldlM Call.apply star with
    | error e => rw [before] at made; cases made
    | ok q =>
      rw [before] at made
      cases applied : call.apply q with
      | error e => simp [bind,Except.bind,applied] at made
      | ok next =>
        simp only [bind,Except.bind,List.foldlM_cons,applied] at made
        cases made
        exact step (ih before) applied

end Select

end ParamSql
