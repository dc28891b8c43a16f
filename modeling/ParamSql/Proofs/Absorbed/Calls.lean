import ParamSql.Proofs.Absorbed
import ParamSql.Proofs.Calls.Select

/-! Expressions that contribute nothing, in the calls that construct a statement. Such an expression may
be a condition of its own, or stand in the expression that a call is given, or in the calls that make a
query given to a call. Main statement: no build changes, in its text, arguments or error. -/
namespace ParamSql

/-! ## Where an expression is put -/

inductive WhereCall.Inserted (x : Expr) : WhereCall → WhereCall → Prop
  | filter {e f : Expr} (inside : x.Inserted e f) : Inserted x (.filter (.expr e)) (.filter (.expr f))
  | filterExpr {e f : Expr} (inside : x.Inserted e f) : Inserted x (.filterExpr e) (.filterExpr f)

/-- `x` put into a list of calls, as a condition of its own or into the expression of a condition; `wrap`
makes a call of a builder of one for a condition. -/
inductive WhereCall.InsertedIn {κ : Type} (wrap : WhereCall → κ) (x : Expr) : List κ → List κ → Prop
  | added (before after : List κ) :
    InsertedIn wrap x (before ++ after) (before ++ wrap (.filterExpr x) :: after)
  | inside (before after : List κ) {call other : WhereCall} (inserted : call.Inserted x other) :
    InsertedIn wrap x (before ++ wrap call :: after) (before ++ wrap other :: after)

namespace Select

/-- The calls that are given a query. -/
inductive Place where
  | subquery (label : String)
  | withQuery (name : String) (names : List String)
  | withRecursive (name : String) (names : List String)
  | combine (op : SetOp)

def Place.call : Place → Select → Call
  | subquery label, query => .fromSubquery query label
  | withQuery name names, query => .withQuery name names query
  | withRecursive name names, query => .withRecursive name names query
  | combine op, query => .combine op (some query)

/-- `x` put into the calls that make a SELECT, or a query inside it in any depth. -/
inductive Inserted (x : Expr) : List Call → List Call → Prop
  | conditions {calls others : List Call} (inserted : WhereCall.InsertedIn .filter x calls others) :
    Inserted x calls others
  | having (before after : List Call) :
    Inserted x (before ++ after) (before ++ .havingExpr x :: after)
  | insideHaving (before after : List Call) {e f : Expr} (inside : x.Inserted e f) :
    Inserted x (before ++ .havingExpr e :: after) (before ++ .havingExpr f :: after)
  | insideOn (before after : List Call) (kind : JoinKind) (table : String) (conditional : kind ≠ .cross)
    {e f : Expr} (inside : x.Inserted e f) :
    Inserted x (before ++ .join kind table (.expr e) conditional :: after)
      (before ++ .join kind table (.expr f) conditional :: after)
  | insideQuery (before after : List Call) (place : Place) {inner changed : List Call} {q r : Select}
    (inside : Inserted x inner changed) (made : made? inner = .ok q) (remade : made? changed = .ok r) :
    Inserted x (before ++ place.call q :: after) (before ++ place.call r :: after)

/-! ## Queries that no writer tells apart -/

def WritesAlike (q r : Select) : Prop := ∀ d out, q.writeTo d out = r.writeTo d out

structure CteAlike (a b : Cte Select) : Prop where
  name : a.name = b.name
  columns : a.columns = b.columns
  isRecursive : a.isRecursive = b.isRecursive
  query : a.query.WritesAlike b.query

inductive SourceAlike : Source Select → Source Select → Prop
  | table (name : String) : SourceAlike (.table name) (.table name)
  | subquery {q r : Select} (alike : q.WritesAlike r) (label : String) :
    SourceAlike (.subquery q label) (.subquery r label)

def MemberAlike (a b : SetOp × Select) : Prop := a.1 = b.1 ∧ a.2.WritesAlike b.2

def JoinAlike (j k : Join) : Prop := ∀ d out, j.writeTo d out = k.writeTo d out

/-- Additions that differ in nothing that is written. -/
structure Additions.Alike (a b : Additions) : Prop where
  ctes : List.Forall₂ CteAlike a.ctes b.ctes
  columns : a.columns = b.columns
  exprs : a.exprs = b.exprs
  distinct : a.distinct = b.distinct
  source : Option.Rel SourceAlike a.source b.source
  joins : List.Forall₂ JoinAlike a.joins b.joins
  conditions : Condition.MembersAlike a.conditions b.conditions
  grouping : a.grouping = b.grouping
  groupConditions : Condition.MembersAlike a.groupConditions b.groupConditions
  ordering : a.ordering = b.ordering
  limit : a.limit = b.limit
  offset : a.offset = b.offset
  combined : List.Forall₂ MemberAlike a.combined b.combined
  misuse : a.misuse = b.misuse

section
variable {ctes others : List (Cte Select)} {combined more : List (SetOp × Select)}

theorem withKeywords_congr (alike : List.Forall₂ CteAlike ctes others) :
    ctes.isEmpty = others.isEmpty ∧ withKeywords ctes = withKeywords others := by
  have recursive : ctes.any (·.isRecursive) = others.any (·.isRecursive) := by
    induction alike with
    | nil => rfl
    | cons same _ ih => rw [List.any_cons,List.any_cons,same.isRecursive,ih]
  have empty : ctes.isEmpty = others.isEmpty := isEmpty_congr alike
  rw [withKeywords,withKeywords,empty,recursive]
  exact ⟨rfl,rfl⟩

theorem writeCtes_congr (d : Dialect) (alike : List.Forall₂ CteAlike ctes others) (first : Bool)
    (out : Fragment) : writeCtes d first ctes out = writeCtes d first others out := by
  induction alike generalizing first out with
  | nil => rfl
  | @cons a b _ _ same _ ih =>
    obtain ⟨name,columns,query,isRecursive⟩ := a
    obtain ⟨_,_,other,_⟩ := b
    obtain ⟨rfl,rfl,-,same⟩ := same
    rw [writeCtes,writeCtes,same]
    simp only [ih]

theorem writeSource_congr (d : Dialect) {s t : Option (Source Select)}
    (alike : Option.Rel SourceAlike s t) (out : Fragment) : writeSource d s out = writeSource d t out := by
  cases alike with
  | none => rfl
  | some same =>
    cases same with
    | table name => rfl
    | subquery same label => rw [writeSource,writeSource,same]

theorem writeJoins_congr (d : Dialect) {js ks : List Join} (alike : List.Forall₂ JoinAlike js ks)
    (out : Fragment) : writeJoins d js out = writeJoins d ks out := by
  induction alike generalizing out with
  | nil => rfl
  | cons same _ ih => rw [writeJoins,writeJoins,same,ih]

theorem writeCombined_congr (d : Dialect) (alike : List.Forall₂ MemberAlike combined more)
    (out : Fragment) : writeCombined d combined out = writeCombined d more out := by
  induction alike generalizing out with
  | nil => rfl
  | @cons a b _ _ same _ ih =>
    obtain ⟨op,query⟩ := a
    obtain ⟨_,other⟩ := b
    obtain ⟨rfl,same⟩ := same
    rw [writeCombined,writeCombined,same]
    simp only [ih]

end

namespace Additions.Alike

variable {a b : Additions}

theorem writesAlike (alike : a.Alike b) : a.toSelect.WritesAlike b.toSelect := by
  intro d out
  have alone : a.combined.isEmpty = b.combined.isEmpty := isEmpty_congr alike.combined
  obtain ⟨bare,keywords⟩ := withKeywords_congr alike.ctes
  simp only [toSelect,alike.columns,alike.exprs,alike.distinct,alike.grouping,alike.ordering,alike.limit,
    alike.offset,alike.misuse]
  cases b.misuse with
  | some misuse => rw [writeTo,writeTo]
  | none =>
    rw [writeTo,writeTo]
    simp only [bare,keywords,alone,writeCtes_congr d alike.ctes,writeSource_congr d alike.source,
      writeConditions,writeJoins_congr d alike.joins,alike.conditions.interchangeable.writeClause,
      alike.groupConditions.interchangeable.writeClause,writeCombined_congr d alike.combined]

/-- A count puts the rows of the whole statement, without their order and page, in parentheses. -/
theorem countsAlike (alike : a.Alike b) (d : Dialect) (out : Fragment) :
    a.toSelect.writeCount d out = b.toSelect.writeCount d out := by
  have rows : Additions.Alike { a with ctes := [], ordering := [], limit := none, offset := none }
      { b with ctes := [], ordering := [], limit := none, offset := none } :=
    { alike with ctes := .nil, ordering := rfl, limit := rfl, offset := rfl }
  have rows := rows.writesAlike d
  obtain ⟨bare,keywords⟩ := withKeywords_congr alike.ctes
  rw [writeCount,writeCount]
  simp only [toSelect,countsSubquery] at rows ⊢
  simp only [rows]
  simp only [alike.distinct,alike.grouping,alike.misuse,isEmpty_congr alike.combined,bare,keywords,
    writeCtes_congr d alike.ctes,writeSource_congr d alike.source,writeConditions,
    writeJoins_congr d alike.joins,alike.conditions.interchangeable.writeClause,
    alike.groupConditions.interchangeable.writeClause]
  rfl

theorem refl (a : Additions) : a.Alike a where
  ctes := List.forall₂_same.mpr fun _ _ => ⟨rfl,rfl,rfl,fun _ _ => rfl⟩
  columns := rfl
  exprs := rfl
  distinct := rfl
  source := by
    cases a.source with
    | none => exact .none
    | some s => cases s with
      | table name => exact .some (.table name)
      | subquery query label => exact .some (.subquery (fun _ _ => rfl) label)
  joins := List.forall₂_same.mpr fun _ _ _ _ => rfl
  conditions := .refl _
  grouping := rfl
  groupConditions := .refl _
  ordering := rfl
  limit := rfl
  offset := rfl
  combined := List.forall₂_same.mpr fun _ _ => ⟨rfl,fun _ _ => rfl⟩
  misuse := rfl

theorem append {a' b' : Additions} (alike : a.Alike b) (more : a'.Alike b') :
    (a ++ a').Alike (b ++ b') where
  ctes := List.rel_append alike.ctes more.ctes
  columns := congrArg₂ _ alike.columns more.columns
  exprs := congrArg₂ _ alike.exprs more.exprs
  distinct := congrArg₂ Option.or more.distinct alike.distinct
  source := rel_or more.source alike.source
  joins := List.rel_append alike.joins more.joins
  conditions := alike.conditions.append more.conditions
  grouping := congrArg₂ _ alike.grouping more.grouping
  groupConditions := alike.groupConditions.append more.groupConditions
  ordering := congrArg₂ _ alike.ordering more.ordering
  limit := congrArg₂ Option.or more.limit alike.limit
  offset := congrArg₂ Option.or more.offset alike.offset
  combined := List.rel_append alike.combined more.combined
  misuse := congrArg₂ Option.or alike.misuse more.misuse

end Additions.Alike

/-! ## Calls that make such queries -/

structure CallsAlike (calls others : List Call) : Prop where
  fault : calls.findSome? (·.fault?) = others.findSome? (·.fault?)
  additions : (Additions.ofCalls calls).Alike (.ofCalls others)

namespace CallsAlike

variable {calls others : List Call}

theorem refl (calls : List Call) : CallsAlike calls calls := ⟨rfl,.refl _⟩

theorem append {more further : List Call} (alike : CallsAlike calls others)
    (rest : CallsAlike more further) : CallsAlike (calls ++ more) (others ++ further) where
  fault := by rw [List.findSome?_append,List.findSome?_append,alike.fault,rest.fault]
  additions := by
    rw [Additions.ofCalls_append,Additions.ofCalls_append]
    exact alike.additions.append rest.additions

theorem changed (before after : List Call) {call other : Call} (fault : call.fault? = other.fault?)
    (additions : call.additions.Alike other.additions) :
    CallsAlike (before ++ call :: after) (before ++ other :: after) := by
  have single : CallsAlike [call] [other] := by
    refine ⟨?_,?_⟩
    · rw [List.findSome?_singleton,List.findSome?_singleton,fault]
    · rwa [Additions.ofCalls_singleton,Additions.ofCalls_singleton]
  exact (refl before).append (single.append (refl after))

theorem added (before after : List Call) {call : Call} (unfailing : call.fault? = none)
    (additions : Additions.Alike {} call.additions) :
    CallsAlike (before ++ after) (before ++ call :: after) := by
  have single : CallsAlike [] [call] := by
    refine ⟨?_,?_⟩
    · rw [List.findSome?_singleton,unfailing]; rfl
    · rwa [Additions.ofCalls_singleton]
  exact (refl before).append (single.append (refl after))

theorem builds (alike : CallsAlike calls others) (d : Dialect) :
    (made? others >>= (·.build d)) = (made? calls >>= (·.build d)) ∧
      (made? others >>= (·.buildCount d)) = (made? calls >>= (·.buildCount d)) := by
  rw [made?_eq,made?_eq,alike.fault]
  cases others.findSome? (·.fault?) with
  | some e => exact ⟨rfl,rfl⟩
  | none =>
    show (gathered others).build d = (gathered calls).build d ∧
      (gathered others).buildCount d = (gathered calls).buildCount d
    rw [build,build,buildCount,buildCount,gathered,gathered,alike.additions.writesAlike,
      alike.additions.countsAlike]
    exact ⟨rfl,rfl⟩

end CallsAlike

/-- A query can take the place of another wherever a call is given one. -/
theorem Place.additions_call (place : Place) {a b : Additions} (alike : a.Alike b) :
    (place.call a.toSelect).fault? = (place.call b.toSelect).fault? ∧
      (place.call a.toSelect).additions.Alike (place.call b.toSelect).additions := by
  have unchanged := Additions.Alike.refl {}
  have writes := alike.writesAlike
  cases place with
  | subquery label => exact ⟨rfl,{ unchanged with source := .some (.subquery writes _) }⟩
  | withQuery name names =>
    exact ⟨rfl,{ unchanged with ctes := .cons ⟨rfl,rfl,rfl,writes⟩ .nil }⟩
  | withRecursive name names =>
    have unions : a.combined.all (·.1.isUnion) = b.combined.all (·.1.isUnion) := by
      have combined := alike.combined
      generalize a.combined = members,b.combined = others at combined
      induction combined with
      | nil => rfl
      | cons same _ ih => rw [List.all_cons,List.all_cons,same.1,ih]
    refine ⟨?_,{ unchanged with ctes := .cons ⟨rfl,rfl,rfl,writes⟩ .nil }⟩
    simp only [Place.call,Call.fault?,Additions.toSelect,isEmpty_congr alike.combined,unions]
  | combine op => exact ⟨rfl,{ unchanged with combined := .cons ⟨rfl,writes⟩ .nil }⟩

theorem joinAlike_of_interchangeable (kind : JoinKind) (table : String) {e f : Expr}
    (same : e.Interchangeable f) : JoinAlike ⟨kind,table,some (.expr e)⟩ ⟨kind,table,some (.expr f)⟩ := by
  intro d out
  rw [Join.writeTo,Join.writeTo]
  simp only [Condition.isEmpty,Condition.writeTo,same.isEmpty,same.writeTo]
  rfl

/-- Whether a call fails does not depend on the expression, and what it adds is written alike. -/
theorem Inserted.callsAlike {x : Expr} (empty : x.isEmpty) {calls others : List Call}
    (inserted : Inserted x calls others) : CallsAlike calls others := by
  have unchanged := Additions.Alike.refl {}
  induction inserted with
  | conditions inserted =>
    cases inserted with
    | added before after =>
      exact .added before after rfl { unchanged with conditions := .absent empty }
    | inside before after inserted =>
      cases inserted with
      | filter inside | filterExpr inside =>
        have same := inside.interchangeable empty
        exact .changed before after rfl { unchanged with conditions := .single same }
  | having before after =>
    exact .added before after rfl { unchanged with groupConditions := .absent empty }
  | insideHaving before after inside =>
    have same := inside.interchangeable empty
    exact .changed before after rfl { unchanged with groupConditions := .single same }
  | insideOn before after kind table conditional inside =>
    have same := joinAlike_of_interchangeable kind table (inside.interchangeable empty)
    exact .changed before after rfl { unchanged with joins := .cons same .nil }
  | insideQuery before after place inside made remade alike =>
    -- The two inner queries are those of their calls, which are alike by the induction hypothesis.
    obtain rfl := eq_gathered made
    obtain rfl := eq_gathered remade
    obtain ⟨fault,additions⟩ := place.additions_call alike.additions
    exact .changed before after fault additions

/-- The calls that change nothing. -/
inductive Call.Idle : Call → Prop
  | combine (op : SetOp) : Idle (.combine op none)
  | orderBy {entry : String} (blank : Text.isBlankText entry) : Idle (.orderBy entry)
  | equalIfGiven (column : String) : Idle (.filter (.equalIfGiven column none))

theorem Call.Idle.apply {call : Call} (idle : call.Idle) (q : Select) : call.apply q = .ok q := by
  cases idle with
  | combine op => rfl
  | orderBy blank => exact apply_orderBy_of_blank blank q
  | equalIfGiven column => rfl

end Select

/-! ## UPDATE and DELETE -/

/-- What a condition that contributes nothing keeps, and every call keeps, the whole list keeps. -/
theorem WhereCall.InsertedIn.foldl {β κ : Type} {wrap : WhereCall → κ} {step : β → κ → β}
    {R : β → β → Prop} {x : Expr} (kept : ∀ {q r} call, R q r → R (step q call) (step r call))
    (added : ∀ q, R q (step q (wrap (.filterExpr x))))
    (changed : ∀ q {call other : WhereCall}, call.Inserted x other →
      R (step q (wrap call)) (step q (wrap other)))
    {calls others : List κ} (inserted : InsertedIn wrap x calls others) (start : β) :
    R (calls.foldl step start) (others.foldl step start) := by
  have run (after : List κ) {q r : β} (related : R q r) :
      R (after.foldl step q) (after.foldl step r) := by
    induction after generalizing q r with
    | nil => exact related
    | cons call after ih => exact ih (kept call related)
  cases inserted with
  | added before after =>
    rw [List.foldl_append,List.foldl_append]
    exact run after (added _)
  | inside before after inserted =>
    rw [List.foldl_append,List.foldl_append]
    exact run after (changed _ inserted)

/-- A call given an expression is not refused, and adds it as a condition. -/
theorem WhereCall.Inserted.conditions {x : Expr} (empty : x.isEmpty) {call other : WhereCall}
    (inserted : call.Inserted x other) :
    call.refusal? = other.refusal? ∧ Condition.MembersAlike call.accepted other.accepted := by
  cases inserted with
  | filter inside | filterExpr inside => exact ⟨rfl,.single (inside.interchangeable empty)⟩

/-- The calls of a builder that are calls of another one. -/
theorem WhereCall.InsertedIn.filterMap {κ μ : Type} {wrap : WhereCall → κ} {inner : WhereCall → μ}
    {x : Expr} (pick : κ → Option μ) (picked : ∀ call, pick (wrap call) = some (inner call))
    {calls others : List κ} (inserted : InsertedIn wrap x calls others) :
    InsertedIn inner x (calls.filterMap pick) (others.filterMap pick) := by
  cases inserted with
  | added before after =>
    rw [List.filterMap_append,List.filterMap_append,List.filterMap_cons_some (picked _)]
    exact .added _ _
  | inside before after inserted =>
    rw [List.filterMap_append,List.filterMap_append,List.filterMap_cons_some (picked _),
      List.filterMap_cons_some (picked _)]
    exact .inside _ _ inserted

namespace Scope

/-- Scopes that differ in nothing that is written. -/
structure Alike (s t : Scope) : Prop where
  conditions : Condition.MembersAlike s.conditions.members t.conditions.members
  returning : s.returning = t.returning
  allRows : s.allRows = t.allRows
  misuse : s.misuse = t.misuse

variable {s t : Scope}

theorem Alike.apply (call : Call) (alike : s.Alike t) : (call.apply s).Alike (call.apply t) := by
  rw [apply_eq,apply_eq,alike.returning,alike.allRows,alike.misuse]
  exact ⟨alike.conditions.append (.refl _),rfl,rfl,rfl⟩

theorem Alike.isOpen (alike : s.Alike t) : s.isOpen = t.isOpen := by
  rw [Scope.isOpen,Scope.isOpen,alike.conditions.interchangeable.isEmpty,alike.allRows]

theorem made_alike {x : Expr} (empty : x.isEmpty) {calls others : List Call}
    (inserted : WhereCall.InsertedIn .filter x calls others) : (made calls).Alike (made others) := by
  refine inserted.foldl .apply (fun s => ?_) (fun s call other inserted => ?_) Scope.empty
  · exact ⟨.added _ empty,rfl,rfl,rfl⟩
  · obtain ⟨refusal,conditions⟩ := inserted.conditions empty
    rw [Call.apply,WhereCall.apply_eq,Call.apply,WhereCall.apply_eq,refusal]
    exact ⟨.append (.refl _) conditions,rfl,rfl,rfl⟩

end Scope

/-- A call that changes nothing can be left out of a list of calls. -/
theorem foldl_skip {β κ : Type} {step : β → κ → β} {call : κ} (idle : ∀ b, step b call = b)
    (start : β) (before after : List κ) :
    (before ++ call :: after).foldl step start = (before ++ after).foldl step start := by
  rw [List.foldl_append,List.foldl_append,List.foldl_cons,idle]

namespace Update

theorem build_congr {s t : Scope} (alike : s.Alike t) (table : String) (fields : Assignments)
    (d : Dialect) : (Update.mk t table fields).build d = (Update.mk s table fields).build d := by
  have same := alike.conditions.interchangeable
  rw [build,build,refusal?,refusal?,writeTo,writeTo,alike.isOpen,alike.returning,alike.misuse,
    same.writeClause]

theorem build_made_of_inserted {x : Expr} (empty : x.isEmpty) {calls others : List Call}
    (inserted : WhereCall.InsertedIn .filter x calls others) (table : String) (d : Dialect) :
    (made table others).build d = (made table calls).build d := by
  have fields : others.foldl Call.assign .empty = calls.foldl Call.assign .empty := by
    cases inserted with
    | added before after | inside before after inserted =>
      rw [List.foldl_append,List.foldl_append]
      rfl
  have scope : WhereCall.InsertedIn .filter x (calls.filterMap (·.scope?)) (others.filterMap (·.scope?)) :=
    inserted.filterMap (·.scope?) fun _ => rfl
  rw [made_eq,made_eq,fields]
  exact build_congr (Scope.made_alike empty scope) table _ d

end Update

namespace Delete

theorem build_made_of_inserted {x : Expr} (empty : x.isEmpty) {calls others : List Call}
    (inserted : WhereCall.InsertedIn .filter x calls others) (table : String) (d : Dialect) :
    (made table others).build d = (made table calls).build d := by
  have alike := Scope.made_alike empty inserted
  have same := alike.conditions.interchangeable
  rw [made_eq,made_eq,build,build,refusal?,refusal?,writeTo,writeTo,alike.isOpen,alike.returning,
    alike.misuse,same.writeClause]

end Delete

/-- An expression that contributes nothing is absorbed wherever it is put, and so are the calls that are
given nothing. Its blank templates may carry arguments. -/
theorem empty_absorbed {x : Expr} (empty : x.isEmpty) (d : Dialect) :
    (∀ calls others, Select.Inserted x calls others →
      (Select.made? others >>= (·.build d)) = (Select.made? calls >>= (·.build d)) ∧
      (Select.made? others >>= (·.buildCount d)) = (Select.made? calls >>= (·.buildCount d))) ∧
    (∀ table calls others, WhereCall.InsertedIn .filter x calls others →
      (Update.made table others).build d = (Update.made table calls).build d) ∧
    (∀ table calls others, WhereCall.InsertedIn .filter x calls others →
      (Delete.made table others).build d = (Delete.made table calls).build d) ∧
    (∀ before after call, Select.Call.Idle call →
      Select.made? (before ++ call :: after) = Select.made? (before ++ after)) ∧
    (∀ table before after column,
      Update.made table (before ++ .filter (.equalIfGiven column none) :: after) =
        Update.made table (before ++ after)) ∧
    ∀ table before after column,
      Delete.made table (before ++ .filter (.equalIfGiven column none) :: after) =
        Delete.made table (before ++ after) := by
  refine ⟨fun calls others inserted => (inserted.callsAlike empty).builds d,
    fun table calls others inserted => Update.build_made_of_inserted empty inserted table d,
    fun table calls others inserted => Delete.build_made_of_inserted empty inserted table d,
    fun before after call idle => Select.made?_skip before after idle.apply,
    fun table before after column => foldl_skip (fun _ => rfl) _ before after,
    fun table before after column => foldl_skip (fun _ => rfl) _ before after⟩

/-- Inside an OR of a WITH query, and as the only condition of a DELETE, which stays refused. -/
theorem empty_absorbed_nested :
    let x : Expr := .not (.or [.raw " ",.and []])
    let inner (members : List Expr) : List Select.Call :=
      [.fromTable "t",.filter (.filterExpr (.and [.eq "a" (.int 1),.or members]))]
    let outer (query : Select) : List Select.Call := [.withQuery "w" [] query,.fromTable "w"]
    x.isEmpty ∧ ∃ q r, Select.made? (inner [.never,.raw "b"]) = .ok q ∧
      Select.made? (inner [.never,x,.raw "b"]) = .ok r ∧ Select.Inserted x (outer q) (outer r) ∧
      (Select.made? (outer r) >>= (·.build .sqlite)) = .ok ⟨"WITH \"w\" AS (SELECT * FROM \"t\" " ++
        "WHERE \"a\" = ? AND (1=0 OR (b))) SELECT * FROM \"w\"",[.int 1],none,none⟩ ∧
      (Delete.made "t" [.filter (.filterExpr x)]).build .sqlite =
        .error (.validation (.deleteWithoutFilter "t")) ∧
      Select.Call.Idle (.orderBy "\t") ∧
      Select.made? [.fromTable "t",.orderBy "\t",.limit 1] = Select.made? [.fromTable "t",.limit 1] := by
  intro x inner outer
  have inside : x.Inserted (.and [.eq "a" (.int 1),.or [.never,.raw "b"]])
      (.and [.eq "a" (.int 1),.or [.never,x,.raw "b"]]) := .insideAnd [_] [] (.or [_] [_])
  have within : Select.Inserted x (inner [.never,.raw "b"]) (inner [.never,x,.raw "b"]) :=
    .conditions (.inside [_] [] (.filterExpr inside))
  have inserted :=
    Select.Inserted.insideQuery [] [.fromTable "w"] (.withQuery "w" []) within rfl rfl
  have idle : Select.Call.Idle (.orderBy "\t") := .orderBy (by decide)
  obtain ⟨selects,-,deletes,idles,-⟩ := empty_absorbed (show x.isEmpty by decide) .sqlite
  refine ⟨by decide,_,_,rfl,rfl,inserted,(selects _ _ inserted).1.trans (by decide),
    (deletes "t" [] _ (.added [] [])).trans (by decide),idle,idles [.fromTable "t"] [.limit 1] _ idle⟩

end ParamSql
