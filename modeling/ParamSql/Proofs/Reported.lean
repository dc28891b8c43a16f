import ParamSql.Proofs.Calls
import ParamSql.Proofs.Sound

/-! Which templates are reported, in terms of the calls that make a statement. A call given a template
checks it, blank or not; a template inside an expression is checked when it is written, and a blank
one is not written. Main statement: a statement builds exactly if the templates match that its calls,
and the calls of the queries inside it, report. -/
namespace ParamSql

namespace WhereCall

/-- The templates that a call is given and whose mismatch is reported. -/
def reported (call : WhereCall) : List Template := call.condition?.toList.flatMap (·.reported)

theorem matches_reported_iff (call : WhereCall) : (∀ t ∈ call.reported, t.Matches) ↔
    call.refusal? = none ∧ ∀ c ∈ call.accepted, c.Accepted := by
  rw [reported,refusal?,accepted]
  cases call.condition? with
  | none => simp
  | some c =>
    simp only [Option.toList_some,List.flatMap_cons,List.flatMap_nil,List.append_nil,
      c.matches_reported_iff,Option.bind_some]
    cases h : c.misuse? <;> simp [h]

end WhereCall

namespace Select

def Call.reported : Call → List Template
  | expr sql args => [⟨sql,args⟩]
  | join _ _ on _ => on.reported
  | filter call => call.reported
  | having sql args => (Condition.raw sql args).reported
  | havingExpr e => (Condition.expr e).reported
  | _ => []

theorem not_sound_refuse (q : Select) (misuse : Misuse) : ¬(q.refuse misuse).Sound := fun sound => by
  simpa [refuse] using sound.misuse

theorem sound_addExpr (q : Select) (sql : String) (args : List Value) :
    (q.addExpr sql args).Sound ↔ q.Sound ∧ (Template.mk sql args).Matches := by
  rw [← Template.mismatch?_eq_none_iff,addExpr]
  cases mismatch : Fragment.mismatch? sql args with
  | some m => simp [not_sound_refuse]
  | none =>
    have same : (Template.mk sql args).Matches := (Template.mismatch?_eq_none_iff _).mp mismatch
    simp only [sound_iff,List.forall_mem_append,List.forall_mem_singleton]
    tauto

theorem sound_join (q : Select) (kind : JoinKind) (table : String) (on : Option Condition) :
    (q.join kind table on).Sound ↔ q.Sound ∧ on.bind (·.misuse?) = none ∧
      (Join.mk kind table on).Accepted := by
  rw [join]
  cases on.bind (·.misuse?) with
  | some misuse => simp [not_sound_refuse]
  | none =>
    simp only [sound_iff,List.forall_mem_append,List.forall_mem_singleton]
    tauto

theorem sound_where (q : Select) (call : WhereCall) : (call.apply q).Sound ↔
    q.Sound ∧ call.refusal? = none ∧ ∀ c ∈ call.accepted, c.Accepted := by
  rw [apply_where]
  simp only [sound_iff,ConditionGroup.Accepted,List.forall_mem_append,Option.or_eq_none_iff,
    Option.map_eq_none_iff]
  tauto

theorem sound_havingExpr (q : Select) (e : Expr) :
    (q.havingExpr e).Sound ↔ q.Sound ∧ (Condition.expr e).Accepted := by
  simp only [havingExpr,sound_iff,ConditionGroup.Accepted,ConditionGroup.push,
    List.forall_mem_append,List.forall_mem_singleton]
  tauto

theorem sound_having (q : Select) (sql : String) (args : List Value) : (q.having sql args).Sound ↔
    q.Sound ∧ (Condition.raw sql args).misuse? = none ∧ (Condition.raw sql args).Accepted := by
  rw [having,Condition.misuse?]
  cases Fragment.mismatch? sql args with
  | some m => simp [not_sound_refuse]
  | none =>
    simp only [sound_iff,ConditionGroup.Accepted,ConditionGroup.push,List.forall_mem_append,
      List.forall_mem_singleton,Option.map_none]
    tauto

theorem sound_addCte {q next : Select} {name : String} {names : List String} {query : Select}
    {isRecursive : Bool} (added : q.addCte name names query isRecursive = .ok next) :
    next.Sound ↔ q.Sound := by
  rw [addCte] at added
  split at added <;> cases added
  simp only [sound_iff]

theorem sound_fromSubquery {q next : Select} {query : Select} {label : String}
    (added : q.fromSubquery query label = .ok next) : next.Sound ↔ q.Sound := by
  rw [fromSubquery] at added
  split at added <;> cases added
  simp only [sound_iff]

theorem sound_withRecursive {q next : Select} {name : String} {names : List String} {query : Select}
    (added : q.withRecursive name names query = .ok next) : next.Sound ↔ q.Sound := by
  rw [withRecursive] at added
  split at added
  · cases added
  · exact sound_addCte added

/-- What one call adds to what is to be reported. -/
theorem sound_apply {q next : Select} {call : Call} (applied : call.apply q = .ok next) :
    next.Sound ↔ q.Sound ∧ ∀ t ∈ call.reported, t.Matches := by
  have silent {P : Prop} (kept : next.Sound ↔ P) (none : call.reported = []) :
      next.Sound ↔ P ∧ ∀ t ∈ call.reported, t.Matches := by simp [kept,none]
  cases call with
  | expr sql args =>
    cases applied
    rw [sound_addExpr,Call.reported,List.forall_mem_singleton]
  | join kind table on conditional =>
    cases applied
    rw [sound_join,Call.reported,on.matches_reported_iff,Option.bind_some,Join.Accepted]
    simp [conditional]
  | filter call =>
    cases applied
    rw [sound_where,Call.reported,call.matches_reported_iff]
  | having sql args =>
    cases applied
    rw [sound_having,Call.reported,Condition.matches_reported_iff]
  | havingExpr e =>
    cases applied
    rw [sound_havingExpr,Call.reported,Condition.matches_reported_iff]
    exact and_congr_right fun _ => (and_iff_right rfl).symm
  | fromSubquery query label => exact silent (sound_fromSubquery applied) rfl
  | withQuery name names query => exact silent (sound_addCte applied) rfl
  | withRecursive name names query => exact silent (sound_withRecursive applied) rfl
  | crossJoin table =>
    cases applied
    exact silent (by simp [sound_join,Join.Accepted]) rfl
  | orderBy entry =>
    cases applied
    exact silent (by rw [orderBy]; split <;> simp only [sound_iff]) rfl
  | combine op other =>
    cases applied
    exact silent (by cases other <;> simp only [combine,sound_iff]) rfl
  | _ =>
    cases applied
    refine silent ?_ rfl
    simp only [sound_iff,addColumns,setDistinct,fromTable,fromTableAs,groupBy,setLimit,setOffset,
      paginate]

theorem sound_made {q : Select} {calls : List Call} (made : made? calls = .ok q) :
    q.Sound ↔ ∀ call ∈ calls, ∀ t ∈ call.reported, t.Matches := by
  refine made?_induction (P := fun calls q => q.Sound ↔ ∀ call ∈ calls, ∀ t ∈ call.reported, t.Matches)
    ?_ (fun before applied => ?_) made
  · simp [sound_iff,star,ConditionGroup.empty,ConditionGroup.Accepted]
  · rw [sound_apply applied,before,List.forall_mem_append,List.forall_mem_singleton]

/-- A select expression that does not match is refused by the call, so it is in no query. -/
theorem exprs_apply {q next : Select} {call : Call} (applied : call.apply q = .ok next)
    (matching : ∀ e ∈ q.exprs, (Template.mk e.1 e.2).Matches) :
    ∀ e ∈ next.exprs, (Template.mk e.1 e.2).Matches := by
  have kept (same : next.exprs = q.exprs) : ∀ e ∈ next.exprs, (Template.mk e.1 e.2).Matches :=
    same ▸ matching
  cases call with
  | expr sql args =>
    cases applied
    rw [addExpr]
    cases mismatch : Fragment.mismatch? sql args with
    | some m => exact matching
    | none => exact List.forall_mem_append.mpr ⟨matching,List.forall_mem_singleton.mpr
        ((Template.mismatch?_eq_none_iff ⟨sql,args⟩).mp mismatch)⟩
  | join kind table on _ =>
    cases applied
    exact kept (by rw [join]; cases (some on).bind (·.misuse?) <;> rfl)
  | filter call =>
    cases applied
    exact kept (by rw [apply_where])
  | having sql args =>
    cases applied
    exact kept (by rw [having]; cases Fragment.mismatch? sql args <;> rfl)
  | orderBy entry =>
    cases applied
    exact kept (by rw [orderBy]; split <;> rfl)
  | combine op other =>
    cases applied
    exact kept (by cases other <;> rfl)
  | fromSubquery query label | withQuery name names query | withRecursive name names query =>
    simp only [Call.apply,fromSubquery,withQuery,withRecursive,addCte] at applied
    repeat' split at applied
    all_goals first | cases applied; exact matching | cases applied
  | _ => cases applied; exact kept rfl

theorem exprs_made {q : Select} {calls : List Call} (made : made? calls = .ok q) :
    ∀ e ∈ q.exprs, (Template.mk e.1 e.2).Matches :=
  made?_induction (P := fun _ q => ∀ e ∈ q.exprs, (Template.mk e.1 e.2).Matches)
    (fun _ member => nomatch member) (fun before applied => exprs_apply applied before) made

end Select

/-! ## What builds -/

namespace Expr

theorem compile_ok_iff (e : Expr) (d : Dialect) :
    (∃ s, e.compile d = .ok s) ↔ ∀ t ∈ e.reported, t.Matches := by
  refine ((Fragment.build_ok_iff_clean (x := .ok _) d).trans (Fragment.clean_ok _)).trans ?_
  cases e with
  | template sql args =>
    rw [reported,List.forall_mem_singleton,writeTo,Fragment.mismatch_fill_eq_none _ ⟨sql,args⟩]
    exact and_iff_right rfl
  | and members | or members =>
    refine Iff.trans ?_ (forall_mem_filter_isBlank _).symm
    rw [writeTo,mismatch_writeJoined,templates]
    exact and_iff_right rfl
  | not inner =>
    refine Iff.trans ?_ (forall_mem_filter_isBlank _).symm
    by_cases empty : inner.isEmpty
    · rw [writeTo,if_pos empty]
      exact iff_of_true rfl (accepted_of_isEmpty (e := .not inner) empty)
    · rw [mismatch_writeTo d (.not inner) _ (Bool.eq_false_iff.mpr empty)]
      exact and_iff_right rfl
  | raw sql => simp [writeTo,reported,templates,Fragment.empty]
  | _ =>
    refine Iff.trans ?_ (forall_mem_filter_isBlank _).symm
    rw [mismatch_writeTo d _ _ rfl]
    exact and_iff_right rfl

end Expr

theorem ConditionGroup.compile_ok_iff (g : ConditionGroup) (d : Dialect) :
    (∃ s, g.compile d = .ok s) ↔ g.Accepted := by
  refine ((Fragment.build_ok_iff_clean (x := .ok _) d).trans (Fragment.clean_ok _)).trans ?_
  rw [g.mismatch_writeTo]
  exact and_iff_right rfl

namespace Select

/-- Everything reports a match that a query, or a query inside it, can have been made with. -/
def ReportsMatch (q : Select) : Prop :=
  ∀ p ∈ q.queries, ∀ calls, made? calls = .ok p → ∀ call ∈ calls, ∀ t ∈ call.reported, t.Matches

theorem reportsMatch_iff {q : Select} (constructed : ∀ p ∈ q.queries, ∃ calls, made? calls = .ok p) :
    q.ReportsMatch ↔ ∀ p ∈ q.queries, p.Sound := by
  constructor
  · intro reports p member
    obtain ⟨calls,made⟩ := constructed p member
    exact (sound_made made).mpr (reports p member calls made)
  · intro sound p member calls made
    exact (sound_made made).mp (sound p member)

theorem build_ok_iff (q : Select) (d : Dialect) :
    (∃ s, q.build d = .ok s) ↔ ∀ p ∈ q.queries, p.Sound := by
  refine (Fragment.build_ok_iff_clean d).trans ?_
  rw [clean_writeTo]
  exact and_iff_right rfl

theorem buildCount_ok_iff {q : Select} (d : Dialect)
    (matching : ∀ e ∈ q.exprs, (Template.mk e.1 e.2).Matches) :
    (∃ s, q.buildCount d = .ok s) ↔ ∀ p ∈ q.queries, p.Sound := by
  refine (Fragment.build_ok_iff_clean d).trans ?_
  rw [clean_writeCount d q matching]
  exact and_iff_right rfl

end Select

/-- What all conditions report matches exactly if no call was refused and what was kept is sound. -/
theorem Scope.matches_reported_iff (calls : List Call) :
    (∀ call ∈ calls.filterMap (·.where?), ∀ t ∈ call.reported, t.Matches) ↔
      (made calls).misuse = none ∧ (made calls).conditions.Accepted := by
  simp only [made_eq,Option.map_eq_none_iff,WhereCall.matches_reported_iff,List.findSome?_eq_none_iff,
    ConditionGroup.Accepted,List.forall_mem_flatMap]
  exact forall₂_and

namespace Update

theorem made_build_ok_iff (table : String) (calls : List Call) (d : Dialect) :
    (∃ s, (made table calls).build d = .ok s) ↔
      ((made table calls).fields.isEmpty = false ∧
        ((made table calls).allRows ∨ (made table calls).conditions.isEmpty = false) ∧
        ((made table calls).returning = [] ∨ d.hasReturning)) ∧
      ∀ call ∈ calls.filterMap (·.where?), ∀ t ∈ call.reported, t.Matches := by
  rw [build_ok_iff,refusal?_eq_none_iff,← (scope_calls calls).1,Scope.matches_reported_iff,made_eq]
  tauto

end Update

namespace Delete

theorem made_build_ok_iff (table : String) (calls : List Call) (d : Dialect) :
    (∃ s, (made table calls).build d = .ok s) ↔
      (((made table calls).allRows ∨ (made table calls).conditions.isEmpty = false) ∧
        ((made table calls).returning = [] ∨ d.hasReturning)) ∧
      ∀ call ∈ calls.filterMap (·.where?), ∀ t ∈ call.reported, t.Matches := by
  rw [build_ok_iff,refusal?_eq_none_iff,Scope.matches_reported_iff,made_eq]
  tauto

end Delete

theorem builds_iff_reports_match (d : Dialect) :
    (∀ e : Expr, (∃ s, e.compile d = .ok s) ↔ ∀ t ∈ e.reported, t.Matches) ∧
    (∀ g : ConditionGroup, (∃ s, g.compile d = .ok s) ↔
      ∀ t ∈ g.templates, t.isBlank = false → t.Matches) ∧
    (∀ q : Select, (∀ p ∈ q.queries, ∃ calls, Select.made? calls = .ok p) →
      ((∃ s, q.build d = .ok s) ↔ q.ReportsMatch) ∧
        ((∃ s, q.buildCount d = .ok s) ↔ q.ReportsMatch)) ∧
    (∀ (table : String) (calls : List Update.Call), (∃ s, (Update.made table calls).build d = .ok s) ↔
      ((Update.made table calls).fields.isEmpty = false ∧
        ((Update.made table calls).allRows ∨ (Update.made table calls).conditions.isEmpty = false) ∧
        ((Update.made table calls).returning = [] ∨ d.hasReturning)) ∧
      ∀ call ∈ calls.filterMap (·.where?), ∀ t ∈ call.reported, t.Matches) ∧
    (∀ (table : String) (calls : List Delete.Call), (∃ s, (Delete.made table calls).build d = .ok s) ↔
      (((Delete.made table calls).allRows ∨ (Delete.made table calls).conditions.isEmpty = false) ∧
        ((Delete.made table calls).returning = [] ∨ d.hasReturning)) ∧
      ∀ call ∈ calls.filterMap (·.where?), ∀ t ∈ call.reported, t.Matches) := by
  refine ⟨fun e => e.compile_ok_iff d,fun g => ?_,fun q constructed => ?_,
    fun table calls => Update.made_build_ok_iff table calls d,
    fun table calls => Delete.made_build_ok_iff table calls d⟩
  · exact (g.compile_ok_iff d).trans g.accepted_iff
  · obtain ⟨calls,made⟩ := constructed q List.mem_cons_self
    rw [Select.reportsMatch_iff constructed]
    exact ⟨q.build_ok_iff d,q.buildCount_ok_iff d (Select.exprs_made made)⟩

/-- A query with a subquery in which a marker has no argument. -/
theorem builds_iff_reports_match_subquery :
    let inner : Select := Filterable.filterExpr (Select.star.fromTable "t") (.template "a = ?" [])
    let q : Select := { Select.star with source := some (.subquery inner "s") }
    (∀ p ∈ q.queries, ∃ calls, Select.made? calls = .ok p) ∧ ¬∃ s, q.build .postgres = .ok s := by
  intro inner q
  have inside : Select.made? [.fromTable "t",.filter (.filterExpr (.template "a = ?" []))] =
      .ok inner := rfl
  have outside : Select.made? [.fromSubquery inner "s"] = .ok q := rfl
  have constructed : ∀ p ∈ q.queries, ∃ calls, Select.made? calls = .ok p :=
    List.forall_mem_cons.mpr ⟨⟨_,outside⟩,List.forall_mem_singleton.mpr ⟨_,inside⟩⟩
  refine ⟨constructed,fun built => ?_⟩
  have reports := (((builds_iff_reports_match .postgres).2.2.1 q constructed).1.mp built)
  have mismatched : ¬(Template.mk "a = ?" []).Matches := by decide
  exact mismatched (reports inner (.tail _ (.head _)) _ inside _ (.tail _ (.head _)) _ (by decide))

/-- Beside a condition that contributes, a blank template with an argument goes unreported, although
the same template alone is an error. -/
theorem blank_template_unreported :
    let blank := Expr.template "" [.null]
    let e := Expr.and [blank,.eq "a" (.int 1)]
    let q : Select := Filterable.filterExpr (Select.star.fromTable "t") e
    (∃ t ∈ e.templates, ¬t.Matches) ∧
      blank.compile .postgres = .error (.validation (.markers ⟨"",0,1⟩)) ∧
      e.compile .postgres = .ok ⟨"\"a\" = $1",[.int 1],none,none⟩ ∧
      q.build .postgres = .ok ⟨"SELECT * FROM \"t\" WHERE \"a\" = $1",[.int 1],none,none⟩ := by
  intro blank e q
  exact ⟨⟨⟨"",[.null]⟩,by decide,by decide⟩,by decide,by decide,by decide⟩

end ParamSql
