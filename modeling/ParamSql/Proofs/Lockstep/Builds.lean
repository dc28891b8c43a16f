import ParamSql.Proofs.Lockstep.Statements

/-! Builds in lockstep. A builder refuses by what no value decides, or it writes; so the builds of
two trees that differ in their values refuse alike or build fragments that the runs reach. -/
namespace ParamSql

theorem Scope.isOpen_mapValues (φ : Value → Value) (s : Scope) : (s.mapValues φ).isOpen = s.isOpen := by
  rw [isOpen,mapValues,ConditionGroup.isEmpty_mapValues,isOpen]

theorem Update.refusal?_mapValues (φ : Value → Value) (q : Update) :
    (q.mapValues φ).refusal? = q.refusal? := by
  rw [refusal?,mapValues,KeyMap.isEmpty_map,Scope.isOpen_mapValues]
  rfl

theorem Delete.refusal?_mapValues (φ : Value → Value) (q : Delete) :
    (q.mapValues φ).refusal? = q.refusal? := by
  rw [refusal?,mapValues,Scope.isOpen_mapValues]
  rfl

theorem BatchInsert.refusal?_mapValues (φ : Value → Value) (q : BatchInsert) :
    (q.mapValues φ).refusal? = q.refusal? := by
  simp only [refusal?,mapValues,List.isEmpty_map]

/-- Whether calls put the query together, clause by clause. SQL with named parameters and fragments
are text of the caller. -/
def Query.isTree : Query → Bool
  | named _ | fragment _ => false
  | _ => true

namespace Lockstep

variable {l : Lockstep} {d : Dialect}

/-- Both builds refuse for the same reason, or both build what they have written. -/
inductive Built (l : Lockstep) (d : Dialect) : Except Error Statement → Except Error Statement → Prop
  | refused (e : Error) : Built l d (.error e) (.error e)
  | written {f g : Fragment} (h : l.Reaches false f g) : Built l d (f.build d) (g.build d)

theorem Outcome.built {x y : Except Error Fragment} (h : l.Outcome x y) :
    l.Built d (x >>= fun out => out.build d) (y >>= fun out => out.build d) := by
  cases h with
  | refused e => exact .refused e
  | written reached => exact .written reached

theorem Built.returning {columns : List String} (named : ∀ t ∈ Supplied.ofFree columns, l.Admits t)
    {f g : Fragment} (h : l.Reaches false f g) (refusal? : Option Misuse) :
    l.Built d (f.buildReturning d refusal? columns) (g.buildReturning d refusal? columns) := by
  cases refusal? with
  | some misuse => exact .refused _
  | none => exact (Outcome.returning named h).built

theorem Built.unless {p q : Prop} [Decidable p] [Decidable q] {x y : Except Error Statement}
    (e : Error) (same : p ↔ q) (h : l.Built d x y) :
    l.Built d (if p then .error e else x) (if q then .error e else y) := by
  by_cases refused : p
  · rw [if_pos refused,if_pos (same.mp refused)]; exact .refused e
  · rwa [if_neg refused,if_neg (mt same.mpr refused)]

theorem admitted_last {first last : List Supplied} (admitted : ∀ t ∈ first ++ last, l.Admits t) :
    ∀ t ∈ last, l.Admits t := (List.forall_mem_append.mp admitted).2

theorem built_query (h : l.Reaches true .empty .empty) (q : Query) (tree : q.isTree)
    (admitted : ∀ t ∈ q.supplied, l.Admits t) :
    l.Built d (q.build d) ((q.mapValues l.value).build d) := by
  cases q with
  | select q => exact (outcome_select q admitted h).built
  | insert q => exact .returning (admitted_last admitted) (h.insert q admitted).loosen none
  | update q =>
    simp only [Query.build,Query.mapValues,Update.build,q.refusal?_mapValues]
    exact .returning (admitted_last admitted) (h.update q admitted) q.refusal?
  | delete q =>
    simp only [Query.build,Query.mapValues,Delete.build,q.refusal?_mapValues]
    exact .returning (admitted_last admitted) (h.delete q admitted) q.refusal?
  | upsert q =>
    simp only [Query.build,Query.mapValues,Upsert.build_eq]
    have returned := admitted_last (List.forall_mem_append.mp (List.forall_mem_append.mp admitted).1).1
    exact .returning returned (h.upsert q admitted).loosen q.refusal?
  | batchInsert q =>
    simp only [Query.build,Query.mapValues,BatchInsert.build,q.refusal?_mapValues]
    exact .returning (admitted_last admitted) (h.batchInsert q admitted) q.refusal?
  | batchUpdate q =>
    simp only [Query.build,Query.mapValues,BatchUpdate.build,q.columns_mapValues]
    refine .unless _ (by simp [BatchUpdate.mapValues]) ?_
    exact .unless _ Iff.rfl (.written (h.batchUpdate q admitted))
  | named q => cases tree
  | fragment f => cases tree

theorem built_count (h : l.Reaches true .empty .empty) (q : Select)
    (admitted : ∀ t ∈ q.supplied, l.Admits t) :
    l.Built d (q.buildCount d) ((q.mapValues l.value).buildCount d) :=
  (outcome_count q admitted h).built

end Lockstep

end ParamSql
