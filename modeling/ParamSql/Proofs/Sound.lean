import ParamSql.Delete
import ParamSql.Proofs.Returning
import ParamSql.Proofs.Template
import ParamSql.Select.Compile
import ParamSql.Update
import Mathlib.Tactic.MkIffOfInductiveProp

/-! Which statements build. A SELECT does exactly if neither it nor a query inside it is refused,
holds a mismatched select expression, or has a condition with a mismatched template that is not
blank. The condition on UPDATE and DELETE is the same; what they refuse besides stands beside it. -/
namespace ParamSql

namespace Fragment

/-- Whether a writer has written something, and has kept no mismatch. -/
def Clean (x : Except Error Fragment) : Prop := ∃ f, x = .ok f ∧ f.mismatch = none

theorem clean_ok (f : Fragment) : Clean (.ok f) ↔ f.mismatch = none :=
  ⟨fun ⟨_,same,clean⟩ => Except.ok.inj same ▸ clean,fun clean => ⟨f,rfl,clean⟩⟩

theorem clean_pure (f : Fragment) : Clean (pure f) ↔ f.mismatch = none := clean_ok f

theorem not_clean_error (e : Error) : ¬Clean (.error e) := fun ⟨_,same,_⟩ => nomatch same

theorem clean_bind {x : Except Error Fragment} {next : Fragment → Except Error Fragment} {P : Prop}
    (each : ∀ f, Clean (next f) ↔ f.mismatch = none ∧ P) : Clean (x >>= next) ↔ Clean x ∧ P := by
  cases x with
  | error e => exact ⟨fun h => absurd h (not_clean_error e),fun h => absurd h.1 (not_clean_error e)⟩
  | ok f => rw [clean_ok]; exact each f

theorem build_ok_iff_clean {x : Except Error Fragment} (d : Dialect) :
    (∃ s, x >>= (fun f => f.build d) = .ok s) ↔ Clean x := by
  cases x with
  | error e => exact ⟨fun ⟨_,same⟩ => (nomatch same),fun h => absurd h (not_clean_error e)⟩
  | ok f =>
    rw [clean_ok]
    show (∃ s, f.build d = .ok s) ↔ _
    rw [build]
    cases f.mismatch with
    | none => simp
    | some m => simp

end Fragment

/-- Only what stands behind ON is written, and nothing stands behind a cross join. -/
def Join.Accepted (j : Join) : Prop := j.kind ≠ .cross → ∀ c ∈ j.on, c.Accepted

theorem Join.mismatch_writeTo (d : Dialect) (j : Join) (out : Fragment) :
    (j.writeTo d out).mismatch = none ↔ out.mismatch = none ∧ j.Accepted := by
  obtain ⟨kind,table,on⟩ := j
  cases on with
  | none => simp [writeTo,Accepted]
  | some c =>
    simp only [writeTo,Accepted,Option.mem_some,forall_eq']
    split
    next skipped =>
      have accepted : kind ≠ .cross → c.Accepted := fun other =>
        Condition.accepted_of_isEmpty (by simpa [other] using skipped)
      exact (and_iff_left accepted).symm
    next written =>
      rw [Bool.or_eq_true,not_or,decide_eq_true_eq,Bool.not_eq_true] at written
      rw [Condition.mismatch_writeTo d written.2]
      simp [written.1]

namespace Select
open Fragment

/-! The queries inside a query, in any depth. -/

mutual
def nested : Select → List Select
  | ⟨ctes,_,_,_,source,_,_,_,_,_,_,_,combined,_⟩ =>
    nestedCtes ctes ++ nestedSource source ++ nestedCombined combined

def nestedCtes : List (Cte Select) → List Select
  | [] => []
  | ⟨_,_,query,_⟩ :: ctes => query :: query.nested ++ nestedCtes ctes

def nestedSource : Option (Source Select) → List Select
  | none | some (.table _) => []
  | some (.subquery query _) => query :: query.nested

def nestedCombined : List (SetOp × Select) → List Select
  | [] => []
  | (_,query) :: rest => query :: query.nested ++ nestedCombined rest
end

/-- A query and all queries inside it. -/
def queries (q : Select) : List Select := q :: q.nested

/-- Nothing in the clauses of the query itself is to be reported. -/
@[mk_iff]
structure Sound (q : Select) : Prop where
  misuse : q.misuse = none
  exprs : ∀ e ∈ q.exprs, (Template.mk e.1 e.2).Matches
  joins : ∀ j ∈ q.joins, j.Accepted
  conditions : q.conditions.Accepted
  groupConditions : q.groupConditions.Accepted

theorem mismatch_writeExprs (first : Bool) (exprs : List (String × List Value)) (out : Fragment) :
    (writeExprs first exprs out).mismatch = none ↔
      out.mismatch = none ∧ ∀ e ∈ exprs, (Template.mk e.1 e.2).Matches := by
  induction exprs generalizing first out with
  | nil => simp [writeExprs]
  | cons e exprs ih =>
    have separated : (if first then out else out.text ", ").mismatch = out.mismatch := by
      cases first <;> rfl
    rw [writeExprs,ih,mismatch_fill_eq_none _ ⟨e.1,e.2⟩,separated,List.forall_mem_cons,and_assoc]

theorem mismatch_writeList (d : Dialect) (columns : List String) (exprs : List (String × List Value))
    (out : Fragment) : (writeList d columns exprs out).mismatch = none ↔
      out.mismatch = none ∧ ∀ e ∈ exprs, (Template.mk e.1 e.2).Matches := by
  rw [writeList]
  split
  next bare =>
    have none : exprs = [] := by simpa using (Bool.and_eq_true_iff.mp bare).2
    simp [none]
  next => rw [mismatch_writeExprs,mismatch_text]

theorem mismatch_writeJoins (d : Dialect) (joins : List Join) (out : Fragment) :
    (writeJoins d joins out).mismatch = none ↔ out.mismatch = none ∧ ∀ j ∈ joins, j.Accepted := by
  induction joins generalizing out with
  | nil => simp [writeJoins]
  | cons j joins ih => rw [writeJoins,ih,j.mismatch_writeTo,List.forall_mem_cons,and_assoc]

theorem mismatch_writeGrouping (d : Dialect) (columns : List String) (out : Fragment) :
    (writeGrouping d columns out).mismatch = out.mismatch := by
  rw [writeGrouping]
  split <;> rfl

theorem mismatch_writeConditions (d : Dialect) (joins : List Join) (conditions : ConditionGroup)
    (grouping : List String) (groupConditions : ConditionGroup) (out : Fragment) :
    (writeConditions d joins conditions grouping groupConditions out).mismatch = none ↔
      out.mismatch = none ∧ (∀ j ∈ joins, j.Accepted) ∧ conditions.Accepted ∧
        groupConditions.Accepted := by
  rw [writeConditions,ConditionGroup.mismatch_writeClause,mismatch_writeGrouping,
    ConditionGroup.mismatch_writeClause,mismatch_writeJoins,and_assoc,and_assoc]

theorem mismatch_writeOrdering (d : Dialect) (entries : List String) (out : Fragment) :
    (writeOrdering d entries out).mismatch = out.mismatch := by
  simp only [writeOrdering]
  split <;> rfl

theorem mismatch_writeLimit (d : Dialect) (limit offset : Option UInt64) (out : Fragment) :
    (writeLimit d limit offset out).mismatch = out.mismatch := by
  cases limit <;> cases offset <;> cases d <;> rfl

theorem mismatch_writeCteHead (d : Dialect) (name : String) (columns : List String) (out : Fragment) :
    (writeCteHead d name columns out).mismatch = out.mismatch := by
  simp only [writeCteHead]
  split <;> rfl

theorem mismatch_unless (bare : Bool) (out : Fragment) (s : String) :
    (if bare then out else out.text s).mismatch = out.mismatch := by
  cases bare <;> rfl

/-- What follows the WITH list, where the FROM clause and the set operations are given. -/
theorem clean_body (d : Dialect) (columns : List String) (exprs : List (String × List Value))
    (joins : List Join) (conditions : ConditionGroup) (grouping : List String)
    (groupConditions : ConditionGroup) (ordering : List String) (limit offset : Option UInt64)
    {source : Option (Source Select)} {combined : List (SetOp × Select)} {P Q : Prop}
    (inSource : ∀ f, Clean (writeSource d source f) ↔ f.mismatch = none ∧ P)
    (inCombined : ∀ f, Clean (writeCombined d combined f) ↔ f.mismatch = none ∧ Q) (f : Fragment) :
    Clean (writeSource d source (writeList d columns exprs f) >>= fun f =>
      let f := writeConditions d joins conditions grouping groupConditions f
      let f := writeLimit d limit offset (writeOrdering d ordering f)
      writeCombined d combined (if combined.isEmpty then f else f.text ")")) ↔
      f.mismatch = none ∧ (∀ e ∈ exprs, (Template.mk e.1 e.2).Matches) ∧ P ∧
        ((∀ j ∈ joins, j.Accepted) ∧ conditions.Accepted ∧ groupConditions.Accepted) ∧ Q := by
  have ended (f : Fragment) := (inCombined (if combined.isEmpty
      then writeLimit d limit offset (writeOrdering d ordering f)
      else (writeLimit d limit offset (writeOrdering d ordering f)).text ")")).trans
    (and_congr_left' (by rw [mismatch_unless,mismatch_writeLimit,mismatch_writeOrdering]))
  have finished := mismatch_writeConditions d joins conditions grouping groupConditions
  refine (clean_bind fun f => (ended _).trans ((and_congr_left' (finished f)).trans and_assoc)).trans ?_
  rw [inSource,mismatch_writeList,and_assoc,and_assoc]

mutual
theorem clean_writeTo (d : Dialect) : ∀ (q : Select) (out : Fragment),
    Clean (q.writeTo d out) ↔ out.mismatch = none ∧ ∀ p ∈ q.queries, p.Sound
  | ⟨ctes,columns,exprs,isDistinct,source,joins,conditions,grouping,groupConditions,ordering,limit,
      offset,combined,misuse⟩, out => by
    rw [queries,List.forall_mem_cons,nested,List.forall_mem_append,List.forall_mem_append]
    cases misuse with
    | some misuse =>
      rw [writeTo]
      exact ⟨fun h => absurd h (not_clean_error _),fun h => nomatch h.2.1.misuse⟩
    | none =>
      have body := clean_body d columns exprs joins conditions grouping groupConditions ordering limit
        offset (clean_writeSource d source) (clean_writeCombined d combined)
      rw [writeTo]
      refine (clean_bind fun f => (body _).trans (and_congr_left' ?_)).trans ?_
      · rw [mismatch_text,mismatch_unless,mismatch_unless]
      · rw [clean_writeCtes d true ctes,mismatch_text]
        constructor
        · rintro ⟨⟨clean,inCtes⟩,exprs,inSource,⟨joins,conditions,groups⟩,inCombined⟩
          exact ⟨clean,⟨rfl,exprs,joins,conditions,groups⟩,⟨inCtes,inSource⟩,inCombined⟩
        · rintro ⟨clean,sound,⟨inCtes,inSource⟩,inCombined⟩
          exact ⟨⟨clean,inCtes⟩,sound.exprs,inSource,
            ⟨sound.joins,sound.conditions,sound.groupConditions⟩,inCombined⟩

theorem clean_writeCtes (d : Dialect) : ∀ (first : Bool) (ctes : List (Cte Select)) (out : Fragment),
    Clean (writeCtes d first ctes out) ↔ out.mismatch = none ∧ ∀ p ∈ nestedCtes ctes, p.Sound
  | first, [], out => by
    rw [writeCtes,clean_ok]
    simp [nestedCtes]
  | first, ⟨name,columns,query,isRecursive⟩ :: ctes, out => by
    rw [writeCtes,clean_bind fun f => (clean_writeCtes d false ctes (f.text ")")),clean_writeTo d query,
      mismatch_writeCteHead,mismatch_unless,nestedCtes,and_assoc]
    rw [queries,← List.forall_mem_append,List.cons_append]

theorem clean_writeSource (d : Dialect) : ∀ (source : Option (Source Select)) (out : Fragment),
    Clean (writeSource d source out) ↔ out.mismatch = none ∧ ∀ p ∈ nestedSource source, p.Sound
  | none, out => by
    rw [writeSource,clean_ok]
    simp [nestedSource]
  | some (.table name), out => by
    rw [writeSource,clean_ok]
    simp [nestedSource]
  | some (.subquery query label), out => by
    rw [writeSource,clean_bind (P := True),clean_writeTo d query]
    · simp [nestedSource,queries]
    · intro f
      simp [clean_pure,ident]

theorem clean_writeCombined (d : Dialect) : ∀ (combined : List (SetOp × Select)) (out : Fragment),
    Clean (writeCombined d combined out) ↔
      out.mismatch = none ∧ ∀ p ∈ nestedCombined combined, p.Sound
  | [], out => by
    rw [writeCombined,clean_ok]
    simp [nestedCombined]
  | (op,query) :: rest, out => by
    rw [writeCombined,clean_bind fun f => (clean_writeCombined d rest (f.text ")")),
      clean_writeTo d query,nestedCombined,and_assoc]
    rw [queries,← List.forall_mem_append,List.cons_append]
    rfl
end

/-- The count leaves the select list out unless it counts the rows of a subquery. -/
theorem clean_writeCount (d : Dialect) (q : Select)
    (matching : ∀ e ∈ q.exprs, (Template.mk e.1 e.2).Matches) (out : Fragment) :
    Clean (q.writeCount d out) ↔ out.mismatch = none ∧ ∀ p ∈ q.queries, p.Sound := by
  obtain ⟨ctes,columns,exprs,isDistinct,source,joins,conditions,grouping,groupConditions,ordering,
    limit,offset,combined,misuse⟩ := q
  rw [writeCount]
  cases misuse with
  | some misuse =>
    exact ⟨fun h => absurd h (not_clean_error _),fun h => nomatch (h.2 _ List.mem_cons_self).misuse⟩
  | none =>
    have started (f : Fragment) (s : String) :
        ((if ctes.isEmpty then f else f.text " ").text s).mismatch = f.mismatch := by
      rw [mismatch_text,mismatch_unless]
    dsimp only
    split
    next subquery =>
      let rows : Select := ⟨[],columns,exprs,isDistinct,source,joins,conditions,grouping,
        groupConditions,[],none,none,combined,none⟩
      have asked (f : Fragment) : Clean (rows.writeTo d f >>= fun g =>
          pure ((g.text ") AS ").ident d "count_subquery")) ↔
          f.mismatch = none ∧ ∀ p ∈ rows.queries, p.Sound := by
        rw [clean_bind (P := True) fun g => by simp [clean_pure,ident],and_true,
          clean_writeTo]
      refine (clean_bind (P := ∀ p ∈ rows.queries, p.Sound) fun f => ?_).trans ?_
      · exact (asked _).trans (by rw [started])
      · rw [clean_writeCtes,mismatch_text]
        simp only [queries,nested,rows,nestedCtes,List.nil_append,List.forall_mem_append,
          List.forall_mem_cons,sound_iff]
        tauto
    next plain =>
      have alone : combined = [] := by
        simp only [countsSubquery,Bool.or_eq_true,Bool.not_eq_true',not_or] at plain
        simpa using plain.2
      have asked (f : Fragment) : Clean (writeSource d source f >>= fun g =>
          pure (writeConditions d joins conditions grouping groupConditions g)) ↔
          f.mismatch = none ∧ (∀ p ∈ nestedSource source, p.Sound) ∧ (∀ j ∈ joins, j.Accepted) ∧
            conditions.Accepted ∧ groupConditions.Accepted := by
        rw [clean_bind fun g => (clean_pure _).trans
          (mismatch_writeConditions d joins conditions grouping groupConditions g),clean_writeSource,
          and_assoc]
      refine (clean_bind fun f => (asked _).trans (and_congr_left' ?_)).trans ?_
      · rw [started]
      · rw [clean_writeCtes,mismatch_text]
        subst alone
        simp only [queries,nested,nestedCombined,List.append_nil,List.forall_mem_append,
          List.forall_mem_cons,sound_iff]
        have matching : ∀ e ∈ exprs, (Template.mk e.1 e.2).Matches := matching
        tauto

end Select

/-! ## UPDATE and DELETE -/

namespace Scope

theorem isOpen_eq_false_iff (s : Scope) :
    s.isOpen = false ↔ s.allRows ∨ s.conditions.isEmpty = false := by
  rw [isOpen]
  cases s.conditions.isEmpty <;> cases s.allRows <;> simp

theorem build_ok_iff (s : Scope) (d : Dialect) (refusal? : Option Misuse) {head : Fragment}
    (clean : head.mismatch = none) :
    (∃ t, (s.conditions.writeClause " WHERE " d head).buildReturning d refusal? s.returning = .ok t) ↔
      refusal? = none ∧ (s.returning = [] ∨ d.hasReturning) ∧ s.conditions.Accepted := by
  rw [Fragment.buildReturning_ok_iff,ConditionGroup.mismatch_writeClause,clean]
  simp

end Scope

namespace Update

theorem mismatch_writeAssignments (d : Dialect) (first : Bool) (entries : List (String × Assignment))
    (out : Fragment) : (writeAssignments d first entries out).mismatch = out.mismatch := by
  induction entries generalizing first out with
  | nil => rfl
  | cons entry entries ih =>
    obtain ⟨column,assigned⟩ := entry
    rw [writeAssignments,ih]
    cases assigned <;> cases first <;> rfl

theorem refusal?_eq_none_iff (q : Update) : q.refusal? = none ↔
    q.misuse = none ∧ q.fields.isEmpty = false ∧ (q.allRows ∨ q.conditions.isEmpty = false) := by
  rw [refusal?,Option.or_eq_none_iff,← q.isOpen_eq_false_iff]
  cases q.fields.isEmpty <;> cases q.isOpen <;> simp

theorem build_ok_iff (q : Update) (d : Dialect) : (∃ s, q.build d = .ok s) ↔
    q.refusal? = none ∧ (q.returning = [] ∨ d.hasReturning) ∧ q.conditions.Accepted :=
  q.toScope.build_ok_iff d q.refusal? (mismatch_writeAssignments ..)

end Update

namespace Delete

theorem refusal?_eq_none_iff (q : Delete) : q.refusal? = none ↔
    q.misuse = none ∧ (q.allRows ∨ q.conditions.isEmpty = false) := by
  rw [refusal?,Option.or_eq_none_iff,← q.isOpen_eq_false_iff]
  cases q.isOpen <;> simp

theorem build_ok_iff (q : Delete) (d : Dialect) : (∃ s, q.build d = .ok s) ↔
    q.refusal? = none ∧ (q.returning = [] ∨ d.hasReturning) ∧ q.conditions.Accepted :=
  q.toScope.build_ok_iff d q.refusal? rfl

end Delete

end ParamSql
