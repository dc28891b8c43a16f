import ParamSql.Proofs.Calls
import ParamSql.Proofs.Lockstep.Builds
import ParamSql.Proofs.Renumbering
import ParamSql.Proofs.Sound

/-! UPDATE and DELETE without the call for all rows. What a condition that is not empty writes can be
seen: it holds a slot or a character that is not blank. So a built statement has a WHERE clause that
can be seen, and conditions that contribute nothing, or one that was refused, never build. -/
namespace ParamSql

/-! ## What can be seen -/

def Symbol.isVisible : Symbol → Bool
  | char c => !Text.isBlank c
  | slot _ => true

def Mark.isVisible : Mark → Bool
  | char c => !Text.isBlank c
  | placeholder _ => true

theorem Mark.any_isVisible_number (count : Nat) (word : List Symbol) :
    (number count word).any isVisible = word.any Symbol.isVisible := by
  induction word generalizing count with
  | nil => rfl
  | cons symbol word ih =>
    cases symbol with
    | char c => rw [number,List.any_cons,List.any_cons,ih]; rfl
    | slot v => rfl

namespace Fragment

def isVisible (f : Fragment) : Bool := f.word.any (·.isVisible)

@[simp] theorem isVisible_text (f : Fragment) (s : String) :
    (f.text s).isVisible = (f.isVisible || !Text.isBlankText s) := by
  rw [isVisible,word_text,List.any_append,Symbol.ofText,List.any_map,Text.isBlankText,
    List.not_all_eq_any_not]
  rfl

theorem isVisible_inked (f : Fragment) {s : String} (inked : Text.isBlankText s = false) :
    (f.text s).isVisible := by
  rw [isVisible_text,inked,Bool.not_false,Bool.or_true]

@[simp] theorem isVisible_bind (f : Fragment) (v : Value) : (f.bind v).isVisible := by
  simp [isVisible,Symbol.isVisible]

theorem isVisible_fillChars (template : List Char) (args : List Value) (f : Fragment)
    (seen : f.isVisible ∨ template.all Text.isBlank = false) :
    (fillChars template args f).isVisible := by
  fun_induction fillChars template args f with
  | case1 cs args f ih | case3 cs f unpaired ih => exact ih (.inl (isVisible_inked f (by decide)))
  | case2 cs v args f unpaired ih => exact ih (.inl (f.isVisible_bind v))
  | case4 c cs args f unpaired unmarked bare ih =>
    refine ih ?_
    rw [isVisible_text]
    rcases seen with seen | inked
    · exact .inl (by rw [seen,Bool.true_or])
    · rw [List.all_cons] at inked
      cases blank : Text.isBlank c with
      | true => exact .inr (by rwa [blank,Bool.true_and] at inked)
      | false => exact .inl (by simp [Text.isBlankText,blank])
  | case5 => exact seen.resolve_right (by simp)

theorem isVisible_fill (f : Fragment) {sql : String} (args : List Value)
    (inked : Text.isBlankText sql = false) : (f.fill sql args).isVisible :=
  isVisible_fillChars sql.toList args _ (.inr inked)

end Fragment

namespace Expr
open Fragment

mutual
theorem isVisible_writeTo (d : Dialect) : ∀ (e : Expr) (out : Fragment), e.isEmpty = false →
    (e.writeTo d out).isVisible
  | .and members, out, live | .or members, out, live => by
    rw [writeTo]
    exact isVisible_writeJoined d _ _ _ members out (.inr live)
  | .not inner, out, live => by
    have live : inner.isEmpty = false := live
    rw [writeTo,live,if_neg Bool.false_ne_true,isVisible_text,isVisible_writeTo d inner _ live,
      Bool.true_or]
  | .compare column op value, out, _ => isVisible_bind _ value
  | .nullCheck column isNull, out, _ => isVisible_inked _ (by cases isNull <;> decide)
  | .inList column values negated, out, _ => by
    rw [writeTo]
    split
    · exact isVisible_inked _ (by cases negated <;> decide)
    · exact isVisible_inked _ (by decide)
  | .between column low high negated, out, _ => isVisible_bind _ high
  | .template sql args, out, live => out.isVisible_fill args live
  | .raw sql, out, live => isVisible_inked out live
  | .always, out, _ | .never, out, _ => isVisible_inked out (by decide)

theorem isVisible_writeJoined (d : Dialect) (keyword : String) (wrap first : Bool) :
    ∀ (es : List Expr) (out : Fragment), out.isVisible ∨ allEmpty es = false →
    (writeJoined d keyword wrap first es out).isVisible
  | [], out, seen => seen.resolve_right (by simp [allEmpty])
  | e :: es, out, seen => by
    rw [writeJoined]
    split
    next empty =>
      rw [allEmpty,empty,Bool.true_and] at seen
      exact isVisible_writeJoined d keyword wrap first es out seen
    next live =>
      have visible (f : Fragment) := isVisible_writeTo d e f (by simpa using live)
      refine isVisible_writeJoined d keyword wrap false es _ (.inl ?_)
      split <;> simp [visible]
end

/-- The expressions that contribute nothing: they have no leaf but blank text. -/
inductive Vacuous : Expr → Prop
  | and {members : List Expr} (vacuous : ∀ e ∈ members, Vacuous e) : Vacuous (.and members)
  | or {members : List Expr} (vacuous : ∀ e ∈ members, Vacuous e) : Vacuous (.or members)
  | not {inner : Expr} (vacuous : Vacuous inner) : Vacuous (.not inner)
  | template {sql : String} (blank : Text.isBlankText sql) (args : List Value) :
    Vacuous (.template sql args)
  | raw {sql : String} (blank : Text.isBlankText sql) : Vacuous (.raw sql)

theorem allEmpty_of_forall {es : List Expr} (empty : ∀ e ∈ es, e.isEmpty) : allEmpty es := by
  induction es with
  | nil => rfl
  | cons e es ih =>
    obtain ⟨first,rest⟩ := List.forall_mem_cons.mp empty
    rw [allEmpty,first,ih rest]
    rfl

theorem Vacuous.isEmpty {e : Expr} (vacuous : e.Vacuous) : e.isEmpty := by
  induction vacuous with
  | and _ ih | or _ ih => exact allEmpty_of_forall ih
  | not _ ih => exact ih
  | template blank _ | raw blank => exact blank

end Expr

def Condition.Vacuous : Condition → Prop
  | .raw sql _ => Text.isBlankText sql
  | .expr e => e.Vacuous

theorem Condition.Vacuous.isEmpty {c : Condition} (vacuous : c.Vacuous) : c.isEmpty := by
  cases c with
  | raw sql args => exact vacuous
  | expr e => exact Expr.Vacuous.isEmpty vacuous

theorem ConditionGroup.any_isVisible_compiled (d : Dialect) {g : ConditionGroup}
    (live : g.isEmpty = false) : (g.compiled d).marks.any (·.isVisible) := by
  have visible := g.toExpr.isVisible_writeTo d .empty (g.isEmpty_toExpr.trans live)
  rw [g.writeTo_toExpr] at visible
  rw [compiled,Compiled.ofFragment,Mark.any_isVisible_number]
  exact visible

/-! ## The parts of a statement -/

namespace Compiled

def slot (v : Value) : Compiled := ⟨[.placeholder 1],[v],none⟩

theorem ofFragment_bind (f : Fragment) (v : Value) : ofFragment (f.bind v) = ofFragment f ++ slot v := by
  have alone : ofFragment (Fragment.empty.bind v) = slot v := rfl
  rw [← alone,← ofFragment_append,Fragment.append_bind,Fragment.append_empty]

def returning (d : Dialect) (columns : List String) : Compiled :=
  if columns.isEmpty then .empty
  else .text " RETURNING " ++ .separated ", " (columns.map fun column => .text (Identifier.column d column))

theorem returning_eq_text (d : Dialect) (columns : List String) :
    returning d columns = text (returningText d columns) := by
  unfold returning returningText
  split
  · rfl
  · rw [text_append,text_intercalate,List.map_map]
    rfl

/-- A statement is what the reference makes of the fragment that was built. -/
theorem build_of_returning {f : Fragment} (untagged : f.tag = none) {d : Dialect}
    {refusal? : Option Misuse} {columns : List String} {s : Statement}
    (built : f.buildReturning d refusal? columns = .ok s) :
    (ofFragment f ++ returning d columns).build d = .ok s := by
  obtain ⟨rfl,-⟩ := Fragment.buildReturning_eq_ok built
  rw [Fragment.buildReturning_none] at built
  split at built
  next =>
    rw [returning_eq_text,← ofFragment_text]
    exact (build_ofFragment (f := f.text _) untagged d).trans built
  next => cases built

end Compiled

open Compiled

/-- What is built from a head and the conditions of a scope, as parts. -/
theorem Scope.build_eq_compiled {scope : Scope} {d : Dialect} {refusal? : Option Misuse} {f : Fragment}
    {head : Compiled} {s : Statement} (starts : ofFragment f = head)
    (untagged : (scope.conditions.writeClause " WHERE " d f).tag = none)
    (built : (scope.conditions.writeClause " WHERE " d f).buildReturning d refusal? scope.returning =
      .ok s) :
    (head ++ scope.conditions.compiledClause " WHERE " d ++ .returning d scope.returning).build d =
      .ok s := by
  have parts := build_of_returning untagged built
  rwa [ofFragment_clause,starts] at parts

namespace Update

def compiledAssignment (d : Dialect) (column : String) (assigned : Assignment) : Compiled :=
  .text (d.quote column) ++ .text " = " ++ match assigned with
    | .value v => .slot v
    | .raw sql => .text sql

def compiledHead (d : Dialect) (table : String) (fields : Assignments) : Compiled :=
  .text "UPDATE " ++ .text (Identifier.table d table) ++ .text " SET " ++
    .separated ", " (fields.entries.map fun e => compiledAssignment d e.1 e.2)

theorem ofFragment_assignments (d : Dialect) (first : Bool) (entries : List (String × Assignment))
    (out : Fragment) : ofFragment (writeAssignments d first entries out) =
      ofFragment out ++ let parts := entries.map fun e => compiledAssignment d e.1 e.2
        if first then separated ", " parts else concat (parts.map (text ", " ++ ·)) := by
  induction entries generalizing first out with
  | nil => cases first <;> exact (append_empty _).symm
  | cons entry entries ih =>
    obtain ⟨column,assigned⟩ := entry
    rw [writeAssignments,ih]
    cases assigned <;> cases first <;>
      simp [Assignment.writeTo,compiledAssignment,ofFragment_bind,ofFragment_ident,separated,concat,
        append_assoc]

theorem build_eq_compiled {q : Update} {d : Dialect} {s : Statement} (built : q.build d = .ok s) :
    (compiledHead d q.table q.fields ++ q.conditions.compiledClause " WHERE " d ++
      .returning d q.returning).build d = .ok s := by
  have reached : (Lockstep.continuing .empty).Reaches false (q.writeTo d .empty)
      ((q.mapValues id).writeTo d .empty) :=
    Lockstep.Reaches.start.update q fun t _ => Lockstep.admits_ofAny t
  refine q.toScope.build_eq_compiled ?_ reached.untagged built
  simp only [ofFragment_assignments,ofFragment_text,ofFragment_empty,empty_append,if_true,compiledHead]

end Update

namespace Delete

def compiledHead (d : Dialect) (table : String) : Compiled :=
  .text "DELETE FROM " ++ .text (Identifier.table d table)

theorem build_eq_compiled {q : Delete} {d : Dialect} {s : Statement} (built : q.build d = .ok s) :
    (compiledHead d q.table ++ q.conditions.compiledClause " WHERE " d ++
      .returning d q.returning).build d = .ok s := by
  have reached : (Lockstep.continuing .empty).Reaches false (q.writeTo d .empty)
      ((q.mapValues id).writeTo d .empty) :=
    Lockstep.Reaches.start.delete q fun t _ => Lockstep.admits_ofAny t
  refine q.toScope.build_eq_compiled ?_ reached.untagged built
  simp only [ofFragment_text,ofFragment_empty,empty_append,compiledHead]

end Delete

/-! ## Builds without the call for all rows -/

/-- A build that changes only rows that its conditions find. -/
structure Guarded (d : Dialect) (head : Compiled) (given : List WhereCall) (returned : List String)
    (built : Except Error Statement) : Prop where
  written : ∀ s, built = .ok s → (head ++ .text " WHERE " ++
    (ConditionGroup.mk (given.flatMap (·.accepted))).compiled d ++ .returning d returned).build d = .ok s
  visible : ∀ s, built = .ok s →
    ((ConditionGroup.mk (given.flatMap (·.accepted))).compiled d).marks.any (·.isVisible)
  vacuous : (∀ call ∈ given, ∀ c ∈ call.condition?, c.Vacuous) → ∀ s, built ≠ .ok s
  refused : ∀ call ∈ given, call.refusal?.isSome → ∀ s, built ≠ .ok s

/-- What calls say of the rows guards a build that has it for its WHERE clause, if the builder refuses
a misuse and conditions that contribute nothing. -/
theorem Scope.guarded_made {d : Dialect} {head : Compiled} {calls : List Call}
    (filtered : .allRows ∉ calls) {built : Except Error Statement}
    (accepted : ∀ s, built = .ok s → (made calls).misuse = none ∧
      ((made calls).allRows ∨ (made calls).conditions.isEmpty = false))
    (written : ∀ s, built = .ok s → (head ++ (made calls).conditions.compiledClause " WHERE " d ++
      .returning d (made calls).returning).build d = .ok s) :
    Guarded d head (calls.filterMap (·.where?)) (calls.flatMap (·.returned)) built := by
  have live (s : Statement) (same : built = .ok s) : (made calls).conditions.isEmpty = false :=
    (accepted s same).2.resolve_left (mt (allRows_made_iff calls).mp filtered)
  rw [made_eq] at live accepted written
  refine ⟨fun s same => ?_,fun s same => ConditionGroup.any_isVisible_compiled d (live s same),
    fun vacuous s same => ?_,fun call member refused s same => ?_⟩
  · have parts := written s same
    rwa [ConditionGroup.compiledClause,if_neg (by simp [live s same]),← append_assoc] at parts
  · refine Bool.false_ne_true ((live s same).symm.trans (List.all_eq_true.mpr fun c member => ?_))
    obtain ⟨call,inside,member⟩ := List.mem_flatMap.mp member
    exact (vacuous call inside c (by simpa using (List.mem_filter.mp member).1)).isEmpty
  · have none := List.findSome?_eq_none_iff.mp (Option.map_eq_none_iff.mp (accepted s same).1) call member
    rw [none] at refused
    cases refused

theorem Update.guarded_made (d : Dialect) (table : String) {calls : List Call}
    (filtered : .allRows ∉ calls) :
    Guarded d (compiledHead d table (calls.foldl Call.assign .empty)) (calls.filterMap (·.where?))
      (calls.flatMap (·.returned)) ((made table calls).build d) := by
  have others : .allRows ∉ calls.filterMap (·.scope?) := by
    intro member
    obtain ⟨call,inside,all⟩ := List.mem_filterMap.mp member
    cases call with
    | set call => cases all
    | scope call => cases all; exact filtered inside
  obtain ⟨conditions,returned,-⟩ := scope_calls calls
  rw [← conditions,← returned,made_eq]
  refine Scope.guarded_made others (fun s built => ?_) fun s built => ?_
  · have accepted := (refusal?_eq_none_iff _).mp ((build_ok_iff _ d).mp ⟨s,built⟩).1
    exact ⟨accepted.1,accepted.2.2⟩
  · have parts := build_eq_compiled built
    exact parts

theorem Delete.guarded_made (d : Dialect) (table : String) {calls : List Call}
    (filtered : .allRows ∉ calls) :
    Guarded d (compiledHead d table) (calls.filterMap (·.where?)) (calls.flatMap (·.returned))
      ((made table calls).build d) := by
  rw [made_eq]
  refine Scope.guarded_made filtered (fun s built => ?_) fun s built => ?_
  · exact (refusal?_eq_none_iff _).mp ((build_ok_iff _ d).mp ⟨s,built⟩).1
  · have parts := build_eq_compiled built
    exact parts

/-- Without the call for all rows, an UPDATE sets a column and both statements have a WHERE clause
that can be seen, or they do not build. -/
theorem builds_guarded (d : Dialect) (table : String) :
    (∀ calls : List Update.Call, .allRows ∉ calls →
      let fields := calls.foldl Update.Call.assign .empty
      Guarded d (Update.compiledHead d table fields) (calls.filterMap (·.where?))
        (calls.flatMap (·.returned)) ((Update.made table calls).build d) ∧
      ∀ s, (Update.made table calls).build d = .ok s → fields.isEmpty = false) ∧
    (∀ calls : List Delete.Call, .allRows ∉ calls →
      Guarded d (Delete.compiledHead d table) (calls.filterMap (·.where?))
        (calls.flatMap (·.returned)) ((Delete.made table calls).build d)) := by
  refine ⟨fun calls filtered => ⟨Update.guarded_made d table filtered,fun s built => ?_⟩,
    fun calls filtered => Delete.guarded_made d table filtered⟩
  have accepted := (Update.refusal?_eq_none_iff _).mp ((Update.build_ok_iff _ d).mp ⟨s,built⟩).1
  rw [Update.made_eq] at accepted
  exact accepted.2.1

theorem builds_guarded_users :
    let calls : List Update.Call := [.set (.set "name" (.text "a")),.filter (.filterExpr (.eq "id" (.int 7)))]
    let emptied : List Delete.Call := [.filter (.filterExpr (.not (.and []))),
      .filter (.equalIfGiven "id" none)]
    .allRows ∉ calls ∧ .allRows ∉ emptied ∧
      (∃ s, (Update.made "users" calls).build .postgres = .ok s ∧
        s.sql = "UPDATE \"users\" SET \"name\" = $1 WHERE \"id\" = $2" ∧
        (Update.compiledHead .postgres "users" (KeyMap.empty.insert "name" (.value (.text "a"))) ++
          .text " WHERE " ++ (ConditionGroup.mk [.expr (.eq "id" (.int 7))]).compiled .postgres ++
          .returning .postgres []).build .postgres = .ok s) ∧
      ∀ s, (Delete.made "users" emptied).build .postgres ≠ .ok s := by
  intro calls emptied
  have filtered : .allRows ∉ calls := by simp [calls]
  have deleting : .allRows ∉ emptied := by simp [emptied]
  have built : (Update.made "users" calls).build .postgres = .ok
      ⟨"UPDATE \"users\" SET \"name\" = $1 WHERE \"id\" = $2",[.text "a",.int 7],none,none⟩ := by decide
  refine ⟨filtered,deleting,⟨_,built,rfl,?_⟩,?_⟩
  · exact ((builds_guarded .postgres "users").1 calls filtered).1.written _ built
  · refine ((builds_guarded .postgres "users").2 emptied deleting).vacuous ?_
    simp [emptied,Scope.Call.where?,WhereCall.condition?,Condition.Vacuous]
    exact .not (.and (by simp))

end ParamSql
