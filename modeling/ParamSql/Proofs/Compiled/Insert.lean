import ParamSql.Proofs.Compiled.Parts

/-! The reference compiler for INSERT. The values of the fields are the arguments, and an expression
stands where the placeholder of a value would. -/
namespace ParamSql
open Compiled

/-- The value that is bound for a column. -/
def Assignment.value? : Assignment → Option Value
  | value v => some v
  | raw _ => none

theorem Compiled.args_assignments {part : String × Assignment → Compiled}
    (own : ∀ e, (part e).args = e.2.value?.toList) (entries : List (String × Assignment)) :
    (separated ", " (entries.map part)).args = entries.filterMap (·.2.value?) := by
  rw [args_separated,List.flatMap_map,List.filterMap_eq_flatMap_toList]
  exact List.flatMap_congr fun e _ => own e

namespace Insert

def compiledAssignment : Assignment → Compiled
  | .value v => .slot v
  | .raw sql => .text sql

def defaultRow : Dialect → String
  | .mysql => " () VALUES ()"
  | .postgres | .sqlite => " DEFAULT VALUES"

def compiled (d : Dialect) (table : String) (fields : Assignments) : Compiled :=
  .text "INSERT INTO " ++ .text (Identifier.table d table) ++
    if fields.isEmpty then .text (defaultRow d)
    else
      .text " (" ++ .separated ", " (fields.entries.map fun e => .text (d.quote e.1)) ++
        .text ") VALUES (" ++ .separated ", " (fields.entries.map fun e => compiledAssignment e.2) ++
        .text ")"

theorem args_compiled (d : Dialect) (table : String) (fields : Assignments) :
    (compiled d table fields).args = fields.entries.filterMap (·.2.value?) := by
  have listed : (separated ", " (fields.entries.map fun e => compiledAssignment e.2)).args =
      fields.entries.filterMap (·.2.value?) :=
    args_assignments (fun e => by cases e.2 <;> rfl) fields.entries
  have names : (separated ", " (fields.entries.map fun e => Compiled.text (d.quote e.1))).args = [] := by
    rw [args_separated,List.flatMap_map]
    exact List.flatMap_eq_nil_iff.mpr fun e _ => rfl
  unfold compiled
  split
  next none => rw [List.isEmpty_iff.mp none]; rfl
  next => simp only [args_append,args_text,listed,names,List.nil_append,List.append_nil]

theorem ofFragment_assignments (entries : List (String × Assignment)) (out : Fragment) :
    ofFragment (writeAssignments true entries out) =
      ofFragment out ++ separated ", " (entries.map fun e => compiledAssignment e.2) := by
  refine ofFragment_separated (fun _ _ => rfl) (fun first e es out => ⟨_,rfl,?_⟩) true entries out
  cases e.2 <;> cases first <;>
    simp [Assignment.writeTo,compiledAssignment,ofFragment_bind,append_assoc]

theorem ofFragment_writeTo (d : Dialect) (q : Insert) :
    ofFragment (q.writeTo d .empty) = compiled d q.table q.fields := by
  unfold Insert.writeTo compiled
  split
  · simp only [ofFragment_text,ofFragment_empty,empty_append]
    cases d <;> rfl
  · simp only [Fragment.idents,ofFragment_text,ofFragment_assignments,ofFragment_empty,empty_append,
      text_intercalate,columns,KeyMap.keys,List.map_map,Function.comp_def,append_assoc]

theorem mismatch_compiled (d : Dialect) (table : String) (fields : Assignments) :
    (compiled d table fields).mismatch = none := by
  have names : (separated ", " (fields.entries.map fun e => Compiled.text (d.quote e.1))).mismatch = none :=
    mismatch_separated ", " (List.forall_mem_map.mpr fun e _ => rfl)
  have listed : (separated ", " (fields.entries.map fun e => compiledAssignment e.2)).mismatch = none :=
    mismatch_separated ", " (List.forall_mem_map.mpr fun e _ => by cases e.2 <;> rfl)
  unfold compiled
  split
  · rfl
  · simp only [mismatch_append,mismatch_text,names,listed,Option.none_or]

/-- An INSERT binds the values of its fields and holds no template. -/
theorem writeTo_keeps (d : Dialect) (q : Insert) : (q.writeTo d .empty).mismatch = none ∧
    (q.writeTo d .empty).args = q.fields.entries.filterMap (·.2.value?) := by
  have parts := ofFragment_writeTo d q
  exact ⟨(congrArg Compiled.mismatch parts).trans (mismatch_compiled d q.table q.fields),
    (congrArg Compiled.args parts).trans (args_compiled d q.table q.fields)⟩

variable {d : Dialect} {q : Insert} {s : Statement}

theorem untagged (d : Dialect) (q : Insert) : (q.writeTo d .empty).tag = none := by
  have reached : (Lockstep.continuing .empty).Reaches true (q.writeTo d .empty)
      ((q.mapValues id).writeTo d .empty) :=
    Lockstep.Reaches.start.insert q fun t _ => Lockstep.admits_ofAny t
  exact reached.untagged

theorem build_eq_compiled (built : q.build d = .ok s) :
    (compiled d q.table q.fields ++ .returning d q.returning).build d = .ok s := by
  rw [← ofFragment_writeTo]
  exact build_of_returning (q.untagged d) built

theorem exists_build (supported : q.returning = [] ∨ d.hasReturning) : ∃ s, q.build d = .ok s :=
  Fragment.buildReturning_ok_iff.mpr ⟨rfl,supported,(writeTo_keeps d q).1⟩

theorem bound_of_build (built : q.build d = .ok s) :
    s.args = q.fields.entries.filterMap (·.2.value?) ∧ s.timeout = none := by
  rw [Fragment.eq_of_buildReturning built]
  exact ⟨(writeTo_keeps d q).2,rfl⟩

end Insert

end ParamSql
