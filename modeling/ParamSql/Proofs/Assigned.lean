import ParamSql.Proofs.Calls.Insert
import ParamSql.Proofs.Compiled.Insert
import ParamSql.Proofs.Dialects

/-! Fields of INSERT and UPDATE. A statement is made of what was written to each column last, in the
order of the columns: the order of the calls that set them cannot be seen. The values of the fields are
the first arguments, and an expression stands where the placeholder of a value would. -/
namespace ParamSql
open Compiled

/-! ## The statements over their fields -/

namespace Upsert

theorem build_eq_compiled {q : Upsert} {d : Dialect} {s : Statement} (built : q.build d = .ok s) :
    (Insert.compiled d q.insert.table q.insert.fields ++
      (.text (q.conflictText d) ++ .returning d q.insert.returning)).build d = .ok s := by
  rw [q.build_eq] at built
  rw [← append_assoc,← Insert.ofFragment_writeTo,← ofFragment_text]
  exact build_of_returning (f := (q.insert.writeTo d .empty).text _) (q.insert.untagged d) built

end Upsert

theorem Update.args_compiledHead (d : Dialect) (table : String) (fields : Assignments) :
    (compiledHead d table fields).args = fields.entries.filterMap (·.2.value?) := by
  have listed : (separated ", " (fields.entries.map fun e => compiledAssignment d e.1 e.2)).args =
      fields.entries.filterMap (·.2.value?) :=
    args_assignments (fun ⟨column,assigned⟩ => by cases assigned <;> rfl) fields.entries
  rw [compiledHead,args_append,listed]
  rfl

/-! ## Fields in the order of their columns -/

/-- A statement starts with the fields that calls leave: each column once, in ascending order and with
what was written to it last. `rest` is behind them. -/
structure Assigns (calls : List SetCall) (head : Assignments → Compiled) (rest : Compiled) (d : Dialect)
    (s : Statement) (fields : Assignments) : Prop where
  ascending : fields.keys.Pairwise (· < ·)
  last : ∀ column a, (column,a) ∈ fields.entries ↔ SetCall.lastWritten? calls column = some a
  written : (head fields ++ rest).build d = .ok s
  args : s.args = fields.entries.filterMap (·.2.value?) ++ rest.args

theorem assigns_of_build {calls : List SetCall} {head : Assignments → Compiled} {rest : Compiled}
    {d : Dialect} {s : Statement} (own : ∀ fields, (head fields).args = fields.entries.filterMap (·.2.value?))
    (built : (head (calls.foldl SetCall.assign .empty) ++ rest).build d = .ok s) :
    ∃ fields, Assigns calls head rest d s fields := by
  refine ⟨calls.foldl SetCall.assign .empty,KeyMap.ascending_keys _,fun column a => ?_,built,?_⟩
  · rw [KeyMap.mem_entries_iff,SetCall.get?_foldl_assign]
  · rw [eq_of_build built,args_append,own]

/-- Statements whose calls wrote the same to each column last are built alike, whatever else was
called in between; and a statement that is built lists what was written last. -/
theorem builds_last_written (d : Dialect) (table : String) :
    (∀ calls others : List Insert.Call,
      SetCall.Agree (calls.filterMap (·.set?)) (others.filterMap (·.set?)) →
      (calls.flatMap (·.returned) = others.flatMap (·.returned) →
        (Insert.made table calls).build d = (Insert.made table others).build d) ∧
      ∀ after later : List Upsert.Call, after.filterMap (·.target?) = later.filterMap (·.target?) →
        after.filterMap (·.action?) = later.filterMap (·.action?) →
        calls.flatMap (·.returned) ++ after.flatMap (·.returned) =
          others.flatMap (·.returned) ++ later.flatMap (·.returned) →
        (Upsert.made table calls after).build d = (Upsert.made table others later).build d) ∧
    (∀ calls others : List Update.Call,
      SetCall.Agree (calls.filterMap (·.set?)) (others.filterMap (·.set?)) →
      calls.filterMap (·.where?) = others.filterMap (·.where?) →
      calls.flatMap (·.returned) = others.flatMap (·.returned) →
      calls.any (·.isAllRows) = others.any (·.isAllRows) →
      (Update.made table calls).build d = (Update.made table others).build d) ∧
    (∀ (calls : List Insert.Call) (s : Statement), (Insert.made table calls).build d = .ok s →
      ∃ fields, Assigns (calls.filterMap (·.set?)) (Insert.compiled d table)
        (.returning d (calls.flatMap (·.returned))) d s fields) ∧
    (∀ (calls : List Insert.Call) (after : List Upsert.Call) (s : Statement),
      (Upsert.made table calls after).build d = .ok s →
      ∃ fields, Assigns (calls.filterMap (·.set?)) (Insert.compiled d table)
        (.text ((Upsert.made table calls after).conflictText d) ++
          .returning d (calls.flatMap (·.returned) ++ after.flatMap (·.returned))) d s fields) ∧
    (∀ (calls : List Update.Call) (s : Statement), (Update.made table calls).build d = .ok s →
      ∃ fields, Assigns (calls.filterMap (·.set?)) (Update.compiledHead d table)
        ((ConditionGroup.mk ((calls.filterMap (·.where?)).flatMap (·.accepted))).compiledClause " WHERE " d ++
          .returning d (calls.flatMap (·.returned))) d s fields) := by
  refine ⟨fun calls others same => ⟨fun returned => ?_,fun after later target action returned => ?_⟩,
    fun calls others same conditions returned all => ?_,fun calls s built => ?_,
    fun calls after s built => ?_,fun calls s built => ?_⟩
  · rw [Insert.made_eq,Insert.made_eq,same.foldl_assign,returned]
  · rw [Upsert.made_eq,Upsert.made_eq,same.foldl_assign,target,action,returned]
  · have scope : Scope.made (calls.filterMap (·.scope?)) = Scope.made (others.filterMap (·.scope?)) := by
      obtain ⟨filters,columns,whole⟩ := Update.scope_calls calls
      obtain ⟨filters',columns',whole'⟩ := Update.scope_calls others
      rw [Scope.made_eq,Scope.made_eq,filters,filters',columns,columns',whole,whole',conditions,
        returned,all]
    rw [Update.made_eq,Update.made_eq,Update.foldl_assign_eq,Update.foldl_assign_eq,
      same.foldl_assign,scope]
  · have parts := Insert.build_eq_compiled built
    rw [Insert.made_eq] at parts
    exact assigns_of_build (Insert.args_compiled d table) parts
  · have parts := Upsert.build_eq_compiled built
    rw [(congrArg Upsert.insert (Upsert.made_eq table calls after) :)] at parts
    exact assigns_of_build (Insert.args_compiled d table) parts
  · have parts := Update.build_eq_compiled built
    obtain ⟨filters,columns,-⟩ := Update.scope_calls calls
    rw [Update.made_eq,Scope.made_eq,filters,columns,Update.foldl_assign_eq,append_assoc] at parts
    exact assigns_of_build (Update.args_compiledHead d table) parts

theorem builds_last_written_visits :
    let calls : List Insert.Call := [.set (.set "visits" (.int 1)),.set (.setRaw "at" "now()"),
      .set (.setIfGiven "name" none),.returning ["id"],.set (.set "visits" (.int 2))]
    let others : List Insert.Call := [.returning ["id"],
      .set (.setAll ((KeyMap.empty.insert "visits" (.int 2)).insert "at" (.int 0))),
      .set (.setRaw "at" "now()")]
    let kept : List Insert.Call := [.set (.setRaw "at" "now()"),.set (.set "visits" (.int 2))]
    let after : List Upsert.Call := [.onConflict ["id"],.resolve .keep]
    let updates : List Update.Call := [.set (.set "visits" (.int 1)),
      .filter (.filterExpr (.eq "id" (.int 7))),.set (.setRaw "at" "now()"),.set (.set "visits" (.int 2))]
    let rearranged : List Update.Call := [.set (.setRaw "at" "now()"),
      .set (.setIfGiven "visits" (some (.int 2))),.filter (.filterExpr (.eq "id" (.int 7)))]
    (Insert.made "pages" calls).build .postgres = (Insert.made "pages" others).build .postgres ∧
      (Upsert.made "pages" calls after).build .postgres =
        (Upsert.made "pages" others after).build .postgres ∧
      (Update.made "pages" updates).build .postgres = (Update.made "pages" rearranged).build .postgres ∧
      (∃ fields, Assigns (calls.filterMap (·.set?)) (Insert.compiled .postgres "pages")
        (.returning .postgres ["id"]) .postgres
        ⟨"INSERT INTO \"pages\" (\"at\", \"visits\") VALUES (now(), $1) RETURNING \"id\"",[.int 2],none,none⟩
        fields) ∧
      (∃ fields, Assigns (kept.filterMap (·.set?)) (Insert.compiled .postgres "pages")
        (.text ((Upsert.made "pages" kept after).conflictText .postgres) ++ .returning .postgres [])
        .postgres
        ⟨"INSERT INTO \"pages\" (\"at\", \"visits\") VALUES (now(), $1) ON CONFLICT (\"id\") DO NOTHING",
          [.int 2],none,none⟩ fields) ∧
      ∃ fields, Assigns (updates.filterMap (·.set?)) (Update.compiledHead .postgres "pages")
        ((ConditionGroup.mk [.expr (.eq "id" (.int 7))]).compiledClause " WHERE " .postgres ++
          .returning .postgres []) .postgres
        ⟨"UPDATE \"pages\" SET \"at\" = now(), \"visits\" = $1 WHERE \"id\" = $2",[.int 2,.int 7],none,none⟩
        fields := by
  intro calls others kept after updates rearranged
  obtain ⟨inserts,update,listed,conflicting,updated⟩ := builds_last_written .postgres "pages"
  have same : SetCall.Agree (calls.filterMap (·.set?)) (others.filterMap (·.set?)) := by
    intro column
    simp only [calls,others,SetCall.lastWritten?,Insert.Call.set?,List.filterMap_cons,
      List.filterMap_nil,List.reverse_cons,List.reverse_nil,List.nil_append,List.cons_append,
      List.findSome?_cons,SetCall.written?,KeyMap.get?_insert]
    grind [KeyMap.get?, KeyMap.empty, valueAt?]
  have alike : SetCall.Agree (updates.filterMap (·.set?)) (rearranged.filterMap (·.set?)) := by
    intro column
    simp only [updates,rearranged,SetCall.lastWritten?,Update.Call.set?,List.filterMap_cons,
      List.filterMap_nil,List.reverse_cons,List.reverse_nil,List.nil_append,List.cons_append,
      List.findSome?_cons,SetCall.written?]
    grind
  obtain ⟨inserts,upserts⟩ := inserts calls others same
  refine ⟨inserts rfl,upserts after after rfl rfl rfl,update updates rearranged alike rfl rfl rfl,
    ?_,?_,?_⟩
  · exact listed calls _ (by decide)
  · exact conflicting kept after _ (by decide)
  · exact updated updates _ (by decide)

end ParamSql
