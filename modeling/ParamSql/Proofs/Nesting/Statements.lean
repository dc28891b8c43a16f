import ParamSql.Proofs.Conflict.Text
import ParamSql.Proofs.KeyMap
import ParamSql.Proofs.Nesting
import ParamSql.Proofs.Returning

/-! The clauses of SELECT and the statements that hold no query: INSERT, UPDATE, DELETE, their conflicts, and
the batches. Every writer leaves the depth as it is. -/
namespace ParamSql

namespace Fragment.Deep
open Text

variable {d : Dialect} {n : Nat} {f g : Fragment} {first : Bool} {s : Statement}

theorem balanced (h : Deep d 0 f) (built : f.build d = .ok s) : Text.Balanced s.sql.toList := by
  rw [f.eq_of_build built,f.toList_render,balanced_iff]
  exact h 0

/-- The list that is returned is balanced; a dialect that returns nothing refuses it. -/
theorem returning {columns : List String} (h : Deep d n f)
    (supplied : ∀ t ∈ Supplied.ofFree columns, t.Balanced) (written : f.returning d columns = .ok g) :
    Deep d n g := by
  rw [Fragment.returning] at written
  split at written
  · cases written
    exact h
  · split at written
    · cases written
      exact (h.keyword " RETURNING " (by decide)).text (balanced_columns supplied)
    · cases written

theorem built (h : Deep d 0 f) {columns : List String} {refusal? : Option Misuse}
    (supplied : ∀ t ∈ Supplied.ofFree columns, t.Balanced)
    (built : f.buildReturning d refusal? columns = .ok s) : Text.Balanced s.sql.toList := by
  have built := (buildReturning_eq_ok built).2
  cases written : f.returning d columns with
  | error e => rw [written] at built; cases built
  | ok g =>
    rw [written] at built
    exact (h.returning supplied written).balanced built

/-! ## Clauses of SELECT -/

theorem exprs (first : Bool) (exprs : List (String × List Value))
    (supplied : ∀ t ∈ exprs.map (Supplied.template ·.1), t.Balanced) (h : Deep d n f) :
    Deep d n (Select.writeExprs first exprs f) := by
  induction exprs generalizing first f with
  | nil => exact h
  | cons e exprs ih =>
    rw [List.map_cons,List.forall_mem_cons] at supplied
    obtain ⟨inExpr,inExprs⟩ := supplied
    exact ih false inExprs ((h.textUnless first ", " (by decide)).fill e.2 inExpr)

theorem list (columns : List String) (exprs : List (String × List Value))
    (named : ∀ t ∈ Supplied.ofFree columns, t.Balanced)
    (supplied : ∀ t ∈ exprs.map (Supplied.template ·.1), t.Balanced) (h : Deep d n f) :
    Deep d n (Select.writeList d columns exprs f) := by
  rw [Select.writeList]
  split
  · exact h.keyword "*" (by decide)
  · exact (h.text (balanced_columns named)).exprs _ exprs supplied

theorem join (j : Join) (supplied : ∀ t ∈ j.supplied, t.Balanced) (h : Deep d n f) :
    Deep d n (j.writeTo d f) := by
  obtain ⟨kind,table,on⟩ := j
  have named := supplied (.free table) List.mem_cons_self
  have headed := (h.keyword kind.keyword (by cases kind <;> decide)).table named
  cases on with
  | none => exact headed
  | some c =>
    simp only [Join.writeTo]
    split
    · exact headed
    · exact (headed.keyword " ON " (by decide)).condition c fun t member =>
        supplied t (List.mem_cons_of_mem _ member)

theorem joins (js : List Join) (supplied : ∀ t ∈ js.flatMap (·.supplied), t.Balanced)
    (h : Deep d n f) : Deep d n (Select.writeJoins d js f) := by
  induction js generalizing f with
  | nil => exact h
  | cons j js ih =>
    rw [List.flatMap_cons,List.forall_mem_append] at supplied
    obtain ⟨inJoin,inJoins⟩ := supplied
    exact ih inJoins (h.join j inJoin)

theorem grouping (columns : List String) (supplied : ∀ t ∈ Supplied.ofFree columns, t.Balanced)
    (h : Deep d n f) : Deep d n (Select.writeGrouping d columns f) := by
  rw [Select.writeGrouping]
  split
  · exact h
  · exact (h.keyword " GROUP BY " (by decide)).text (balanced_columns supplied)

theorem ordering (entries : List String) (supplied : ∀ t ∈ Supplied.ofFree entries, t.Balanced)
    (h : Deep d n f) : Deep d n (Select.writeOrdering d entries f) := by
  have items : Text.Balanced
      (String.intercalate ", " (entries.filterMap (Identifier.orderItem? d))).toList := by
    refine balanced_intercalate fun item found => ?_
    obtain ⟨entry,inside,item⟩ := List.mem_filterMap.mp found
    exact Identifier.balanced_orderItem (supplied (.free entry) (List.mem_map_of_mem inside)) item
  simp only [Select.writeOrdering]
  split
  · exact h
  · exact (h.keyword " ORDER BY " (by decide)).text items

theorem limit (limit offset : Option UInt64) (h : Deep d n f) :
    Deep d n (Select.writeLimit d limit offset f) := by
  have counted {f : Fragment} (h : Deep d n f) (s : String) (level : Text.Balanced s.toList) (m : UInt64) :
      Deep d n (f.text (s ++ m.toNat.repr)) :=
    h.text (by rw [String.toList_append]; exact level.append (balanced_repr _))
  cases limit with
  | some m =>
    have limited := counted h " LIMIT " (by decide) m
    cases offset with
    | none => exact limited
    | some k => exact counted limited " OFFSET " (by decide) k
  | none =>
    cases offset with
    | none => exact h
    | some k =>
      have opened := h.keyword " LIMIT " (by decide)
      cases d with
      | postgres => exact counted h " OFFSET " (by decide) k
      | sqlite | mysql => exact counted (opened.keyword _ (by decide)) " OFFSET " (by decide) k

/-! ## INSERT, UPDATE, DELETE -/

theorem assignment (a : Assignment) (supplied : ∀ t ∈ a.supplied, t.Balanced) (h : Deep d n f) :
    Deep d n (a.writeTo f) := by
  cases a with
  | value v => exact h.bind v
  | raw sql => exact h.text (supplied (.free sql) List.mem_cons_self)

theorem insertAssignments (entries : List (String × Assignment))
    (supplied : ∀ e ∈ entries, ∀ t ∈ e.2.supplied, t.Balanced) (h : Deep d n f) :
    Deep d n (Insert.writeAssignments first entries f) := by
  induction entries generalizing first f with
  | nil => exact h
  | cons e entries ih =>
    obtain ⟨inEntry,inEntries⟩ := List.forall_mem_cons.mp supplied
    exact ih inEntries ((h.textUnless first ", " (by decide)).assignment e.2 inEntry)

theorem updateAssignments (first : Bool) (entries : List (String × Assignment))
    (named : ∀ e ∈ entries, Text.Balanced e.1.toList)
    (supplied : ∀ e ∈ entries, ∀ t ∈ e.2.supplied, t.Balanced) (h : Deep d n f) :
    Deep d n (Update.writeAssignments d first entries f) := by
  induction entries generalizing first f with
  | nil => exact h
  | cons e entries ih =>
    obtain ⟨name,names⟩ := List.forall_mem_cons.mp named
    obtain ⟨inEntry,inEntries⟩ := List.forall_mem_cons.mp supplied
    have target := (h.textUnless first ", " (by decide)).ident name
    exact ih false names inEntries ((target.keyword " = " (by decide)).assignment e.2 inEntry)

variable {fields : Assignments}

theorem fieldNames (supplied : ∀ t ∈ fields.supplied, t.Balanced) :
    ∀ e ∈ fields.entries, Text.Balanced e.1.toList := fun e member =>
  supplied (.free e.1) (List.mem_flatMap.mpr ⟨e,member,List.mem_cons_self⟩)

theorem fieldValues (supplied : ∀ t ∈ fields.supplied, t.Balanced) :
    ∀ e ∈ fields.entries, ∀ t ∈ e.2.supplied, t.Balanced := fun e member t inside =>
  supplied t (List.mem_flatMap.mpr ⟨e,member,List.mem_cons_of_mem _ inside⟩)

theorem insert (q : Insert) (supplied : ∀ t ∈ q.supplied, t.Balanced) (h : Deep d n f) :
    Deep d n (q.writeTo d f) := by
  simp only [Insert.supplied,List.mem_append,List.mem_cons,or_imp,forall_and,forall_eq] at supplied
  obtain ⟨⟨inTable,inFields⟩,-⟩ := supplied
  have headed := (h.keyword "INSERT INTO " (by decide)).table inTable
  unfold Insert.writeTo
  split
  · exact headed.text (by cases d <;> decide)
  · have named : ∀ t ∈ Supplied.ofFree q.columns, t.Balanced := by
      intro t member
      obtain ⟨name,key,rfl⟩ := List.mem_map.mp member
      obtain ⟨e,inside,rfl⟩ := List.mem_map.mp key
      exact fieldNames inFields e inside
    have listed := (headed.opening " (" (by decide)).idents named
    have opened := listed.moved (s := ") VALUES (") (m := n + 1) (depth?_add n (by decide))
    exact (opened.insertAssignments q.fields.entries (fieldValues inFields)).closing ")" (by decide)

theorem update (q : Update) (supplied : ∀ t ∈ q.supplied, t.Balanced) (h : Deep d n f) :
    Deep d n (q.writeTo d f) := by
  simp only [Update.supplied,List.mem_append,List.mem_cons,or_imp,forall_and,forall_eq] at supplied
  obtain ⟨⟨⟨inTable,inFields⟩,inConditions⟩,-⟩ := supplied
  have headed := (h.keyword "UPDATE " (by decide)).table inTable
  have assigned := (headed.keyword " SET " (by decide)).updateAssignments true q.fields.entries
    (fieldNames inFields) (fieldValues inFields)
  exact assigned.clause q.conditions " WHERE " (by decide) inConditions

theorem delete (q : Delete) (supplied : ∀ t ∈ q.supplied, t.Balanced) (h : Deep d n f) :
    Deep d n (q.writeTo d f) := by
  simp only [Delete.supplied,List.mem_append,List.mem_cons,or_imp,forall_and,forall_eq] at supplied
  obtain ⟨⟨inTable,inConditions⟩,-⟩ := supplied
  have headed := (h.keyword "DELETE FROM " (by decide)).table inTable
  exact headed.clause q.conditions " WHERE " (by decide) inConditions

/-! ## Conflicts -/

theorem balanced_proposals {columns : List String}
    (supplied : ∀ t ∈ Supplied.ofFree columns, t.Balanced) :
    Text.Balanced (Upsert.proposals d columns).toList := by
  refine balanced_list (fun column level => ?_) supplied
  have quoted := d.balanced_quote level
  cases d with
  | postgres | sqlite =>
    rw [String.toList_append,String.toList_append]
    exact (quoted.append (by decide)).append quoted
  | mysql =>
    have opens : depth? 0 " = VALUES(".toList = some 1 := by decide
    have closes : depth? 1 ")".toList = some 0 := by decide
    have called := quoted.between opens closes
    simpa only [String.toList_append,List.append_assoc] using quoted.append called

theorem balanced_conflictText (q : Upsert) (targeted : ∀ t ∈ Supplied.ofFree q.target, t.Balanced)
    (overwritten : ∀ t ∈ Supplied.ofFree q.overwritten, t.Balanced) :
    Text.Balanced (q.conflictText d).toList := by
  have proposed := balanced_proposals overwritten (d := d)
  have names := balanced_list (fun _ level => d.balanced_quote level) targeted
  have opens : depth? 0 " ON CONFLICT (".toList = some 1 := by decide
  have closes : depth? 1 ")".toList = some 0 := by decide
  have listed := names.between opens closes
  unfold Upsert.conflictText
  cases d with
  | postgres | sqlite =>
    dsimp only
    split
    · simpa only [String.toList_append,List.append_assoc] using listed.append (by decide)
    · have updated : Text.Balanced " DO UPDATE SET ".toList := by decide
      simpa only [String.toList_append,List.append_assoc] using listed.append (updated.append proposed)
  | mysql =>
    have opened : Text.Balanced " ON DUPLICATE KEY UPDATE ".toList := by decide
    dsimp only
    split
    · rw [String.toList_append]
      refine opened.append ?_
      cases target : q.target with
      | nil => decide
      | cons key rest =>
        have quoted := Dialect.mysql.balanced_quote (targeted (.free key) (target ▸ List.mem_cons_self))
        simpa only [List.head?_cons,Option.elim_some,String.toList_append] using
          (quoted.append (by decide)).append quoted
    · rw [String.toList_append]
      exact opened.append proposed

/-! ## Batches -/

theorem rows (rows : List (List Value)) (h : Deep d n f) :
    Deep d n (BatchInsert.writeRows first rows f) := by
  induction rows generalizing first f with
  | nil => exact h
  | cons row rows ih =>
    have opened := (h.textUnless first ", " (by decide)).opening "(" (by decide)
    exact ih ((opened.bindList row).closing ")" (by decide))

theorem batchInsert (q : BatchInsert) (supplied : ∀ t ∈ q.supplied, t.Balanced) (h : Deep d n f) :
    Deep d n (q.writeTo d f) := by
  simp only [BatchInsert.supplied,List.mem_append,List.mem_cons,or_imp,forall_and,forall_eq] at supplied
  obtain ⟨⟨inTable,inColumns⟩,-⟩ := supplied
  have headed := (h.keyword "INSERT INTO " (by decide)).table inTable
  have listed := (headed.opening " (" (by decide)).idents inColumns
  exact (listed.closing ") VALUES " (by decide)).rows q.rows

theorem arms (column : String) (rows : List (Value × KeyMap Value)) (h : Deep d n f) :
    Deep d n (BatchUpdate.writeArms column rows f) := by
  induction rows generalizing f with
  | nil => exact h
  | cons row rows ih =>
    simp only [BatchUpdate.writeArms]
    split
    · exact ih ((((h.keyword " WHEN " (by decide)).bind row.1).keyword " THEN " (by decide)).bind _)
    · exact ih h

theorem caseColumns (q : BatchUpdate) (key : Text.Balanced q.key.toList) (first : Bool)
    (columns : List String) (named : ∀ s ∈ columns, Text.Balanced s.toList)
    (h : Deep d n f) : Deep d n (BatchUpdate.writeColumns d q first columns f) := by
  induction columns generalizing first f with
  | nil => exact h
  | cons column columns ih =>
    obtain ⟨name,names⟩ := List.forall_mem_cons.mp named
    have target := ((h.textUnless first ", " (by decide)).ident name).keyword " = CASE " (by decide)
    have arms := (target.ident key).arms column q.rows
    exact ih false names (((arms.keyword " ELSE " (by decide)).ident name).keyword " END" (by decide))

theorem batchUpdate (q : BatchUpdate) (supplied : ∀ t ∈ q.supplied, t.Balanced) (h : Deep d n f) :
    Deep d n (q.writeTo d f) := by
  simp only [BatchUpdate.supplied,List.mem_cons,or_imp,forall_and,forall_eq] at supplied
  obtain ⟨inTable,inKey,inRows⟩ := supplied
  have named : ∀ s ∈ q.columns, Text.Balanced s.toList := fun s member => by
    obtain ⟨e,found,rfl⟩ := KeyMap.mem_keys_ofList member
    obtain ⟨name,kept,rfl⟩ := List.mem_map.mp found
    obtain ⟨row,inside,key⟩ := List.mem_flatMap.mp (List.mem_filter.mp kept).1
    exact inRows (.free name) (List.mem_flatMap.mpr ⟨row,inside,List.mem_map_of_mem key⟩)
  have headed := (h.keyword "UPDATE " (by decide)).table inTable
  have assigned := (headed.keyword " SET " (by decide)).caseColumns q inKey true q.columns named
  have keyed := (assigned.keyword " WHERE " (by decide)).ident inKey
  exact ((keyed.opening " IN (" (by decide)).bindList _).closing ")" (by decide)

end Fragment.Deep

/-! ## Builds -/

section
variable {d : Dialect} {s : Statement}

theorem Insert.balanced_build (q : Insert) (supplied : ∀ t ∈ q.supplied, t.Balanced)
    (built : q.build d = .ok s) : Text.Balanced s.sql.toList :=
  (Fragment.Deep.empty.insert q supplied).built (List.forall_mem_append.mp supplied).2 built

theorem Update.balanced_build (q : Update) (supplied : ∀ t ∈ q.supplied, t.Balanced)
    (built : q.build d = .ok s) : Text.Balanced s.sql.toList :=
  (Fragment.Deep.empty.update q supplied).built (List.forall_mem_append.mp supplied).2 built

theorem Delete.balanced_build (q : Delete) (supplied : ∀ t ∈ q.supplied, t.Balanced)
    (built : q.build d = .ok s) : Text.Balanced s.sql.toList :=
  (Fragment.Deep.empty.delete q supplied).built (List.forall_mem_append.mp supplied).2 built

theorem Upsert.balanced_build (q : Upsert) (supplied : ∀ t ∈ q.supplied, t.Balanced)
    (built : q.build d = .ok s) : Text.Balanced s.sql.toList := by
  simp only [Upsert.supplied,List.mem_append,or_imp,forall_and] at supplied
  obtain ⟨⟨inInsert,inTarget⟩,inOverwritten⟩ := supplied
  have inserted := Fragment.Deep.empty.insert q.insert inInsert (d := d)
  have resolved := inserted.text (Fragment.Deep.balanced_conflictText q inTarget inOverwritten (d := d))
  rw [q.build_eq] at built
  exact resolved.built (List.forall_mem_append.mp inInsert).2 built

theorem BatchInsert.balanced_build (q : BatchInsert) (supplied : ∀ t ∈ q.supplied, t.Balanced)
    (built : q.build d = .ok s) : Text.Balanced s.sql.toList :=
  (Fragment.Deep.empty.batchInsert q supplied).built (List.forall_mem_append.mp supplied).2 built

theorem BatchUpdate.balanced_build (q : BatchUpdate) (supplied : ∀ t ∈ q.supplied, t.Balanced)
    (built : q.build d = .ok s) : Text.Balanced s.sql.toList := by
  rw [build] at built
  split at built
  next => cases built
  next =>
    split at built
    next => cases built
    next => exact (Fragment.Deep.empty.batchUpdate q supplied).balanced built

end

end ParamSql
