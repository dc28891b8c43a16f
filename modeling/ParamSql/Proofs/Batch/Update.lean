import ParamSql.Batch.Update
import ParamSql.Proofs.Batch.Unambiguous
import ParamSql.Proofs.KeyMap
import ParamSql.Proofs.Template

/-! The UPDATE of many rows as a statement of CASE assignments. The writer binds a key and a value for
each arm, column after column, and then all keys; the placeholders of the reading have the same
order. Main statement: every reading of a built statement gives a stored row whose key is found the
values of the first rows that give them, and leaves all else. -/
namespace ParamSql

namespace BatchUpdate

abbrev Rows := List (Value × KeyMap Value)

/-- The arms of a column with the numbers of their placeholders, after `count` others. -/
def armsFrom (column : String) : (count : Nat) → Rows → List (Nat × Nat)
  | _, [] => []
  | count, (_,values) :: rows =>
    match values.get? column with
    | some _ => (count + 1,count + 2) :: armsFrom column (count + 2) rows
    | none => armsFrom column count rows

def armArgs (column : String) : Rows → List Value
  | [] => []
  | (key,values) :: rows =>
    match values.get? column with
    | some v => key :: v :: armArgs column rows
    | none => armArgs column rows

def assignmentsFrom (rows : Rows) : (count : Nat) → List String → List (CaseAssignment Nat)
  | _, [] => []
  | count, column :: columns =>
    ⟨column,armsFrom column count rows⟩ ::
      assignmentsFrom rows (count + (armArgs column rows).length) columns

def assignmentArgs (rows : Rows) (columns : List String) : List Value :=
  columns.flatMap (armArgs · rows)

theorem assignmentArgs_cons (rows : Rows) (column : String) (columns : List String) :
    assignmentArgs rows (column :: columns) = armArgs column rows ++ assignmentArgs rows columns := rfl

/-- The statement that is written. -/
def reading (q : BatchUpdate) : CaseUpdate Nat :=
  ⟨q.table,q.key,assignmentsFrom q.rows 0 q.columns,
    List.range' ((assignmentArgs q.rows q.columns).length + 1) q.rows.length⟩

theorem args_writeArms (column : String) (rows : Rows) (f : Fragment) :
    (writeArms column rows f).args = f.args ++ armArgs column rows := by
  induction rows generalizing f with
  | nil => simp [writeArms,armArgs]
  | cons row rows ih =>
    rw [writeArms,armArgs]
    cases row.2.get? column <;> simp [ih]

theorem render_writeArms (d : Dialect) (column : String) (rows : Rows) (f : Fragment) :
    (writeArms column rows f).render d = f.render d ++
      String.join ((armsFrom column f.args.length rows).map (CaseAssignment.armText d)) := by
  induction rows generalizing f with
  | nil => simp [writeArms,armsFrom]
  | cons row rows ih =>
    rw [writeArms,armsFrom]
    cases row.2.get? column with
    | none => exact ih f
    | some v => simp [ih,CaseAssignment.armText,String.append_assoc]

theorem args_writeColumns (d : Dialect) (q : BatchUpdate) (first : Bool) (columns : List String)
    (f : Fragment) :
    (writeColumns d q first columns f).args = f.args ++ assignmentArgs q.rows columns := by
  induction columns generalizing first f with
  | nil => simp [writeColumns,assignmentArgs]
  | cons column columns ih =>
    rw [writeColumns,ih]
    cases first <;> simp [args_writeArms,assignmentArgs,Fragment.ident]

theorem render_writeColumns (d : Dialect) (q : BatchUpdate) (first : Bool) (columns : List String)
    (f : Fragment) : (writeColumns d q first columns f).render d = f.render d ++
      let parts := (assignmentsFrom q.rows f.args.length columns).map (·.text d q.key)
      if first then String.intercalate ", " parts else String.join (parts.map (", " ++ ·)) := by
  induction columns generalizing first f with
  | nil => cases first <;> simp [writeColumns,assignmentsFrom]
  | cons column columns ih =>
    rw [writeColumns,ih,assignmentsFrom,List.map_cons]
    cases first <;>
      simp [intercalate_cons,render_writeArms,args_writeArms,CaseAssignment.text,Fragment.ident,
        String.append_assoc]

theorem args_writeTo (d : Dialect) (q : BatchUpdate) :
    (q.writeTo d .empty).args = assignmentArgs q.rows q.columns ++ q.rows.map (·.1) := by
  simp [writeTo,Fragment.args_bindList,args_writeColumns,Fragment.ident]

theorem render_writeTo (d : Dialect) {q : BatchUpdate} (some : q.rows ≠ []) :
    (q.writeTo d .empty).render d = q.reading.text d := by
  have keys : q.rows.map (·.1) ≠ [] := by simpa using some
  unfold CaseUpdate.text
  simp [writeTo,Fragment.render_bindList d _ keys,render_writeColumns,args_writeColumns,Fragment.ident,
    reading,String.append_assoc]

/-! ## The numbers and their values -/

theorem slots_armsFrom (column : String) (count : Nat) (rows : Rows) :
    (armsFrom column count rows).flatMap (fun arm => [arm.1,arm.2]) =
      List.range' (count + 1) (armArgs column rows).length := by
  induction rows generalizing count with
  | nil => rfl
  | cons row rows ih =>
    rw [armsFrom,armArgs]
    cases row.2.get? column with
    | none => exact ih count
    | some v =>
      rw [List.flatMap_cons,ih,List.length_cons,List.length_cons,List.range'_succ,List.range'_succ]
      rfl

theorem slots_assignmentsFrom (rows : Rows) (count : Nat) (columns : List String) :
    (assignmentsFrom rows count columns).flatMap (·.slots) =
      List.range' (count + 1) (assignmentArgs rows columns).length := by
  induction columns generalizing count with
  | nil => rfl
  | cons column columns ih =>
    rw [assignmentsFrom,List.flatMap_cons,ih,CaseAssignment.slots,slots_armsFrom,assignmentArgs_cons,
      List.length_append,Nat.add_right_comm,List.range'_append_1]

theorem slots_reading (d : Dialect) (q : BatchUpdate) :
    q.reading.slots = List.range' 1 (q.writeTo d .empty).args.length := by
  rw [CaseUpdate.slots,reading,slots_assignmentsFrom,args_writeTo,List.length_append,List.length_map,
    Nat.zero_add,Nat.add_comm _ 1,List.range'_append_1]

/-- The statement with the values that its placeholders stand for. -/
def meaning (q : BatchUpdate) : CaseUpdate Value :=
  ⟨q.table,q.key,
    q.columns.map fun column => ⟨column,q.rows.filterMap fun r => (r.2.get? column).map (r.1,·)⟩,
    q.rows.map (·.1)⟩

theorem bound_armsFrom (column : String) (rows : Rows) (before after : List Value) :
    (armsFrom column before.length rows).map (fun arm =>
      ((before ++ armArgs column rows ++ after).getD (arm.1 - 1) .null,
        (before ++ armArgs column rows ++ after).getD (arm.2 - 1) .null)) =
      rows.filterMap fun r => (r.2.get? column).map (r.1,·) := by
  induction rows generalizing before with
  | nil => rfl
  | cons row rows ih =>
    rw [armsFrom,armArgs,List.filterMap_cons]
    cases row.2.get? column with
    | none => exact ih before
    | some v =>
      have rest := ih (before ++ [row.1,v])
      simp only [List.length_append,List.length_cons,List.length_nil,List.append_assoc,
        List.cons_append,List.nil_append,Nat.zero_add] at rest
      simp only [List.map_cons,List.append_assoc,List.cons_append,rest,Option.map_some]
      simp

theorem bound_assignmentsFrom (rows : Rows) (columns : List String) (before after : List Value) :
    (assignmentsFrom rows before.length columns).map (·.map fun number =>
      (before ++ assignmentArgs rows columns ++ after).getD (number - 1) .null) =
      columns.map fun column => ⟨column,rows.filterMap fun r => (r.2.get? column).map (r.1,·)⟩ := by
  induction columns generalizing before with
  | nil => rfl
  | cons column columns ih =>
    have rest := ih (before ++ armArgs column rows)
    have first := bound_armsFrom column rows before (assignmentArgs rows columns ++ after)
    simp only [List.length_append,List.append_assoc] at rest first
    rw [assignmentsFrom,List.map_cons,List.map_cons,assignmentArgs_cons]
    simp only [List.append_assoc]
    rw [rest,CaseAssignment.map]
    simp only [first]

theorem bound_range (before values : List Value) :
    (List.range' (before.length + 1) values.length).map
      (fun number => (before ++ values).getD (number - 1) .null) = values := by
  refine List.ext_getElem (by simp) fun i _ inside => ?_
  simp [Nat.add_right_comm before.length 1 i,inside]

theorem bindArgs_reading (d : Dialect) (q : BatchUpdate) :
    q.reading.bindArgs (q.writeTo d .empty).args = q.meaning := by
  have assigned := bound_assignmentsFrom q.rows q.columns [] (q.rows.map (·.1))
  have found := bound_range (assignmentArgs q.rows q.columns) (q.rows.map (·.1))
  simp only [List.nil_append,List.length_nil,List.length_map] at assigned found
  rw [args_writeTo,CaseUpdate.bindArgs,CaseUpdate.map,reading,meaning]
  rw [assigned,found]

/-! ## What the statement does -/

theorem mem_columns {q : BatchUpdate} {column : String} :
    column ∈ q.columns ↔ column ≠ q.key ∧ ∃ r ∈ q.rows, column ∈ r.2.keys := by
  rw [columns,KeyMap.mem_keys_ofList_iff]
  simp only [List.mem_map,List.mem_filter,List.mem_flatMap,bne_iff_ne]
  constructor
  · rintro ⟨_,⟨_,⟨inside,other⟩,rfl⟩,rfl⟩
    exact ⟨other,inside⟩
  · rintro ⟨other,inside⟩
    exact ⟨_,⟨column,⟨inside,other⟩,rfl⟩,rfl⟩

theorem columns_meaning (q : BatchUpdate) : q.meaning.assignments.map (·.column) = q.columns := by
  simp [meaning,Function.comp_def]

/-- The value that the first row with an equal key gives for a column, among the rows that give one. -/
def given? (q : BatchUpdate) (same : Value → Value → Bool) (stored : Value) (column : String) :
    Option Value :=
  q.rows.findSome? fun r => if sqlEqual same stored r.1 then r.2.get? column else none

theorem given?_of_absent {q : BatchUpdate} {column : String}
    (absent : ∀ r ∈ q.rows, column ∉ r.2.keys) (same : Value → Value → Bool) (stored : Value) :
    q.given? same stored column = none := by
  refine List.findSome?_eq_none_iff.mpr fun r member => ?_
  have none : r.2.get? column = none := by
    simpa using mt KeyMap.mem_keys_iff.mpr (absent r member)
  rw [none,ite_self]

theorem value_meaning (q : BatchUpdate) (same : Value → Value → Bool) (row : StoredRow)
    (column : String) :
    (CaseAssignment.mk column (q.rows.filterMap fun r => (r.2.get? column).map (r.1,·))).value same
      q.key row = (q.given? same (row q.key) column).getD (row column) := by
  rw [CaseAssignment.value,given?]
  congr 1
  induction q.rows with
  | nil => rfl
  | cons r rows ih =>
    rw [List.filterMap_cons,List.findSome?_cons]
    cases r.2.get? column with
    | none => simpa using ih
    | some v =>
      simp only [Option.map_some,List.find?_cons]
      cases sqlEqual same (row q.key) r.1 with
      | true => rfl
      | false => simpa using ih

theorem assignedAtOnce_meaning (q : BatchUpdate) (same : Value → Value → Bool) (row : StoredRow)
    {column : String} (other : column ≠ q.key) :
    CaseUpdate.assignedAtOnce same q.key q.meaning.assignments row column =
      (q.given? same (row q.key) column).getD (row column) := by
  rw [CaseUpdate.assignedAtOnce,meaning,List.find?_map]
  cases found : q.columns.find? ((·.column = column) ∘ fun column => CaseAssignment.mk column
      (q.rows.filterMap fun r => (r.2.get? column).map (r.1,·))) with
  | some name =>
    obtain rfl : name = column := by simpa using List.find?_some found
    exact q.value_meaning same row name
  | none =>
    have absent : ∀ r ∈ q.rows, column ∉ r.2.keys := fun r member inside => by
      have unlisted := List.find?_eq_none.mp found column (mem_columns.mpr ⟨other,r,member,inside⟩)
      simp at unlisted
    rw [given?_of_absent absent]
    rfl

theorem assignedAtOnce_key (q : BatchUpdate) (same : Value → Value → Bool) (row : StoredRow) :
    CaseUpdate.assignedAtOnce same q.key q.meaning.assignments row q.key = row q.key := by
  have unset : q.meaning.assignments.find? (·.column = q.key) = none := by
    refine List.find?_eq_none.mpr fun a member h => ?_
    have listed : a.column ∈ q.columns := q.columns_meaning ▸ List.mem_map_of_mem member
    exact (mem_columns.mp listed).1 (of_decide_eq_true h)
  rw [CaseUpdate.assignedAtOnce,unset]

/-- What the statement makes of a stored row, in every dialect. -/
theorem applied_meaning (d : Dialect) (q : BatchUpdate) (same : Value → Value → Bool)
    (row : StoredRow) : q.meaning.applied same d row =
      if q.rows.any (fun r => sqlEqual same (row q.key) r.1) then
        CaseUpdate.assignedAtOnce same q.key q.meaning.assignments row
      else row := by
  have distinct : (q.meaning.assignments.map (·.column)).Nodup := by
    rw [columns_meaning]
    exact KeyMap.nodup_keys _
  have unset : q.key ∉ q.meaning.assignments.map (·.column) := by
    rw [columns_meaning]
    exact fun inside => (mem_columns.mp inside).1 rfl
  have inTurn := CaseUpdate.assignedInTurn_eq same distinct unset row
  have finds : q.meaning.keys.any (sqlEqual same (row q.meaning.key)) =
      q.rows.any fun r => sqlEqual same (row q.key) r.1 := by
    rw [meaning,List.any_map]
    rfl
  unfold CaseUpdate.applied
  rw [finds]
  cases d with
  | mysql => exact congrArg (ite _ · row) inTurn
  | postgres | sqlite => rfl

/-! ## Builds -/

theorem mismatch_writeArms (column : String) (rows : Rows) (f : Fragment) :
    (writeArms column rows f).mismatch = f.mismatch := by
  induction rows generalizing f with
  | nil => rfl
  | cons row rows ih =>
    rw [writeArms]
    cases row.2.get? column <;> simp [ih]

theorem mismatch_writeColumns (d : Dialect) (q : BatchUpdate) (first : Bool) (columns : List String)
    (f : Fragment) : (writeColumns d q first columns f).mismatch = f.mismatch := by
  induction columns generalizing first f with
  | nil => rfl
  | cons column columns ih =>
    rw [writeColumns,ih]
    cases first <;> simp [mismatch_writeArms,Fragment.ident]

theorem mismatch_writeTo (d : Dialect) (q : BatchUpdate) : (q.writeTo d .empty).mismatch = none := by
  simp [writeTo,mismatch_writeColumns,Fragment.ident,Fragment.empty]

theorem columns_eq_nil_iff (q : BatchUpdate) :
    q.columns = [] ↔ ∀ r ∈ q.rows, ∀ column ∈ r.2.keys, column = q.key := by
  rw [List.eq_nil_iff_forall_not_mem]
  simp only [mem_columns,not_and,not_exists]
  exact ⟨fun none r member column inside => by_contra fun other => none column other r member inside,
    fun keys column other r member inside => other (keys r member column inside)⟩

theorem build_eq (d : Dialect) (q : BatchUpdate) : q.build d =
    if q.rows = [] then .error (.validation (.batchUpdateWithoutRows q.table))
    else if q.columns = [] then .error (.validation (.batchUpdateWithoutColumns q.table))
    else .ok ⟨(q.writeTo d .empty).render d,(q.writeTo d .empty).args,(q.writeTo d .empty).tag,none⟩ := by
  simp only [build,List.isEmpty_iff,Fragment.build,mismatch_writeTo]

end BatchUpdate

/-- A statement for a table that has the text and as many arguments as placeholders. -/
structure CaseUpdate.Reads (u : CaseUpdate Nat) (d : Dialect) (table : String) (s : Statement) :
    Prop where
  table : u.table = table
  text : s.sql = u.text d
  slots : u.slots = List.range' 1 s.args.length

namespace BatchUpdate

theorem eq_reading {d : Dialect} {q : BatchUpdate} {s : Statement} (built : q.build d = .ok s) :
    s.args = (q.writeTo d .empty).args ∧ q.reading.Reads d q.table s ∧
      ∀ u : CaseUpdate Nat, u.Reads d q.table s → u = q.reading := by
  rw [build_eq] at built
  split at built
  · cases built
  · next some =>
    split at built <;> cases built
    have reads : q.reading.Reads d q.table ⟨(q.writeTo d .empty).render d,(q.writeTo d .empty).args,
        (q.writeTo d .empty).tag,none⟩ := ⟨rfl,render_writeTo d some,slots_reading d q⟩
    have numbered {u : CaseUpdate Nat} {n : Nat} (slots : u.slots = List.range' 1 n) :
        Numbered 0 u.slots := by
      rw [Numbered,slots,List.length_range']
    refine ⟨rfl,reads,fun u other => ?_⟩
    exact CaseUpdate.text_inj other.table (numbered other.slots) (numbered reads.slots)
      (other.text.symm.trans reads.text)

theorem build_validation_iff (d : Dialect) (q : BatchUpdate) :
    (∃ m, q.build d = .error (.validation m)) ↔
      q.rows = [] ∨ ∀ r ∈ q.rows, ∀ column ∈ r.2.keys, column = q.key := by
  rw [← columns_eq_nil_iff,build_eq]
  split
  · simp_all
  · split <;> simp_all

/-- The row after the statement: what the conditions of the main statement come to. -/
theorem applied_cases (d : Dialect) (q : BatchUpdate) (same : Value → Value → Bool) (row : StoredRow) :
    ((∀ r ∈ q.rows, sqlEqual same (row q.key) r.1 = false) → q.meaning.applied same d row = row) ∧
    ((∃ r ∈ q.rows, sqlEqual same (row q.key) r.1) → ∀ column, column ≠ q.key →
      q.meaning.applied same d row column = (q.given? same (row q.key) column).getD (row column)) ∧
    q.meaning.applied same d row q.key = row q.key ∧
    ∀ column, (∀ r ∈ q.rows, column ∉ r.2.keys) → q.meaning.applied same d row column = row column := by
  rw [applied_meaning]
  by_cases found : q.rows.any fun r => sqlEqual same (row q.key) r.1
  · rw [if_pos found]
    refine ⟨fun unequal => ?_,fun _ column other => ?_,q.assignedAtOnce_key same row,
      fun column absent => ?_⟩
    · rw [List.any_eq_false.mpr fun r member => by simp [unequal r member]] at found
      cases found
    · exact q.assignedAtOnce_meaning same row other
    · by_cases key : column = q.key
      · rw [key,q.assignedAtOnce_key]
      · rw [q.assignedAtOnce_meaning same row key,given?_of_absent absent]
        rfl
  · rw [if_neg found]
    exact ⟨fun _ => rfl,fun equal => absurd (List.any_eq_true.mpr equal) found,rfl,fun _ _ => rfl⟩

theorem updates_as_given (d : Dialect) (q : BatchUpdate) :
    (∀ s, q.build d = .ok s → (∃ u : CaseUpdate Nat, u.Reads d q.table s) ∧
      ∀ u : CaseUpdate Nat, u.Reads d q.table s →
      ∀ (same : Value → Value → Bool) (row : StoredRow),
        let after := (u.bindArgs s.args).applied same d row
        ((∀ r ∈ q.rows, sqlEqual same (row q.key) r.1 = false) → after = row) ∧
        ((∃ r ∈ q.rows, sqlEqual same (row q.key) r.1) → ∀ column, column ≠ q.key →
          after column = (q.rows.findSome? fun r =>
            if sqlEqual same (row q.key) r.1 then r.2.get? column else none).getD (row column)) ∧
        after q.key = row q.key ∧
        ∀ column, (∀ r ∈ q.rows, column ∉ r.2.keys) → after column = row column) ∧
    ((∃ m, q.build d = .error (.validation m)) ↔
      q.rows = [] ∨ ∀ r ∈ q.rows, ∀ column ∈ r.2.keys, column = q.key) ∧
    (∀ e, q.build d = .error e → ∃ m, e = .validation m) ∧
    (ofRows? q.table q.key q.rows >>= fun p => p.build d) = q.build d := by
  refine ⟨fun s built => ?_,q.build_validation_iff d,fun e failed => ?_,?_⟩
  · obtain ⟨args,reads,unique⟩ := eq_reading built
    refine ⟨⟨_,reads⟩,fun u other same row => ?_⟩
    rw [unique u other,args,bindArgs_reading]
    exact q.applied_cases d same row
  · rw [build_eq] at failed
    split at failed
    · exact ⟨_,(Except.error.inj failed).symm⟩
    · split at failed <;> cases failed
      exact ⟨_,rfl⟩
  · rw [ofRows?]
    cases empty : q.rows.isEmpty with
    | false => rfl
    | true => rw [build,empty]; rfl

/-- Of two rows for a key the first counts where it gives a column, and NULL finds nothing. -/
theorem updates_as_given_ragged :
    let q : BatchUpdate := ⟨"t","id",[(.int 1,.ofList [("a",.int 10)]),
      (.int 1,.ofList [("a",.int 11),("b",.int 12)]),(.null,.ofList [("c",.int 13)])]⟩
    let row : StoredRow := fun column => if column = "id" then .int 1 else .text column
    ∃ s, q.build .mysql = .ok s ∧ ∃ u : CaseUpdate Nat, u.Reads .mysql "t" s ∧
      let after := (u.bindArgs s.args).applied (· = ·) .mysql row
      after "a" = .int 10 ∧ after "b" = .int 12 ∧ after "c" = .text "c" ∧ after "id" = .int 1 := by
  intro q row
  cases built : q.build .mysql with
  | error e =>
    have unexpected := (q.build_eq .mysql).symm.trans built
    rw [if_neg (by decide),if_neg (by decide)] at unexpected
    cases unexpected
  | ok s =>
    obtain ⟨⟨u,reads⟩,given⟩ := (updates_as_given .mysql q).1 s built
    obtain ⟨-,set,kept,-⟩ := given u reads (· = ·) row
    have found : ∃ r ∈ q.rows, sqlEqual (· = ·) (row q.key) r.1 := ⟨_,List.mem_cons_self,by decide⟩
    exact ⟨s,rfl,u,reads,set found "a" (by decide),set found "b" (by decide),set found "c" (by decide),kept⟩

end BatchUpdate

end ParamSql
