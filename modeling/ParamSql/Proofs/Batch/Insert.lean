import ParamSql.Batch.Insert
import ParamSql.Proofs.KeyMap
import ParamSql.Proofs.Rendering
import ParamSql.Proofs.Template
import Mathlib.Data.List.Forall2

/-! The INSERT of many rows. The columns ascend, and each keeps the place that it has in the caller's
list; a row is read at these places. Main statement: every value stands under the column it was given
for, and a batch whose columns and rows are rearranged in one way builds the same statement. -/
namespace ParamSql

/-- The elements at the given places. -/
def rearranged {α : Type} (places : List Nat) (xs : List α) : List α := places.filterMap (xs[·]?)

section
variable {α : Type} {places : List Nat}

theorem getElem?_rearranged {xs : List α} (inside : ∀ i ∈ places, i < xs.length) (k : Nat) :
    (rearranged places xs)[k]? = places[k]?.bind (xs[·]?) := by
  induction places generalizing k with
  | nil => simp [rearranged]
  | cons i places ih =>
    obtain ⟨bound,inside⟩ := List.forall_mem_cons.mp inside
    have found : xs[i]? = some xs[i] := List.getElem?_eq_getElem bound
    rw [rearranged,List.filterMap_cons_some found]
    cases k with
    | zero => simp [found]
    | succ k => simpa [rearranged] using ih inside k

theorem rearranged_range (xs : List α) : rearranged (List.range xs.length) xs = xs := by
  apply List.ext_getElem?
  intro k
  rw [getElem?_rearranged (by simp)]
  by_cases bound : k < xs.length
  · simp [bound]
  · simp [bound]

theorem perm_rearranged {xs : List α} (permuted : places.Perm (List.range xs.length)) :
    (rearranged places xs).Perm xs := by
  have moved := permuted.filterMap (xs[·]?)
  exact moved.trans (.of_eq (rearranged_range xs))

/-- In rows of one width, an element stands behind all earlier rows. -/
theorem getElem?_flatten {width : Nat} {rows : List (List α)}
    (fit : ∀ row ∈ rows, row.length = width) (r : Nat) {j : Nat} (inside : j < width) :
    rows.flatten[r * width + j]? = rows[r]?.bind (·[j]?) := by
  induction rows generalizing r with
  | nil => simp
  | cons row rows ih =>
    obtain ⟨wide,fit⟩ := List.forall_mem_cons.mp fit
    rw [List.flatten_cons]
    cases r with
    | zero =>
      rw [Nat.zero_mul,Nat.zero_add,List.getElem?_append_left (wide ▸ inside)]
      simp
    | succ r =>
      have later : (r + 1) * width + j = row.length + (r * width + j) := by
        rw [Nat.succ_mul,wide]
        omega
      rw [later,List.getElem?_append_right (Nat.le_add_right _ _),Nat.add_sub_cancel_left,ih fit]
      simp

end

namespace BatchInsert

/-- Columns and rows that a batch takes. -/
structure Fits (columns : List String) (rows : List (List Value)) : Prop where
  rowGiven : rows ≠ []
  columnGiven : columns ≠ []
  named : ∀ c ∈ columns, Text.isBlankText c = false
  distinct : columns.Nodup
  widths : ∀ row ∈ rows, row.length = columns.length

/-- The values of a row in the order of the columns that a batch lists. -/
def arranged (columns : KeyMap Nat) (row : List Value) : List Value :=
  columns.entries.map fun c => row[c.2]?.getD .null

def filled (table : String) (columns : List String) (rows : List (List Value)) : BatchInsert :=
  ⟨table,.ofList columns.zipIdx,rows.map (arranged (.ofList columns.zipIdx)),[]⟩

theorem of?_eq_ok_iff {table : String} {columns : List String} {q : BatchInsert} :
    of? table columns = .ok q ↔ columns ≠ [] ∧ (∀ c ∈ columns, Text.isBlankText c = false) ∧
      columns.Nodup ∧ q = filled table columns [] := by
  rw [of?]
  split
  next none => simp [List.isEmpty_iff.mp none]
  next given =>
    have given : columns ≠ [] := by simpa using given
    split
    next blank =>
      obtain ⟨c,member,blank⟩ := List.any_eq_true.mp blank
      refine ⟨nofun,fun ⟨_,named,_⟩ => ?_⟩
      rw [named c member] at blank
      cases blank
    next named =>
      have named : ∀ c ∈ columns, Text.isBlankText c = false := by simpa using named
      split
      next distinct =>
        rw [Except.ok.injEq,eq_comm]
        exact ⟨fun same => ⟨given,named,distinct,same⟩,fun ⟨_,_,_,same⟩ => same⟩
      next repeated => exact ⟨nofun,fun ⟨_,_,distinct,_⟩ => absurd distinct repeated⟩

theorem foldlM_addRow?_eq_ok_iff {q r : BatchInsert} {rows : List (List Value)} :
    rows.foldlM (fun q row => q.addRow? row) q = .ok r ↔
      (∀ row ∈ rows, row.length = q.columns.entries.length) ∧
        r = { q with rows := q.rows ++ rows.map (arranged q.columns) } := by
  induction rows generalizing q with
  | nil => simp [pure,Except.pure,eq_comm]
  | cons row rows ih =>
    rw [List.foldlM_cons,addRow?]
    split
    next fits =>
      refine ih.trans ?_
      simp [fits,arranged]
    next misfit =>
      rw [List.forall_mem_cons]
      exact ⟨nofun,fun ⟨⟨fits,_⟩,_⟩ => absurd fits misfit⟩

/-! ## Columns and places -/

section
variable {columns : List String}

theorem perm_entries (distinct : columns.Nodup) :
    (KeyMap.ofList columns.zipIdx).entries.Perm columns.zipIdx := by
  apply KeyMap.perm_entries_ofList
  rwa [List.zipIdx_map_fst]

theorem perm_keys (distinct : columns.Nodup) : (KeyMap.ofList columns.zipIdx).keys.Perm columns := by
  have listed := (perm_entries distinct).map (·.1)
  rwa [List.zipIdx_map_fst] at listed

/-- Every place of a row belongs to one column. -/
theorem perm_places (distinct : columns.Nodup) :
    ((KeyMap.ofList columns.zipIdx).entries.map (·.2)).Perm (List.range columns.length) := by
  have placed := (perm_entries distinct).map (·.2)
  rwa [List.zipIdx_map_snd,← List.range_eq_range'] at placed

theorem ofRows?_eq_ok_iff {table : String} {rows : List (List Value)} {q : BatchInsert} :
    ofRows? table columns rows = .ok q ↔ Fits columns rows ∧ q = filled table columns rows := by
  rw [ofRows?]
  split
  next none => exact ⟨nofun,fun ⟨fits,_⟩ => absurd (List.isEmpty_iff.mp none) fits.rowGiven⟩
  next given =>
    have given : rows ≠ [] := by simpa using given
    cases started : of? table columns with
    | error e =>
      refine ⟨nofun,fun ⟨fits,_⟩ => ?_⟩
      rw [of?_eq_ok_iff.mpr ⟨fits.columnGiven,fits.named,fits.distinct,rfl⟩] at started
      cases started
    | ok empty =>
      obtain ⟨columnGiven,named,distinct,rfl⟩ := of?_eq_ok_iff.mp started
      have width : (KeyMap.ofList columns.zipIdx).entries.length = columns.length := by
        simpa using (perm_entries distinct).length_eq
      refine foldlM_addRow?_eq_ok_iff.trans ?_
      constructor
      · intro ⟨widths,same⟩
        exact ⟨⟨given,columnGiven,named,distinct,width ▸ widths⟩,same⟩
      · intro ⟨fits,same⟩
        exact ⟨width ▸ fits.widths,same⟩

theorem arranged_eq_valueAt? (distinct : columns.Nodup) (row : List Value) :
    arranged (.ofList columns.zipIdx) row = (KeyMap.ofList columns.zipIdx).keys.map fun column =>
      (valueAt? column (columns.zip row)).getD .null := by
  rw [arranged,KeyMap.keys,List.map_map]
  apply List.map_congr_left
  intro c member
  have listed := (perm_entries distinct).mem_iff.mp member
  have placed : columns[c.2]? = some c.1 := List.mem_zipIdx_iff_getElem?.mp listed
  rw [Function.comp_apply,KeyMap.valueAt?_zip distinct placed]

theorem perm_arranged (distinct : columns.Nodup) {row : List Value}
    (fits : row.length = columns.length) : (arranged (.ofList columns.zipIdx) row).Perm row := by
  have placed := (perm_places distinct).map fun i => row[i]?.getD .null
  rw [List.map_map] at placed
  refine placed.trans (.of_eq (List.ext_getElem (by simp [fits]) fun i _ bound => ?_))
  simp [bound]

theorem exists_valueAt? {column : String} (distinct : columns.Nodup) (listed : column ∈ columns)
    {row : List Value} (fits : row.length = columns.length) :
    ∃ v, valueAt? column (columns.zip row) = some v := by
  obtain ⟨i,placed⟩ := List.mem_iff_getElem?.mp listed
  have bound : i < columns.length := (List.getElem?_eq_some_iff.mp placed).1
  rw [KeyMap.valueAt?_zip distinct placed]
  exact ⟨row[i],List.getElem?_eq_getElem (fits ▸ bound)⟩

/-! ## Rearranged columns -/

variable {places : List Nat}

theorem mem_places (permuted : places.Perm (List.range columns.length)) :
    ∀ i ∈ places, i < columns.length := by
  intro i member
  simpa using permuted.mem_iff.mp member

theorem keys_rearranged (distinct : columns.Nodup)
    (permuted : places.Perm (List.range columns.length)) :
    (KeyMap.ofList (rearranged places columns).zipIdx).keys = (KeyMap.ofList columns.zipIdx).keys := by
  have moved := perm_rearranged permuted
  have left := perm_keys (moved.nodup_iff.mpr distinct)
  exact KeyMap.keys_eq_of_perm ((left.trans moved).trans (perm_keys distinct).symm)

theorem valueAt?_rearranged (distinct : columns.Nodup)
    (permuted : places.Perm (List.range columns.length)) {row : List Value}
    (fits : row.length = columns.length) {column : String} (listed : column ∈ columns) :
    valueAt? column ((rearranged places columns).zip (rearranged places row)) =
      valueAt? column (columns.zip row) := by
  have inside := mem_places permuted
  have moved := perm_rearranged permuted
  -- The name and the value are moved from the place `i` to the place `k`.
  obtain ⟨k,placed⟩ := List.mem_iff_getElem?.mp (moved.mem_iff.mpr listed)
  rw [KeyMap.valueAt?_zip (moved.nodup_iff.mpr distinct) placed]
  rw [getElem?_rearranged inside] at placed
  obtain ⟨i,chosen,placed⟩ := Option.bind_eq_some_iff.mp placed
  rw [KeyMap.valueAt?_zip distinct placed,getElem?_rearranged (fits ▸ inside),chosen,Option.bind_some]

theorem arranged_rearranged (distinct : columns.Nodup)
    (permuted : places.Perm (List.range columns.length)) {row : List Value}
    (fits : row.length = columns.length) :
    arranged (.ofList (rearranged places columns).zipIdx) (rearranged places row) =
      arranged (.ofList columns.zipIdx) row := by
  have moved := (perm_rearranged permuted).nodup_iff.mpr distinct
  rw [arranged_eq_valueAt? moved,arranged_eq_valueAt? distinct,keys_rearranged distinct permuted]
  apply List.map_congr_left
  intro column member
  rw [valueAt?_rearranged distinct permuted fits ((perm_keys distinct).mem_iff.mp member)]

theorem Fits.of_perm {rows : List (List Value)} (fits : Fits columns rows)
    (permuted : places.Perm (List.range columns.length)) :
    Fits (rearranged places columns) (rows.map (rearranged places)) := by
  have moved := perm_rearranged permuted
  refine ⟨by simpa using fits.rowGiven,?_,?_,moved.nodup_iff.mpr fits.distinct,?_⟩
  · intro none
    rw [none] at moved
    exact fits.columnGiven moved.symm.eq_nil
  · intro c member
    exact fits.named c (moved.mem_iff.mp member)
  · intro row member
    obtain ⟨given,inside,rfl⟩ := List.mem_map.mp member
    have wide := fits.widths given inside
    have same : (rearranged places given).length = given.length :=
      (perm_rearranged (wide ▸ permuted)).length_eq
    rw [same,wide,moved.length_eq]

end

/-! ## The statement -/

/-- The placeholders of a row, after `count` others. -/
def rowText (d : Dialect) (count width : Nat) : String :=
  "(" ++ String.intercalate ", " ((List.range' (count + 1) width).map d.placeholder) ++ ")"

theorem args_writeRows (first : Bool) (rows : List (List Value)) (f : Fragment) :
    (writeRows first rows f).args = f.args ++ rows.flatten := by
  induction rows generalizing first f with
  | nil => simp [writeRows]
  | cons row rows ih =>
    rw [writeRows,ih]
    cases first <;> simp [Fragment.args_bindList]

theorem render_row (d : Dialect) {row : List Value} (some : row ≠ []) (f : Fragment) :
    (((f.text "(").bindList row).text ")").render d =
      f.render d ++ rowText d f.args.length row.length := by
  simp [Fragment.render_bindList,some,rowText,String.append_assoc]

theorem render_writeRows (d : Dialect) {width : Nat} (positive : width ≠ 0) (first : Bool)
    {rows : List (List Value)} (fit : ∀ row ∈ rows, row.length = width) (f : Fragment) :
    (writeRows first rows f).render d = f.render d ++
      let parts := (List.range rows.length).map fun r => rowText d (f.args.length + r * width) width
      if first then String.intercalate ", " parts else String.join (parts.map (", " ++ ·)) := by
  induction rows generalizing first f with
  | nil => cases first <;> simp [writeRows]
  | cons row rows ih =>
    obtain ⟨wide,fit⟩ := List.forall_mem_cons.mp fit
    have values : row ≠ [] := fun none => positive (by rw [← wide,none,List.length_nil])
    have next (r : Nat) : f.args.length + (r + 1) * width = f.args.length + width + r * width := by
      rw [Nat.succ_mul]
      omega
    rw [writeRows,ih _ fit,render_row d values,List.length_cons,List.range_succ_eq_map,List.map_cons,
      List.map_map,wide]
    cases first <;>
      simp [intercalate_cons,Fragment.args_bindList,wide,next,Function.comp_def,String.append_assoc]

theorem mismatch_writeRows (first : Bool) (rows : List (List Value)) (f : Fragment) :
    (writeRows first rows f).mismatch = f.mismatch := by
  induction rows generalizing first f with
  | nil => rfl
  | cons row rows ih =>
    rw [writeRows,ih]
    cases first <;> simp

/-- What is built depends on the names of the columns and not on their places. -/
theorem build_congr {p q : BatchInsert} (table : p.table = q.table)
    (columns : p.columns.keys = q.columns.keys) (rows : p.rows = q.rows)
    (returning : p.returning = q.returning) (d : Dialect) : p.build d = q.build d := by
  rw [build,build,refusal?,refusal?,writeTo,writeTo,table,columns,rows,returning]

theorem exists_build {q : BatchInsert} {width : Nat} (positive : width ≠ 0) (some : q.rows ≠ [])
    (fit : ∀ row ∈ q.rows, row.length = width) (plain : q.returning = []) (d : Dialect) :
    ∃ s, q.build d = .ok s ∧ s.args = q.rows.flatten ∧
      s.sql = "INSERT INTO " ++ Identifier.table d q.table ++ " (" ++
        String.intercalate ", " (q.columns.keys.map d.quote) ++ ") VALUES " ++
        String.intercalate ", " ((List.range q.rows.length).map fun r => rowText d (r * width) width) := by
  have given : q.rows.isEmpty = false := by simpa using some
  have clean : (q.writeTo d .empty).mismatch = none := by
    simp [writeTo,mismatch_writeRows,Fragment.idents,Fragment.empty]
  have args : (q.writeTo d .empty).args = q.rows.flatten := by
    simp [writeTo,args_writeRows,Fragment.idents]
  refine ⟨⟨(q.writeTo d .empty).render d,(q.writeTo d .empty).args,(q.writeTo d .empty).tag,none⟩,
    ?_,args,?_⟩
  · rw [build,refusal?,given,plain]
    exact Fragment.build_of_clean clean d
  · simp [writeTo,render_writeRows d positive true fit,Fragment.idents]

namespace Fits

variable {columns : List String} {rows : List (List Value)}

theorem perm_rows (fits : Fits columns rows) (table : String) :
    List.Forall₂ List.Perm (filled table columns rows).rows rows := by
  rw [filled,List.forall₂_map_left_iff,List.forall₂_same]
  intro row member
  exact perm_arranged fits.distinct (fits.widths row member)

theorem length_arranged (fits : Fits columns rows) (table : String) :
    ∀ row ∈ (filled table columns rows).rows, row.length = columns.length := by
  intro row member
  obtain ⟨given,inside,rfl⟩ := List.mem_map.mp member
  have wide := fits.widths given inside
  exact (perm_arranged fits.distinct wide).length_eq.trans wide

theorem getElem?_args (fits : Fits columns rows) (table : String) {r j : Nat} {row : List Value}
    {column : String} (inRow : rows[r]? = some row)
    (inColumn : (filled table columns rows).columns.keys[j]? = some column) :
    ∃ v, valueAt? column (columns.zip row) = some v ∧
      (filled table columns rows).rows.flatten[r * columns.length + j]? = some v := by
  have keys := perm_keys fits.distinct
  have listed : column ∈ columns := keys.mem_iff.mp (List.mem_of_getElem? inColumn)
  have wide := fits.widths row (List.mem_of_getElem? inRow)
  have inside : j < columns.length := keys.length_eq ▸ (List.getElem?_eq_some_iff.mp inColumn).1
  obtain ⟨v,given⟩ := exists_valueAt? fits.distinct listed wide
  refine ⟨v,given,?_⟩
  have placed : (filled table columns rows).rows[r]? = some (arranged (.ofList columns.zipIdx) row) := by
    rw [filled,List.getElem?_map,inRow,Option.map_some]
  have found : (KeyMap.ofList columns.zipIdx).keys[j]? = some column := inColumn
  rw [getElem?_flatten (fits.length_arranged table) r inside,placed,Option.bind_some,
    arranged_eq_valueAt? fits.distinct,List.getElem?_map,found,Option.map_some,given,Option.getD_some]

theorem build_rearranged (fits : Fits columns rows) (table : String) {places : List Nat}
    (permuted : places.Perm (List.range columns.length)) (d : Dialect) :
    (ofRows? table (rearranged places columns) (rows.map (rearranged places)) >>=
      fun q => q.build d) = (filled table columns rows).build d := by
  have keys := keys_rearranged fits.distinct permuted
  have values : (filled table (rearranged places columns) (rows.map (rearranged places))).rows =
      (filled table columns rows).rows := by
    rw [filled,filled,List.map_map]
    apply List.map_congr_left
    intro row member
    exact arranged_rearranged fits.distinct permuted (fits.widths row member)
  rw [ofRows?_eq_ok_iff.mpr ⟨fits.of_perm permuted,rfl⟩]
  change (filled table (rearranged places columns) _).build d = _
  apply build_congr
  case table | returning => rfl
  case columns => exact keys
  case rows => exact values

end Fits

/-- Every value of a batch stands under its column, and the order of the columns does not matter. -/
theorem values_under_columns (table : String) (columns : List String) (rows : List (List Value)) :
    ((∃ q, ofRows? table columns rows = .ok q) ↔ Fits columns rows) ∧
    ∀ q, ofRows? table columns rows = .ok q →
      q.columns.keys.Perm columns ∧ q.columns.keys.Pairwise (· < ·) ∧
      (q.columns.entries.map (·.2)).Perm (List.range columns.length) ∧
      List.Forall₂ List.Perm q.rows rows ∧
      ∀ d, ∃ s, q.build d = .ok s ∧ s.args = q.rows.flatten ∧
        s.sql = "INSERT INTO " ++ Identifier.table d table ++ " (" ++
          String.intercalate ", " (q.columns.keys.map d.quote) ++ ") VALUES " ++
          String.intercalate ", " ((List.range rows.length).map fun r =>
            rowText d (r * columns.length) columns.length) ∧
        (∀ r row j column, rows[r]? = some row → q.columns.keys[j]? = some column →
          ∃ v, valueAt? column (columns.zip row) = some v ∧
            s.args[r * columns.length + j]? = some v) ∧
        ∀ places : List Nat, places.Perm (List.range columns.length) →
          (ofRows? table (rearranged places columns) (rows.map (rearranged places)) >>=
            fun q => q.build d) = .ok s := by
  constructor
  · constructor
    · rintro ⟨q,made⟩
      exact (ofRows?_eq_ok_iff.mp made).1
    · intro fits
      exact ⟨_,ofRows?_eq_ok_iff.mpr ⟨fits,rfl⟩⟩
  · intro q made
    obtain ⟨fits,rfl⟩ := ofRows?_eq_ok_iff.mp made
    refine ⟨perm_keys fits.distinct,KeyMap.ascending_keys _,perm_places fits.distinct,
      fits.perm_rows table,fun d => ?_⟩
    have positive : columns.length ≠ 0 := fun none =>
      fits.columnGiven (List.length_eq_zero_iff.mp none)
    have given : (filled table columns rows).rows ≠ [] := by simpa [filled] using fits.rowGiven
    obtain ⟨s,built,args,text⟩ := exists_build positive given (fits.length_arranged table) rfl d
    have count : (filled table columns rows).rows.length = rows.length := List.length_map _
    refine ⟨s,built,args,count ▸ text,?_,?_⟩
    · intro r row j column inRow inColumn
      rw [args]
      exact fits.getElem?_args table inRow inColumn
    · intro places permuted
      rw [fits.build_rearranged table permuted,built]

/-- Three columns, which ascend as the second, the third and the first. -/
theorem values_under_columns_cycled :
    ∃ s, (ofRows? "t" ["c","a","b"] [[.int 3,.int 1,.int 2],[.int 6,.int 4,.int 5]] >>=
        fun q => q.build .postgres) = .ok s ∧
      s.args = [.int 1,.int 2,.int 3,.int 4,.int 5,.int 6] ∧
      (ofRows? "t" ["a","b","c"] [[.int 1,.int 2,.int 3],[.int 4,.int 5,.int 6]] >>=
        fun q => q.build .postgres) = .ok s := by
  have spec := values_under_columns "t" ["c","a","b"] [[.int 3,.int 1,.int 2],[.int 6,.int 4,.int 5]]
  obtain ⟨q,made⟩ := spec.1.mpr
    ⟨by decide,by decide,by decide +kernel,by decide,by simp⟩
  obtain ⟨keys,ascending,-,-,built⟩ := spec.2 q made
  obtain ⟨s,built,args,-,-,moved⟩ := built .postgres
  have rearranged := moved [1,2,0] (by decide)
  refine ⟨s,?_,?_,rearranged⟩
  · rw [made]
    exact built
  · rw [args,(ofRows?_eq_ok_iff.mp made).2]
    decide +kernel

end BatchInsert

end ParamSql
