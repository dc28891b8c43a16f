import ParamSql.Proofs.Assigned
import ParamSql.Record
import Mathlib.Data.List.Forall2

/-! Statements for one record. UPDATE and DELETE are made only for a record that has its whole key, and
their WHERE clause is one equality for each key column, in order; so is the one of the SELECT that finds
a record by its key. -/
namespace ParamSql
open Compiled

/-! ## Equalities -/

namespace Compiled

def equality (d : Dialect) (column : String) (v : Value) : Compiled :=
  .text (Identifier.column d column) ++ .text " = " ++ .slot v

/-- One equality for each column, in order. -/
def equalities (d : Dialect) (columns : List String) (key : List Value) : Compiled :=
  .separated " AND " ((columns.zip key).map fun e => equality d e.1 e.2)

theorem args_equalities (d : Dialect) {columns : List String} {key : List Value}
    (whole : key.length = columns.length) : (equalities d columns key).args = key := by
  have each (e : String × Value) : (equality d e.1 e.2).args = [e.2] := rfl
  simp only [equalities,args_separated,List.flatMap_map,each,← List.map_eq_flatMap]
  exact List.map_snd_zip whole.le

theorem returning_nil (d : Dialect) : returning d [] = .empty := rfl

theorem ofFragment_equality (d : Dialect) (column : String) (v : Value) (out : Fragment) :
    ofFragment ((Expr.eq column v).writeTo d out) = ofFragment out ++ equality d column v := by
  have spaced : text " = " = text " " ++ (text "=" ++ text " ") := by decide
  rw [Expr.eq,Expr.writeTo,equality,spaced]
  simp only [ofFragment_bind,ofFragment_text,append_assoc]

end Compiled

namespace ConditionGroup

def equal (columns : List String) (key : List Value) : ConditionGroup :=
  ⟨(columns.zip key).map fun e => .expr (.eq e.1 e.2)⟩

theorem ofFragment_writeJoined (d : Dialect) (wrap : Bool) (pairs : List (String × Value))
    (out : Fragment) :
    ofFragment (writeJoined d wrap true (pairs.map fun e => .expr (.eq e.1 e.2)) out) =
      ofFragment out ++ separated " AND " (pairs.map fun e => equality d e.1 e.2) := by
  refine ofFragment_separated (w := fun first pairs out =>
    writeJoined d wrap first (pairs.map fun e => .expr (.eq e.1 e.2)) out) (fun _ _ => rfl)
    (fun first e es out => ?_) true pairs out
  have live : (Condition.expr (.eq e.1 e.2)).isEmpty = false := rfl
  have plain : (Condition.expr (.eq e.1 e.2)).isCompound = false := rfl
  refine ⟨(Expr.eq e.1 e.2).writeTo d (if first then out else out.text " AND "),?_,?_⟩
  · rw [List.map_cons,writeJoined,live,if_neg Bool.false_ne_true,plain,Bool.and_false]
    rfl
  · rw [ofFragment_equality]
    cases first <;> simp [append_assoc]

section
variable {columns : List String} {key : List Value}

theorem isEmpty_equal (given : columns ≠ []) (whole : key.length = columns.length) :
    (equal columns key).isEmpty = false := by
  cases columns with
  | nil => exact absurd rfl given
  | cons column columns =>
    cases key with
    | nil => cases whole
    | cons v key => rfl

theorem compiledClause_equal (keyword : String) (d : Dialect) (given : columns ≠ [])
    (whole : key.length = columns.length) :
    (equal columns key).compiledClause keyword d = .text keyword ++ equalities d columns key := by
  rw [compiledClause,isEmpty_equal given whole,if_neg Bool.false_ne_true,compiled,writeTo,equal,
    ofFragment_writeJoined]
  simp [equalities]

theorem accepted_equal (columns : List String) (key : List Value) : (equal columns key).Accepted := by
  rintro c member t inside
  obtain ⟨e,-,rfl⟩ := List.mem_map.mp member
  cases inside

end

end ConditionGroup

/-- A builder that grows by what it is given holds all of it after the last call. -/
theorem Filterable.foldl_filterExpr {β : Type} [Filterable β] (holding : List Condition → β)
    (grows : ∀ cs e, filterExpr (holding cs) e = holding (cs ++ [.expr e])) (es : List Expr)
    (cs : List Condition) : es.foldl filterExpr (holding cs) = holding (cs ++ es.map .expr) := by
  induction es generalizing cs with
  | nil => rw [List.foldl_nil,List.map_nil,List.append_nil]
  | cons e es ih => rw [List.foldl_cons,grows,ih,List.append_assoc]; rfl

/-! ## The key of a record -/

theorem Value.isNull_iff {v : Value} : v.isNull ↔ v = .null := by
  cases v <;> simp [isNull,kind]

section
variable {α β ε : Type} {R : α → β → Prop}

theorem mapM_eq_ok_iff {f : α → Except ε β} {xs : List α} {ys : List β} :
    xs.mapM f = .ok ys ↔ List.Forall₂ (fun x y => f x = .ok y) xs ys := by
  induction xs generalizing ys with
  | nil => cases ys <;> simp [pure,Except.pure]
  | cons x xs ih =>
    rw [List.mapM_cons,List.forall₂_cons_left_iff]
    cases first : f x with
    | error e => simp [bind,Except.bind]
    | ok y =>
      cases rest : xs.mapM f with
      | error e => simp [bind,Except.bind,← ih,rest]
      | ok zs => simp [bind,Except.bind,pure,Except.pure,← ih,rest,eq_comm]

theorem exists_forall₂_iff {xs : List α} : (∃ ys, List.Forall₂ R xs ys) ↔ ∀ x ∈ xs, ∃ y, R x y := by
  induction xs with
  | nil => simp
  | cons x xs ih =>
    rw [List.forall_mem_cons,← ih]
    constructor
    · rintro ⟨_,_ | ⟨first,rest⟩⟩
      exact ⟨⟨_,first⟩,_,rest⟩
    · rintro ⟨⟨y,first⟩,ys,rest⟩
      exact ⟨y :: ys,.cons first rest⟩

/-- Results that are computed from witnesses come with the list of these. -/
theorem forall₂_map_zip_iff {γ : Type} {g : α → β → γ} {xs : List α} {zs : List γ} :
    List.Forall₂ (fun x z => ∃ y, R x y ∧ g x y = z) xs zs ↔
      ∃ ys, List.Forall₂ R xs ys ∧ (xs.zip ys).map (fun e => g e.1 e.2) = zs := by
  induction xs generalizing zs with
  | nil => simp [eq_comm]
  | cons x xs ih =>
    constructor
    · rintro (_ | ⟨⟨y,first,rfl⟩,rest⟩)
      obtain ⟨ys,related,rfl⟩ := ih.mp rest
      exact ⟨y :: ys,.cons first related,rfl⟩
    · rintro ⟨_,_ | ⟨first,rest⟩,rfl⟩
      exact .cons ⟨_,first,rfl⟩ (ih.mpr ⟨_,rest,rfl⟩)

end

namespace RecordType

variable {ρ : Type} {t : RecordType ρ} {r : ρ} {d : Dialect}

/-- The value of a key column, which must not be NULL. -/
def IsKeyValue (values : KeyMap Value) (column : String) (v : Value) : Prop :=
  values.get? column = some v ∧ v ≠ .null

theorem keyConditions_eq_ok_iff {values : KeyMap Value} {es : List Expr} :
    t.keyConditions values = .ok es ↔ t.primaryKey ≠ [] ∧
      ∃ key, List.Forall₂ (IsKeyValue values) t.primaryKey key ∧
        (t.primaryKey.zip key).map (fun e => .eq e.1 e.2) = es := by
  rw [keyConditions]
  split
  next none => simp [List.isEmpty_iff.mp none]
  next given =>
    rw [mapM_eq_ok_iff,← forall₂_map_zip_iff,and_iff_right (by simpa using given)]
    constructor
    · refine List.Forall₂.imp fun column e written => ?_
      split at written
      next v found =>
        split at written <;> cases written
        next given => exact ⟨v,⟨found,mt Value.isNull_iff.mpr given⟩,rfl⟩
      next => cases written
    · refine List.Forall₂.imp ?_
      rintro column _ ⟨v,⟨found,given⟩,rfl⟩
      rw [found]
      exact if_neg (mt Value.isNull_iff.mp given)

/-- The conditions of a key are found where all its values are. -/
theorem exists_keyConditions_iff {values : KeyMap Value} :
    (∃ es, t.keyConditions values = .ok es) ↔
      t.primaryKey ≠ [] ∧ ∀ column ∈ t.primaryKey, ∃ v, IsKeyValue values column v := by
  simp only [keyConditions_eq_ok_iff,exists_and_left,← exists_forall₂_iff]
  refine and_congr_right fun _ => ⟨fun ⟨_,key,related,_⟩ => ⟨key,related⟩,fun ⟨key,related⟩ => ?_⟩
  exact ⟨_,key,related,rfl⟩

/-- The columns outside the key, with their values. -/
def outside (t : RecordType ρ) (r : ρ) : List (String × Value) :=
  (t.values r).entries.filter (·.1 ∉ t.primaryKey)

/-- The fields that an UPDATE sets. -/
def updated (t : RecordType ρ) (r : ρ) : Assignments :=
  (t.primaryKey.foldl (·.erase ·) (t.values r)).map .value

theorem entries_updated (t : RecordType ρ) (r : ρ) :
    (t.updated r).entries = (t.outside r).map fun e => (e.1,.value e.2) :=
  congrArg (List.map fun e : String × Value => (e.1,Assignment.value e.2))
    ((t.values r).entries_foldl_erase t.primaryKey)

theorem isEmpty_updated (t : RecordType ρ) (r : ρ) : (t.updated r).isEmpty = (t.outside r).isEmpty := by
  rw [KeyMap.isEmpty,t.entries_updated,List.isEmpty_map]

theorem values_updated (t : RecordType ρ) (r : ρ) :
    (t.updated r).entries.filterMap (·.2.value?) = (t.outside r).map (·.2) := by
  rw [t.entries_updated,List.filterMap_map]
  exact congrFun (List.filterMap_eq_map (f := fun e : String × Value => e.2)) _

theorem update_eq (t : RecordType ρ) (r : ρ) : t.update r = (t.keyConditions (t.values r)).map fun es =>
    ⟨⟨⟨es.map .expr⟩,[],false,none⟩,t.table,t.updated r⟩ := by
  rw [update]
  cases t.keyConditions (t.values r) with
  | error e => rfl
  | ok es =>
    have held := Filterable.foldl_filterExpr (fun cs =>
      { (Update.of t.table).setAll (t.primaryKey.foldl (·.erase ·) (t.values r)) with conditions := ⟨cs⟩ })
      (fun _ _ => rfl) es []
    refine congrArg Except.ok (held.trans ?_)
    simp only [Update.of,Update.setAll,KeyMap.setAll,KeyMap.empty_union,List.nil_append,updated]
    rfl

theorem delete_eq (t : RecordType ρ) (r : ρ) : t.delete r = (t.keyConditions (t.values r)).map fun es =>
    ⟨⟨⟨es.map .expr⟩,[],false,none⟩,t.table⟩ := by
  rw [delete]
  cases t.keyConditions (t.values r) with
  | error e => rfl
  | ok es =>
    exact congrArg Except.ok (Filterable.foldl_filterExpr
      (fun cs => { Delete.of t.table with conditions := ⟨cs⟩ }) (fun _ _ => rfl) es [])

theorem find_eq (t : RecordType ρ) (key : List Value) : t.find key =
    if key.length = t.primaryKey.length ∧ key ≠ [] then
      .ok { Select.star.fromTable t.table with conditions := .equal t.primaryKey key }
    else .error (.validation (.keyWidth t.table t.primaryKey.length key.length)) := by
  have held := Filterable.foldl_filterExpr
    (fun cs => { Select.star.fromTable t.table with conditions := ⟨cs⟩ }) (fun _ _ => rfl)
    ((t.primaryKey.zip key).map fun e => .eq e.1 e.2) []
  rw [List.foldl_map,List.map_map] at held
  rw [find]
  split
  · exact congrArg Except.ok held
  · rfl

end RecordType

/-! ## Builds -/

/-- The WHERE clause of a statement is one equality for each column, in order, and the values of the
key are the last arguments. -/
structure Addresses (d : Dialect) (head : Compiled) (columns : List String) (key : List Value)
    (s : Statement) : Prop where
  written : (head ++ (text " WHERE " ++ equalities d columns key)).build d = .ok s
  args : s.args = head.args ++ key

section
variable {d : Dialect} {columns : List String} {key : List Value}

theorem addresses_of_build {head : Compiled} {s : Statement} (whole : key.length = columns.length)
    (built : (head ++ (text " WHERE " ++ equalities d columns key)).build d = .ok s) :
    Addresses d head columns key s := by
  refine ⟨built,?_⟩
  rw [eq_of_build built,args_append,args_append,args_equalities d whole]
  rfl

theorem Update.build_without_columns {q : Update} (accepted : q.misuse = none) (bare : q.fields.isEmpty)
    (d : Dialect) : q.build d = .error (.validation (.updateWithoutColumns q.table)) := by
  have refused : q.refusal? = some (.updateWithoutColumns q.table) := by
    rw [refusal?,accepted,Option.none_or,if_pos bare]
  rw [build,refused]
  rfl

/-- The rows that have the key. -/
def Scope.keyed (columns : List String) (key : List Value) : Scope := ⟨.equal columns key,[],false,none⟩

theorem Scope.isOpen_keyed (given : columns ≠ []) (whole : key.length = columns.length) :
    (keyed columns key).isOpen = false := by
  rw [isOpen,keyed,ConditionGroup.isEmpty_equal given whole]
  rfl

/-- What is built with the rows of a key for its WHERE clause addresses the key. -/
theorem Scope.addresses_keyed {head : Compiled} {s : Statement} (given : columns ≠ [])
    (whole : key.length = columns.length)
    (parts : (head ++ (keyed columns key).conditions.compiledClause " WHERE " d ++
      .returning d (keyed columns key).returning).build d = .ok s) : Addresses d head columns key s := by
  simp only [keyed,ConditionGroup.compiledClause_equal " WHERE " d given whole,returning_nil,
    append_empty] at parts
  exact addresses_of_build whole parts

theorem Update.exists_addressing (d : Dialect) (table : String) {fields : Assignments}
    (listed : fields.isEmpty = false) (given : columns ≠ []) (whole : key.length = columns.length) :
    ∃ s, (Update.mk (.keyed columns key) table fields).build d = .ok s ∧
      Addresses d (compiledHead d table fields) columns key s := by
  have accepted : (Update.mk (.keyed columns key) table fields).refusal? = none := by
    rw [refusal?,listed,Scope.isOpen_keyed given whole]
    rfl
  obtain ⟨s,built⟩ :=
    (build_ok_iff _ d).mpr ⟨accepted,.inl rfl,ConditionGroup.accepted_equal columns key⟩
  have parts := build_eq_compiled built
  exact ⟨s,built,Scope.addresses_keyed given whole parts⟩

theorem Delete.exists_addressing (d : Dialect) (table : String) (given : columns ≠ [])
    (whole : key.length = columns.length) :
    ∃ s, (Delete.mk (.keyed columns key) table).build d = .ok s ∧
      Addresses d (compiledHead d table) columns key s := by
  have accepted : (Delete.mk (.keyed columns key) table).refusal? = none := by
    rw [refusal?,Scope.isOpen_keyed given whole]
    rfl
  obtain ⟨s,built⟩ :=
    (build_ok_iff _ d).mpr ⟨accepted,.inl rfl,ConditionGroup.accepted_equal columns key⟩
  have parts := build_eq_compiled built
  exact ⟨s,built,Scope.addresses_keyed given whole parts⟩

theorem Select.exists_addressing (d : Dialect) (table : String) (given : columns ≠ [])
    (whole : key.length = columns.length) :
    ∃ s, ({ star.fromTable table with conditions := .equal columns key } : Select).build d = .ok s ∧
      Addresses d (text "SELECT * FROM " ++ text (Identifier.table d table)) columns key s := by
  have clause := ConditionGroup.compiledClause_equal " WHERE " d given whole
  have ungrouped : ConditionGroup.empty.compiledClause " HAVING " d = .empty := rfl
  have head : text "SELECT * FROM " = text "SELECT " ++ text "*" ++ text " FROM " := by decide
  have none : text "" = empty := rfl
  have parts : Select.compiled d { star.fromTable table with conditions := .equal columns key } =
      .ok (text "SELECT * FROM " ++ text (Identifier.table d table) ++
        (text " WHERE " ++ equalities d columns key)) := by
    simp only [star,fromTable]
    rw [Select.compiled,clause,ungrouped,head]
    simp [compiledCtes,compiledSource,compiledCombined,compiledList,compiledGrouping,compiledOrdering,
      compiledLimit,withKeywords,none,separated,concat,append_assoc,bind,Except.bind,pure,Except.pure]
  have clean : (text "SELECT * FROM " ++ text (Identifier.table d table) ++
      (text " WHERE " ++ equalities d columns key)).mismatch = .none := by
    simp only [mismatch_append,mismatch_text,Option.none_or,equalities]
    exact mismatch_separated " AND " (List.forall_mem_map.mpr fun e _ => rfl)
  refine ⟨_,?_,addresses_of_build whole (build_of_clean clean d)⟩
  rw [build_eq_compiled,parts]
  exact build_of_clean clean d

end

/-- UPDATE and DELETE of a record address its whole key or are not made, and a record is found by
nothing but a whole key. -/
theorem addresses_one_key {ρ : Type} (t : RecordType ρ) (d : Dialect) :
    (∀ r : ρ,
      let identified := t.primaryKey ≠ [] ∧
        ∀ column ∈ t.primaryKey, ∃ v, RecordType.IsKeyValue (t.values r) column v
      ((∃ q, t.update r = .ok q) ↔ identified) ∧ ((∃ q, t.delete r = .ok q) ↔ identified) ∧
      (identified → ∃ key u q, List.Forall₂ (RecordType.IsKeyValue (t.values r)) t.primaryKey key ∧
        t.update r = .ok u ∧ t.delete r = .ok q ∧
        (t.outside r = [] → u.build d = .error (.validation (.updateWithoutColumns t.table))) ∧
        (t.outside r ≠ [] → ∃ fields s, fields.entries = (t.outside r).map (fun e => (e.1,.value e.2)) ∧
          fields.keys.Pairwise (· < ·) ∧ u.build d = .ok s ∧
          Addresses d (Update.compiledHead d t.table fields) t.primaryKey key s ∧
          s.args = (t.outside r).map (·.2) ++ key) ∧
        ∃ s, q.build d = .ok s ∧ Addresses d (Delete.compiledHead d t.table) t.primaryKey key s ∧
          s.args = key)) ∧
    ∀ key : List Value,
      ((∃ q, t.find key = .ok q) ↔ key.length = t.primaryKey.length ∧ key ≠ []) ∧
      ∀ q, t.find key = .ok q → ∃ s, q.build d = .ok s ∧
        Addresses d (text "SELECT * FROM " ++ text (Identifier.table d t.table)) t.primaryKey key s ∧
        s.args = key := by
  refine ⟨fun r => ?_,fun key => ?_⟩
  · intro identified
    have conditions : (∃ es, t.keyConditions (t.values r) = .ok es) ↔ identified :=
      RecordType.exists_keyConditions_iff
    refine ⟨?_,?_,fun keyed => ?_⟩
    · rw [t.update_eq,← conditions]
      cases t.keyConditions (t.values r) <;> simp [Except.map]
    · rw [t.delete_eq,← conditions]
      cases t.keyConditions (t.values r) <;> simp [Except.map]
    · obtain ⟨es,found⟩ := conditions.mpr keyed
      obtain ⟨given,key,related,rfl⟩ := RecordType.keyConditions_eq_ok_iff.mp found
      -- The key is as long as the list of its columns, so no equality is lost where the two are zipped.
      have whole := related.length_eq.symm
      have update := t.update_eq r
      have delete := t.delete_eq r
      rw [found,Except.map,List.map_map] at update delete
      refine ⟨key,_,_,related,update,delete,fun bare => ?_,fun held => ?_,?_⟩
      · exact Update.build_without_columns rfl ((t.isEmpty_updated r).trans (List.isEmpty_iff.mpr bare)) d
      · have listed := (t.isEmpty_updated r).trans (List.isEmpty_eq_false_iff.mpr held)
        obtain ⟨s,built,addresses⟩ := Update.exists_addressing d t.table listed given whole
        refine ⟨_,s,t.entries_updated r,KeyMap.ascending_keys _,built,addresses,addresses.args.trans ?_⟩
        rw [Update.args_compiledHead,t.values_updated]
      · obtain ⟨s,built,addresses⟩ := Delete.exists_addressing d t.table given whole
        exact ⟨s,built,addresses,addresses.args⟩
  · rw [t.find_eq]
    split
    next fits =>
      have given : t.primaryKey ≠ [] := by
        rintro none
        exact fits.2 (List.length_eq_zero_iff.mp (by simpa [none] using fits.1))
      refine ⟨⟨fun _ => fits,fun _ => ⟨_,rfl⟩⟩,?_⟩
      rintro _ ⟨⟩
      obtain ⟨s,built,addresses⟩ := Select.exists_addressing d t.table given fits.1
      exact ⟨s,built,addresses,addresses.args⟩
    next unfit => exact ⟨⟨nofun,fun fits => absurd fits unfit⟩,nofun⟩

theorem addresses_one_key_memberships :
    let t : RecordType (KeyMap Value) :=
      ⟨"memberships",["user_id","team_id"],id,RecordType.refuseKey "memberships"⟩
    let r : KeyMap Value := .ofList [("user_id",.int 1),("team_id",.int 2),("role",.text "owner")]
    (∀ column ∈ t.primaryKey, ∃ v, RecordType.IsKeyValue r column v) ∧
      (∃ key u s, List.Forall₂ (RecordType.IsKeyValue r) t.primaryKey key ∧ t.update r = .ok u ∧
        u.build .postgres = .ok s ∧ s.args = .text "owner" :: key) ∧
      (∃ q s, t.find [.int 1,.int 2] = .ok q ∧ q.build .postgres = .ok s ∧ s.args = [.int 1,.int 2]) ∧
      ¬∃ q, t.find [.int 1] = .ok q := by
  intro t r
  obtain ⟨records,found⟩ := addresses_one_key t .postgres
  have values : ∀ column ∈ t.primaryKey, ∃ v, RecordType.IsKeyValue r column v := by
    have user : RecordType.IsKeyValue r "user_id" (.int 1) := ⟨by decide,nofun⟩
    have team : RecordType.IsKeyValue r "team_id" (.int 2) := ⟨by decide,nofun⟩
    exact List.forall_mem_cons.mpr ⟨⟨_,user⟩,List.forall_mem_singleton.mpr ⟨_,team⟩⟩
  obtain ⟨-,-,made⟩ := records r
  obtain ⟨key,u,-,related,update,-,-,listed,-⟩ := made ⟨nofun,values⟩
  obtain ⟨-,s,-,-,built,-,args⟩ := listed (by decide)
  obtain ⟨q,selected⟩ := (found [.int 1,.int 2]).1.mpr ⟨rfl,nofun⟩
  obtain ⟨finding,asked,-,bound⟩ := (found [.int 1,.int 2]).2 q selected
  refine ⟨values,⟨key,u,s,related,update,built,args⟩,⟨q,finding,selected,asked,bound⟩,fun short => ?_⟩
  exact absurd ((found [.int 1]).1.mp short).1 (by decide)

end ParamSql
