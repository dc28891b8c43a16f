import ParamSql.Proofs.Calls
import ParamSql.Proofs.KeyMap
import ParamSql.Upsert

/-! What calls set columns to, and the calls that construct an INSERT with or without a conflict clause.
Main statement: the map of a statement holds for every column what was written to it last. -/
namespace ParamSql

namespace SetCall

/-- What a call writes to a column, if it does. -/
def written? (column : String) : SetCall → Option Assignment
  | set other value => if column = other then some (.value value) else none
  | setIfGiven other value => if column = other then value.map .value else none
  | setRaw other sql => if column = other then some (.raw sql) else none
  | setAll values => (values.get? column).map .value

def lastWritten? (calls : List SetCall) (column : String) : Option Assignment :=
  calls.reverse.findSome? (·.written? column)

/-- The calls leave every column with the same field. -/
def Agree (calls others : List SetCall) : Prop :=
  ∀ column, lastWritten? calls column = lastWritten? others column

theorem get?_assign (fields : Assignments) (call : SetCall) (column : String) :
    (call.assign fields).get? column = (call.written? column).or (fields.get? column) := by
  cases call with
  | set other value | setRaw other sql =>
    rw [assign,KeyMap.get?_insert,written?]
    split <;> rfl
  | setIfGiven other value =>
    rw [assign,written?]
    cases value with
    | none => simp
    | some v =>
      rw [Option.elim_some,KeyMap.get?_insert]
      split <;> rfl
  | setAll values => rw [assign,KeyMap.setAll,KeyMap.get?_union,KeyMap.get?_map,written?]

theorem get?_foldl_assign (calls : List SetCall) (column : String) :
    (calls.foldl assign .empty).get? column = lastWritten? calls column := by
  have folded (fields : Assignments) : (calls.foldl assign fields).get? column =
      (lastWritten? calls column).or (fields.get? column) := by
    induction calls generalizing fields with
    | nil => rfl
    | cons call calls ih =>
      rw [List.foldl_cons,ih,get?_assign,lastWritten?,lastWritten?,List.reverse_cons,
        List.findSome?_append,Option.or_assoc]
      cases written : call.written? column <;> simp [written]
  exact (folded .empty).trans (Option.or_none ..)

/-- The map depends only on what was written to each column last. -/
theorem Agree.foldl_assign {calls others : List SetCall} (same : Agree calls others) :
    calls.foldl assign .empty = others.foldl assign .empty := by
  refine KeyMap.ext_get? fun column => ?_
  rw [get?_foldl_assign,get?_foldl_assign,same column]

end SetCall

theorem Update.foldl_assign_eq (calls : List Call) :
    calls.foldl Call.assign .empty = (calls.filterMap (·.set?)).foldl SetCall.assign .empty := by
  have folded (fields : Assignments) :
      calls.foldl Call.assign fields = (calls.filterMap (·.set?)).foldl SetCall.assign fields := by
    induction calls generalizing fields with
    | nil => rfl
    | cons call calls ih => cases call <;> exact ih _
  exact folded .empty

/-! ## INSERT -/

namespace Insert

inductive Call where
  | set (call : SetCall)
  | returning (columns : List String)

namespace Call

def apply (q : Insert) : Call → Insert
  | set (.set column value) => q.set column value
  | set (.setIfGiven column value) => q.setIfGiven column value
  | set (.setRaw column sql) => q.setRaw column sql
  | set (.setAll values) => q.setAll values
  | returning columns => q.addReturning columns

def set? : Call → Option SetCall
  | set call => some call
  | returning _ => none

def returned : Call → List String
  | set _ => []
  | returning columns => columns

end Call

/-- The INSERT that a list of calls makes. -/
def made (table : String) (calls : List Call) : Insert := calls.foldl Call.apply (into table)

theorem apply_eq (q : Insert) (call : Call) : call.apply q =
    ⟨q.table,call.set?.elim q.fields (·.assign q.fields),q.returning ++ call.returned⟩ := by
  cases call with
  | returning columns => rfl
  | set call =>
    rw [Call.returned,List.append_nil]
    cases call with
    | setIfGiven column value => cases value <;> rfl
    | _ => rfl

theorem made_eq (table : String) (calls : List Call) : made table calls =
    ⟨table,(calls.filterMap (·.set?)).foldl SetCall.assign .empty,calls.flatMap (·.returned)⟩ := by
  have folded (q : Insert) : calls.foldl Call.apply q =
      ⟨q.table,(calls.filterMap (·.set?)).foldl SetCall.assign q.fields,
        q.returning ++ calls.flatMap (·.returned)⟩ := by
    induction calls generalizing q with
    | nil => rw [List.flatMap_nil,List.append_nil]; rfl
    | cons call calls ih =>
      rw [List.foldl_cons,ih,apply_eq,List.flatMap_cons,List.append_assoc]
      cases call <;> rfl
  exact folded (into table)

end Insert

/-! ## INSERT with a conflict clause -/

namespace Upsert

inductive Call where
  | onConflict (columns : List String)
  | resolve (action : ConflictAction)
  | returning (columns : List String)

namespace Call

def apply (q : Upsert) : Call → Upsert
  | onConflict columns => q.onConflict columns
  | resolve action => q.resolve action
  | returning columns => q.addReturning columns

def target? : Call → Option (List String)
  | onConflict columns => some columns
  | _ => none

def action? : Call → Option ConflictAction
  | resolve action => some action
  | _ => none

def returned : Call → List String
  | returning columns => columns
  | _ => []

end Call

/-- The statement that a list of calls makes of the INSERT that others made before. `into`
starts from one call that sets all values. -/
def made (table : String) (before : List Insert.Call) (calls : List Call) : Upsert :=
  calls.foldl Call.apply (ofInsert (Insert.made table before))

theorem foldl_apply (q : Upsert) (calls : List Call) : calls.foldl Call.apply q =
    ⟨{ q.insert with returning := q.insert.returning ++ calls.flatMap (·.returned) },
      ((calls.filterMap (·.target?)).getLast?).getD q.target,
      ((calls.filterMap (·.action?)).getLast?).getD q.action⟩ := by
  induction calls generalizing q with
  | nil => simp
  | cons call calls ih =>
    rw [List.foldl_cons,ih]
    cases call <;>
      simp [Call.apply,onConflict,resolve,addReturning,Insert.addReturning,Call.target?,Call.action?,
        Call.returned,List.getLast?_cons]

/-- The conflict target and the action are those of the last calls. -/
theorem made_eq (table : String) (before : List Insert.Call) (calls : List Call) :
    made table before calls =
      ⟨⟨table,(before.filterMap (·.set?)).foldl SetCall.assign .empty,
        before.flatMap (·.returned) ++ calls.flatMap (·.returned)⟩,
        ((calls.filterMap (·.target?)).getLast?).getD [],
        ((calls.filterMap (·.action?)).getLast?).getD .overwriteInserted⟩ := by
  rw [made,foldl_apply,Insert.made_eq]
  rfl

end Upsert

end ParamSql
