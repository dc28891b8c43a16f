import ParamSql.Exchange
import ParamSql.Proofs.Compiled.Insert
import ParamSql.Proofs.Quoted.Queries
import ParamSql.Record

/-! The INSERT that creates a record. Main statement: it builds in every dialect, and it names the columns
of the record and binds their values, but for a key that is left to the database. -/
namespace ParamSql

namespace RecordType

variable {ρ : Type} {t : RecordType ρ} {r : ρ} {d : Dialect} {s : Statement}

theorem generatedKey?_eq_some_iff {values : KeyMap Value} {column : String} :
    t.generatedKey? values = some column ↔
      t.primaryKey = [column] ∧ ∀ v, values.get? column = some v → v = .null := by
  have null (v : Value) : v.isNull ↔ v = .null := by
    cases v <;> simp [Value.isNull,Value.kind]
  have all (found : Option Value) : found.all Value.isNull ↔ ∀ v, found = some v → v = .null := by
    cases found <;> simp [null]
  unfold generatedKey?
  split
  next key single =>
    rw [single,List.singleton_inj,← all]
    split
    next left =>
      rw [Option.some_inj]
      exact ⟨fun same => ⟨same,same ▸ left⟩,fun h => h.1⟩
    next given => exact ⟨nofun,fun ⟨same,left⟩ => absurd (same ▸ left) given⟩
  next other => exact ⟨nofun,fun h => absurd h.1 (other column)⟩

/-- The values that a creation writes: all but a key that is left to the database. -/
def given (t : RecordType ρ) (r : ρ) : List (String × Value) :=
  (t.values r).entries.filter fun e => t.generatedKey? (t.values r) ≠ some e.1

theorem insert_eq (t : RecordType ρ) (r : ρ) : (t.insert r).returning = [] ∧
    (t.insert r).fields.entries = (t.given r).map fun e => (e.1,.value e.2) := by
  simp only [insert,Insert.into,Insert.setAll,KeyMap.setAll,KeyMap.empty_union,given]
  refine ⟨trivial,?_⟩
  cases t.generatedKey? (t.values r) with
  | none => simp [KeyMap.map]
  | some column =>
    have other (e : String × Value) : (e.1 != column) = decide (some column ≠ some e.1) := by
      rw [bne,beq_eq_decide,← decide_not,decide_eq_decide,Ne,Option.some_inj,eq_comm]
    simp only [KeyMap.map,KeyMap.erase,other]

/-- The INSERT of a creation: it asks for a generated key where that can be returned. -/
def creating (t : RecordType ρ) (d : Dialect) (r : ρ) : Insert :=
  match t.generatedKey? (t.values r) with
  | some column => if d.hasReturning then (t.insert r).addReturning [column] else t.insert r
  | none => t.insert r

def creatingVia (t : RecordType ρ) (d : Dialect) (r : ρ) : Via :=
  if (t.generatedKey? (t.values r)).isSome && d.hasReturning then .query else .execute

theorem creating_eq (t : RecordType ρ) (d : Dialect) (r : ρ) :
    ((t.creating d r).returning = [] ∨ d.hasReturning) ∧
      (t.creating d r).fields = (t.insert r).fields := by
  unfold creating
  split
  next =>
    split
    next supported => exact ⟨.inr supported,rfl⟩
    next => exact ⟨.inl (t.insert_eq r).1,rfl⟩
  next => exact ⟨.inl (t.insert_eq r).1,rfl⟩

theorem exists_creating (t : RecordType ρ) (d : Dialect) (r : ρ) : ∃ s : Statement,
    (t.creating d r).build d = .ok s ∧ s.timeout = none ∧
      s.namesAt? d ((t.creating d r).outline d) = some ((t.given r).map (·.1)) ∧
      s.args = (t.given r).map (·.2) := by
  obtain ⟨supported,fields⟩ := t.creating_eq d r
  obtain ⟨s,built⟩ := Insert.exists_build supported
  obtain ⟨args,timeout⟩ := Insert.bound_of_build built
  rw [fields,(t.insert_eq r).2,List.filterMap_map] at args
  have columns : (t.creating d r).columns = (t.given r).map (·.1) := by
    rw [Insert.columns,KeyMap.keys,fields,(t.insert_eq r).2,List.map_map]
    rfl
  refine ⟨s,built,timeout,columns ▸ Insert.namesAt?_of_build built,args.trans ?_⟩
  exact congrFun (List.filterMap_eq_map (f := fun e : String × Value => e.2)) _

end RecordType

end ParamSql
