/-! Maps from names to values, listed in ascending order of their names. Text is ordered by code
point. Writing a name again replaces its value. Main statement: looking a name up after a write
gives the written value for that name and the old value for any other. -/
namespace ParamSql

/-- Writes into a list of entries whose keys ascend. -/
def putEntry {α : Type} (key : String) (value : α) : List (String × α) → List (String × α)
  | [] => [(key,value)]
  | entry :: entries =>
    if key < entry.1 then (key,value) :: entry :: entries
    else if key = entry.1 then (key,value) :: entries
    else entry :: putEntry key value entries

def valueAt? {α : Type} (key : String) : List (String × α) → Option α
  | [] => none
  | entry :: entries => if key = entry.1 then some entry.2 else valueAt? key entries

theorem fst_mem_putEntry {α : Type} {key : String} {value : α} {entries : List (String × α)}
    {e : String × α} (member : e ∈ putEntry key value entries) :
    e.1 = key ∨ ∃ f ∈ entries, f.1 = e.1 := by
  induction entries with
  | nil => simp_all [putEntry]
  | cons entry entries ih =>
    simp only [putEntry] at member
    split at member
    · rcases List.mem_cons.mp member with rfl | h
      · exact .inl rfl
      · exact .inr ⟨e,h,rfl⟩
    · split at member
      · rcases List.mem_cons.mp member with rfl | h
        · exact .inl rfl
        · exact .inr ⟨e,List.mem_cons_of_mem _ h,rfl⟩
      · rcases List.mem_cons.mp member with rfl | h
        · exact .inr ⟨e,List.mem_cons_self,rfl⟩
        · rcases ih h with h | ⟨f,hf,same⟩
          · exact .inl h
          · exact .inr ⟨f,List.mem_cons_of_mem _ hf,same⟩

theorem ascending_putEntry {α : Type} (key : String) (value : α) (entries : List (String × α))
    (ascending : entries.Pairwise (·.1 < ·.1)) :
    (putEntry key value entries).Pairwise (·.1 < ·.1) := by
  induction entries with
  | nil => simp [putEntry]
  | cons entry entries ih =>
    obtain ⟨below,rest⟩ := List.pairwise_cons.mp ascending
    simp only [putEntry]
    split
    · rename_i less
      refine List.pairwise_cons.mpr ⟨fun e h => ?_,ascending⟩
      rcases List.mem_cons.mp h with rfl | h
      · exact less
      · exact String.lt_trans less (below e h)
    · rename_i notLess
      split
      · rename_i same
        exact List.pairwise_cons.mpr ⟨fun e h => by simpa [same] using below e h,rest⟩
      · rename_i different
        refine List.pairwise_cons.mpr ⟨fun e h => ?_,ih rest⟩
        rcases fst_mem_putEntry h with same | ⟨f,hf,same⟩
        · rw [same]
          rcases String.le_total key entry.1 with le | le
          · exact absurd (String.le_antisymm le (String.not_lt.mp notLess)) different
          · exact String.not_le.mp fun ge => different (String.le_antisymm ge le)
        · rw [← same]; exact below f hf

structure KeyMap (α : Type) where
  entries : List (String × α)
  ascending : entries.Pairwise (·.1 < ·.1)
  deriving DecidableEq

namespace KeyMap

variable {α β : Type}

def empty : KeyMap α := ⟨[],.nil⟩

instance : Inhabited (KeyMap α) := ⟨empty⟩

def insert (m : KeyMap α) (key : String) (value : α) : KeyMap α :=
  ⟨putEntry key value m.entries,ascending_putEntry key value m.entries m.ascending⟩

def union (m n : KeyMap α) : KeyMap α := n.entries.foldl (fun m e => m.insert e.1 e.2) m

def ofList (entries : List (String × α)) : KeyMap α :=
  entries.foldl (fun m e => m.insert e.1 e.2) empty

def get? (m : KeyMap α) (key : String) : Option α := valueAt? key m.entries

def erase (m : KeyMap α) (key : String) : KeyMap α :=
  ⟨m.entries.filter (·.1 != key),m.ascending.filter _⟩

def map (f : α → β) (m : KeyMap α) : KeyMap β :=
  ⟨m.entries.map fun e => (e.1,f e.2),List.pairwise_map.mpr m.ascending⟩

def keys (m : KeyMap α) : List String := m.entries.map (·.1)

def isEmpty (m : KeyMap α) : Bool := m.entries.isEmpty

@[ext] theorem ext {m n : KeyMap α} (same : m.entries = n.entries) : m = n := by
  cases m; cases n; simp_all

theorem valueAt?_putEntry (key other : String) (value : α) (entries : List (String × α)) :
    valueAt? other (putEntry key value entries) =
      if other = key then some value else valueAt? other entries := by
  induction entries with
  | nil => simp [putEntry,valueAt?]
  | cons entry entries ih =>
    by_cases same : key = entry.1
    · subst same
      by_cases h : other = entry.1 <;> simp [putEntry,valueAt?,h]
    · by_cases less : key < entry.1
      · simp only [putEntry,if_pos less,valueAt?]
      · simp only [putEntry,if_neg less,if_neg same,valueAt?,ih]
        by_cases h : other = entry.1
        · have absent : ¬other = key := fun e => same (e.symm.trans h)
          simp only [if_pos h,if_neg absent]
        · simp only [if_neg h]

theorem get?_insert (m : KeyMap α) (key other : String) (value : α) :
    (m.insert key value).get? other = if other = key then some value else m.get? other :=
  valueAt?_putEntry key other value m.entries

end KeyMap

end ParamSql
