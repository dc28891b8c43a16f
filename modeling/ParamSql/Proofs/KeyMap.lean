import ParamSql.KeyMap
import Mathlib.Data.List.Nodup

/-! Maps whose values change and whose keys stay. -/
namespace ParamSql.KeyMap

variable {α β : Type}

@[simp] theorem keys_map (f : α → β) (m : KeyMap α) : (m.map f).keys = m.keys := by
  simp [keys,map]

@[simp] theorem isEmpty_map (f : α → β) (m : KeyMap α) : (m.map f).isEmpty = m.isEmpty := by
  simp [isEmpty,map]

theorem valueAt?_map (f : α → β) (key : String) (entries : List (String × α)) :
    valueAt? key (entries.map fun e => (e.1,f e.2)) = (valueAt? key entries).map f := by
  induction entries with
  | nil => rfl
  | cons e entries ih => by_cases same : key = e.1 <;> simp [valueAt?,same,ih]

theorem get?_map (f : α → β) (m : KeyMap α) (key : String) : (m.map f).get? key = (m.get? key).map f :=
  valueAt?_map f key m.entries

theorem mem_insert {m : KeyMap α} {key name : String} {value : α}
    (member : name ∈ (m.insert key value).keys) : name = key ∨ name ∈ m.keys := by
  obtain ⟨e,found,rfl⟩ := List.mem_map.mp member
  rcases fst_mem_putEntry found with same | ⟨old,present,same⟩
  · exact .inl same
  · exact .inr (List.mem_map.mpr ⟨old,present,same⟩)

theorem mem_keys_ofList {entries : List (String × α)} {name : String}
    (member : name ∈ (ofList entries).keys) : ∃ e ∈ entries, e.1 = name := by
  have folded (entries : List (String × α)) (m : KeyMap α)
      (member : name ∈ (entries.foldl (fun m e => m.insert e.1 e.2) m).keys) :
      name ∈ m.keys ∨ ∃ e ∈ entries, e.1 = name := by
    induction entries generalizing m with
    | nil => exact .inl member
    | cons e entries ih =>
      rcases ih _ member with inside | ⟨later,found,same⟩
      · rcases mem_insert inside with same | old
        · exact .inr ⟨e,List.mem_cons_self,same.symm⟩
        · exact .inl old
      · exact .inr ⟨later,List.mem_cons_of_mem _ found,same⟩
  exact (folded entries empty member).resolve_left (by simp [keys,empty])

theorem mem_keys_insert {m : KeyMap α} {key name : String} {value : α} :
    name ∈ (m.insert key value).keys ↔ name = key ∨ name ∈ m.keys := by
  refine ⟨mem_insert,fun member => ?_⟩
  have written (entries : List (String × α)) (member : name = key ∨ name ∈ entries.map (·.1)) :
      name ∈ (putEntry key value entries).map (·.1) := by
    induction entries with
    | nil => simpa [putEntry] using member
    | cons e entries ih =>
      rw [putEntry]
      split
      · simpa using member
      · split
        next same => simpa [← same] using member
        next => grind
  exact written m.entries member

theorem mem_keys_ofList_iff {entries : List (String × α)} {name : String} :
    name ∈ (ofList entries).keys ↔ ∃ e ∈ entries, e.1 = name := by
  refine ⟨mem_keys_ofList,fun ⟨e,member,same⟩ => ?_⟩
  have folded (entries : List (String × α)) (m : KeyMap α)
      (present : name ∈ m.keys ∨ ∃ e ∈ entries, e.1 = name) :
      name ∈ (entries.foldl (fun m e => m.insert e.1 e.2) m).keys := by
    induction entries generalizing m with
    | nil => simpa using present
    | cons e entries ih =>
      refine ih _ ?_
      rw [mem_keys_insert]
      grind
  exact folded entries empty (.inr ⟨e,member,same⟩)

theorem mem_keys_iff {m : KeyMap α} {name : String} : name ∈ m.keys ↔ (m.get? name).isSome := by
  rw [keys,get?]
  induction m.entries with
  | nil => simp [valueAt?]
  | cons e entries ih => by_cases same : name = e.1 <;> simp [valueAt?,same,ih]

theorem get?_union (m n : KeyMap α) (key : String) : (m.union n).get? key = (n.get? key).or (m.get? key) := by
  have folded {entries : List (String × α)} (ascending : entries.Pairwise (·.1 < ·.1)) (m : KeyMap α) :
      (entries.foldl (fun m e => m.insert e.1 e.2) m).get? key = (valueAt? key entries).or (m.get? key) := by
    induction entries generalizing m with
    | nil => rfl
    | cons e entries ih =>
      obtain ⟨above,ascending⟩ := List.pairwise_cons.mp ascending
      rw [List.foldl_cons,ih ascending,get?_insert,valueAt?]
      split
      next same =>
        have later : valueAt? key entries = none := by
          refine Option.not_isSome_iff_eq_none.mp fun present => ?_
          obtain ⟨e',member,again⟩ := List.mem_map.mp (mem_keys_iff (m := ⟨entries,ascending⟩).mpr present)
          exact String.lt_irrefl key (by simpa [same,again] using above e' member)
        rw [later]
        rfl
      next => rfl
  exact folded n.ascending m

theorem ascending_keys (m : KeyMap α) : m.keys.Pairwise (· < ·) := List.pairwise_map.mpr m.ascending

theorem nodup_keys (m : KeyMap α) : m.keys.Nodup := by
  refine m.ascending_keys.imp fun {first second} less same => ?_
  exact String.lt_irrefl second (same ▸ less)

/-- Ascending keys are the only order of their names. -/
theorem keys_eq_of_perm {m : KeyMap α} {n : KeyMap β} (same : m.keys.Perm n.keys) : m.keys = n.keys := by
  refine same.eq_of_pairwise (fun a b _ _ less greater => ?_) m.ascending_keys n.ascending_keys
  exact absurd greater (String.lt_asymm less)

theorem mem_entries_iff {m : KeyMap α} {key : String} {value : α} :
    (key,value) ∈ m.entries ↔ m.get? key = some value := by
  obtain ⟨entries,ascending⟩ := m
  show (key,value) ∈ entries ↔ valueAt? key entries = some value
  induction entries with
  | nil => simp [valueAt?]
  | cons e entries ih =>
    obtain ⟨name,written⟩ := e
    obtain ⟨above,ascending⟩ := List.pairwise_cons.mp ascending
    rw [List.mem_cons,Prod.mk.injEq,valueAt?]
    split
    next same =>
      obtain rfl : key = name := same
      have later : (key,value) ∉ entries := fun member => String.lt_irrefl key (above _ member)
      simp [later,eq_comm]
    next other =>
      have other : key ≠ name := other
      simp [ih ascending,other]

/-- A map is known by what its names are looked up to. -/
theorem ext_get? {m n : KeyMap α} (same : ∀ key, m.get? key = n.get? key) : m = n := by
  have distinct (m : KeyMap α) : m.entries.Nodup := List.Nodup.of_map _ m.nodup_keys
  have permuted : m.entries.Perm n.entries := by
    refine (List.perm_ext_iff_of_nodup (distinct m) (distinct n)).mpr fun e => ?_
    rw [mem_entries_iff,mem_entries_iff,same]
  refine KeyMap.ext (permuted.eq_of_pairwise (fun a b _ _ less greater => ?_) m.ascending n.ascending)
  exact absurd greater (String.lt_asymm less)

theorem entries_foldl_erase (m : KeyMap α) (names : List String) :
    (names.foldl (·.erase ·) m).entries = m.entries.filter (·.1 ∉ names) := by
  induction names generalizing m with
  | nil => simp
  | cons name names ih =>
    rw [List.foldl_cons,ih,erase,List.filter_filter]
    refine List.filter_congr fun e _ => Bool.eq_iff_iff.mpr ?_
    simp [and_comm]

theorem perm_putEntry {key : String} (value : α) {entries : List (String × α)}
    (fresh : key ∉ entries.map (·.1)) : (putEntry key value entries).Perm ((key,value) :: entries) := by
  induction entries with
  | nil => exact .refl _
  | cons e entries ih =>
    rw [List.map_cons,List.mem_cons,not_or] at fresh
    obtain ⟨other,fresh⟩ := fresh
    rw [putEntry,if_neg other]
    split
    · exact .refl _
    · exact ((ih fresh).cons e).trans (.swap ..)

theorem perm_entries_ofList {entries : List (String × α)} (distinct : (entries.map (·.1)).Nodup) :
    (ofList entries).entries.Perm entries := by
  have folded (entries : List (String × α)) (m : KeyMap α)
      (distinct : ((entries ++ m.entries).map (·.1)).Nodup) :
      (entries.foldl (fun m e => m.insert e.1 e.2) m).entries.Perm (entries ++ m.entries) := by
    induction entries generalizing m with
    | nil => exact .refl _
    | cons e entries ih =>
      have fresh : e.1 ∉ m.entries.map (·.1) := by
        rw [List.cons_append,List.map_cons,List.nodup_cons,List.map_append,List.mem_append] at distinct
        exact fun inside => distinct.1 (.inr inside)
      have moved : (entries ++ (m.insert e.1 e.2).entries).Perm (e :: entries ++ m.entries) :=
        ((perm_putEntry e.2 fresh).append_left entries).trans List.perm_middle
      exact (ih _ ((moved.map _).nodup_iff.mpr distinct)).trans moved
  have whole := folded entries empty (by simpa [empty] using distinct)
  exact whole.trans (.of_eq (List.append_nil entries))

theorem empty_union (m : KeyMap α) : KeyMap.empty.union m = m := by
  have same : (ofList m.entries).entries.Perm m.entries := perm_entries_ofList m.nodup_keys
  refine KeyMap.ext (same.eq_of_pairwise (fun a b _ _ less greater => ?_)
    (ofList m.entries).ascending m.ascending)
  exact absurd greater (String.lt_asymm less)

/-- Of two lists side by side, the value beside a name is the one at the place of the name. -/
theorem valueAt?_zip {names : List String} (distinct : names.Nodup) {i : Nat} {name : String}
    (placed : names[i]? = some name) (values : List α) :
    valueAt? name (names.zip values) = values[i]? := by
  induction names generalizing i values with
  | nil => simp at placed
  | cons first names ih =>
    obtain ⟨fresh,distinct⟩ := List.nodup_cons.mp distinct
    cases values with
    | nil => simp [valueAt?]
    | cons v values =>
      rw [List.zip_cons_cons,valueAt?]
      cases i with
      | zero =>
        obtain rfl : first = name := by simpa using placed
        simp
      | succ i =>
        have placed : names[i]? = some name := by simpa using placed
        have other : name ≠ first := fun same => fresh (same ▸ List.mem_of_getElem? placed)
        rw [if_neg other,ih distinct placed,List.getElem?_cons_succ]

end ParamSql.KeyMap
