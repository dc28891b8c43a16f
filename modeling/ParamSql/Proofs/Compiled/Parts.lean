import ParamSql.Proofs.Filtered
import ParamSql.Proofs.Rendering

/-! The text, the arguments and the mismatch of joined parts. The text of a part depends on how many
arguments come before it and on nothing else; arguments and mismatches are those of the parts in
order. -/
namespace ParamSql

namespace Compiled

/-- The text of a part behind `count` arguments. -/
def sqlAfter (d : Dialect) (count : Nat) (c : Compiled) : String :=
  String.ofList (c.marks.flatMap fun mark => (mark.shift count).render d)

variable {parts : List Compiled}

@[simp] theorem args_empty : empty.args = [] := rfl

@[simp] theorem args_text (s : String) : (text s).args = [] := rfl

@[simp] theorem args_append (a b : Compiled) : (a ++ b).args = a.args ++ b.args := rfl

@[simp] theorem mismatch_empty : empty.mismatch = none := rfl

@[simp] theorem mismatch_text (s : String) : (text s).mismatch = none := rfl

@[simp] theorem mismatch_append (a b : Compiled) : (a ++ b).mismatch = a.mismatch.or b.mismatch := rfl

@[simp] theorem sqlAfter_text (d : Dialect) (count : Nat) (s : String) : (text s).sqlAfter d count = s := by
  have plain : (s.toList.map Mark.char).flatMap (fun mark => (mark.shift count).render d) = s.toList := by
    rw [List.flatMap_map]
    exact List.flatMap_singleton' s.toList
  rw [sqlAfter,text,plain,String.ofList_toList]

@[simp] theorem sqlAfter_append (d : Dialect) (count : Nat) (a b : Compiled) :
    (a ++ b).sqlAfter d count = a.sqlAfter d count ++ b.sqlAfter d (count + a.args.length) := by
  simp only [sqlAfter,append_def,List.flatMap_append,List.flatMap_map,Mark.shift_shift,String.ofList_append]

theorem args_concat (parts : List Compiled) : (concat parts).args = parts.flatMap (·.args) := by
  induction parts with
  | nil => rfl
  | cons part parts ih => rw [concat,args_append,ih,List.flatMap_cons]

theorem args_separated (sep : String) (parts : List Compiled) :
    (separated sep parts).args = parts.flatMap (·.args) := by
  cases parts with
  | nil => rfl
  | cons part parts =>
    rw [separated,args_append,args_concat,List.flatMap_map,List.flatMap_cons]
    rfl

/-- The texts of parts that follow one another. -/
def sqlsAfter (d : Dialect) : (count : Nat) → List Compiled → List String
  | _, [] => []
  | count, part :: parts => part.sqlAfter d count :: sqlsAfter d (count + part.args.length) parts

theorem sqlsAfter_append (d : Dialect) (count : Nat) (parts more : List Compiled) :
    sqlsAfter d count (parts ++ more) =
      sqlsAfter d count parts ++ sqlsAfter d (count + (parts.flatMap (·.args)).length) more := by
  induction parts generalizing count with
  | nil => rfl
  | cons part parts ih =>
    rw [List.cons_append,sqlsAfter,ih,sqlsAfter,List.flatMap_cons,List.length_append,Nat.add_assoc,
      List.cons_append]

theorem length_sqlsAfter (d : Dialect) (count : Nat) (parts : List Compiled) :
    (sqlsAfter d count parts).length = parts.length := by
  induction parts generalizing count with
  | nil => rfl
  | cons part parts ih => rw [sqlsAfter,List.length_cons,ih,List.length_cons]

theorem sqlAfter_separated (d : Dialect) (count : Nat) (sep : String) (parts : List Compiled) :
    (separated sep parts).sqlAfter d count = String.intercalate sep (sqlsAfter d count parts) := by
  have joined (count : Nat) (parts : List Compiled) :
      (concat (parts.map (text sep ++ ·))).sqlAfter d count =
        String.join ((sqlsAfter d count parts).map (sep ++ ·)) := by
    induction parts generalizing count with
    | nil => rfl
    | cons part parts ih =>
      rw [List.map_cons,concat,sqlAfter_append,sqlAfter_append,sqlAfter_text,ih,sqlsAfter,List.map_cons,
        String.join_cons]
      simp
  cases parts with
  | nil => rfl
  | cons part parts => rw [separated,sqlAfter_append,joined,sqlsAfter,intercalate_cons]

theorem mismatch_concat_eq (parts : List Compiled) :
    (concat parts).mismatch = parts.findSome? (·.mismatch) := by
  induction parts with
  | nil => rfl
  | cons part parts ih =>
    rw [concat,mismatch_append,ih,List.findSome?_cons]
    cases part.mismatch <;> rfl

theorem mismatch_separated_eq (sep : String) (parts : List Compiled) :
    (separated sep parts).mismatch = parts.findSome? (·.mismatch) := by
  cases parts with
  | nil => rfl
  | cons part parts =>
    rw [separated,mismatch_append,mismatch_concat_eq,List.findSome?_map,List.findSome?_cons]
    cases part.mismatch <;> rfl

theorem mismatch_separated (sep : String) (clean : ∀ part ∈ parts, part.mismatch = none) :
    (separated sep parts).mismatch = none := by
  rw [mismatch_separated_eq,List.findSome?_eq_none_iff]
  exact clean

/-- A writer that puts a separator before every part but the first writes the separated parts. -/
theorem ofFragment_separated {α : Type} {sep : String} {part : α → Compiled}
    {w : Bool → List α → Fragment → Fragment} (stop : ∀ first out, w first [] out = out)
    (step : ∀ first a as out, ∃ next, w first (a :: as) out = w false as next ∧
      ofFragment next = ofFragment out ++ if first then part a else text sep ++ part a)
    (first : Bool) (as : List α) (out : Fragment) : ofFragment (w first as out) =
      ofFragment out ++ if first then separated sep (as.map part)
        else concat (as.map fun a => text sep ++ part a) := by
  induction as generalizing first out with
  | nil => cases first <;> exact (congrArg ofFragment (stop ..)).trans (append_empty _).symm
  | cons a as ih =>
    obtain ⟨next,written,reached⟩ := step first a as out
    rw [written,ih,reached]
    cases first <;> simp [separated,concat,append_assoc,Function.comp_def]

theorem build_of_clean {c : Compiled} (clean : c.mismatch = none) (d : Dialect) :
    c.build d = .ok ⟨c.sqlAfter d 0,c.args,none,none⟩ := by
  simp only [build,clean,sqlAfter,Mark.shift_zero]

theorem eq_of_build {c : Compiled} {d : Dialect} {s : Statement} (built : c.build d = .ok s) :
    s = ⟨c.sqlAfter d 0,c.args,none,none⟩ := by
  cases clean : c.mismatch with
  | none => rw [build_of_clean clean] at built; exact (Except.ok.inj built).symm
  | some m => rw [build,clean] at built; cases built

theorem build_error_iff {c : Compiled} {d : Dialect} {e : Error} :
    c.build d = .error e ↔ ∃ m, c.mismatch = some m ∧ e = .validation (.markers m) := by
  rw [build]
  cases c.mismatch <;> simp [eq_comm]

end Compiled

end ParamSql
