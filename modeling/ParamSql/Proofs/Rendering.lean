import ParamSql.Proofs.Renumbering

/-! What each operation adds to the text and the arguments of a fragment. -/
namespace ParamSql

theorem Symbol.renderFrom_append (d : Dialect) (count : Nat) (first second : List Symbol) :
    renderFrom d count (first ++ second) =
      renderFrom d count first ++ renderFrom d (count + (first.filterMap arg?).length) second := by
  rw [← Mark.render_number,Mark.number_append,List.flatMap_append,Mark.render_number,
    Mark.render_number]

theorem intercalate_cons (sep s : String) (parts : List String) :
    String.intercalate sep (s :: parts) = s ++ String.join (parts.map (sep ++ ·)) := by
  induction parts generalizing s with
  | nil => simp
  | cons t parts ih =>
    rw [String.intercalate_cons_cons,ih,List.map_cons,String.join_cons]
    simp only [String.append_assoc]

namespace Fragment

@[simp] theorem args_empty : empty.args = [] := rfl

@[simp] theorem args_text (f : Fragment) (s : String) : (f.text s).args = f.args := by
  have bare : (Symbol.ofText s).filterMap Symbol.arg? = [] := by simp [Symbol.ofText,Symbol.arg?]
  rw [args_eq_word,word_text,List.filterMap_append,bare,List.append_nil,args_eq_word]

@[simp] theorem args_bind (f : Fragment) (v : Value) : (f.bind v).args = f.args ++ [v] := by
  rw [args_eq_word,word_bind,List.filterMap_append,args_eq_word]
  rfl

theorem args_append (f g : Fragment) : (f.append g).args = f.args ++ g.args := by
  rw [args_eq_word,word_append,List.filterMap_append,args_eq_word,args_eq_word]

@[simp] theorem render_empty (d : Dialect) : empty.render d = "" := rfl

@[simp] theorem render_text (f : Fragment) (s : String) (d : Dialect) :
    (f.text s).render d = f.render d ++ s := by
  have plain (count : Nat) : Symbol.renderFrom d count (Symbol.ofText s) = s.toList := by
    simpa [Symbol.ofText,Symbol.renderFrom] using Symbol.renderFrom_text d count s.toList []
  rw [← String.toList_inj,toList_render,word_text,Symbol.renderFrom_append,plain,String.toList_append,
    toList_render]

@[simp] theorem render_bind (f : Fragment) (v : Value) (d : Dialect) :
    (f.bind v).render d = f.render d ++ d.placeholder (f.args.length + 1) := by
  rw [← String.toList_inj,toList_render,word_bind,Symbol.renderFrom_append,String.toList_append,
    toList_render,args_eq_word]
  simp [Symbol.renderFrom]

theorem build_of_clean {f : Fragment} (clean : f.mismatch = none) (d : Dialect) :
    f.build d = .ok ⟨f.render d,f.args,f.tag,none⟩ := by
  rw [build,clean]

theorem eq_of_build {f : Fragment} {d : Dialect} {s : Statement} (built : f.build d = .ok s) :
    s = ⟨f.render d,f.args,f.tag,none⟩ := by
  rw [build] at built
  split at built
  next => cases built
  next => cases built; rfl

theorem args_bindRest (f : Fragment) (values : List Value) :
    (f.bindRest values).args = f.args ++ values := by
  induction values generalizing f with
  | nil => simp [bindRest]
  | cons v values ih => simp [bindRest,ih]

theorem render_bindRest (d : Dialect) (f : Fragment) (values : List Value) :
    (f.bindRest values).render d = f.render d ++ String.join
      ((List.range' (f.args.length + 1) values.length).map (", " ++ d.placeholder ·)) := by
  induction values generalizing f with
  | nil => simp [bindRest]
  | cons v values ih =>
    rw [bindRest,ih,List.length_cons,List.range'_succ,List.map_cons,String.join_cons]
    simp [String.append_assoc]

theorem args_bindList (f : Fragment) (values : List Value) :
    (f.bindList values).args = f.args ++ values := by
  cases values with
  | nil => simp [bindList]
  | cons v values => simp [bindList,args_bindRest]

theorem render_bindList (d : Dialect) (f : Fragment) {values : List Value} (some : values ≠ []) :
    (f.bindList values).render d = f.render d ++ String.intercalate ", "
      ((List.range' (f.args.length + 1) values.length).map d.placeholder) := by
  cases values with
  | nil => contradiction
  | cons v values =>
    rw [bindList,render_bindRest,List.length_cons,List.range'_succ,List.map_cons,intercalate_cons,
      List.map_map]
    simp [String.append_assoc,Function.comp_def]

end Fragment

end ParamSql
