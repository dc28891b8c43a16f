import ParamSql.Fragment.Template
import Mathlib.Data.List.Basic

/-! Fragments as words over characters and bound values. The word of a fragment decides its text in
every dialect and its arguments; text, bind, append and fill are concatenations of words. Append
itself is associative and passes through the other operations. -/
namespace ParamSql

namespace Piece

theorem addText_empty (pieces : List Piece) : addText "" pieces = pieces := by
  induction pieces with
  | nil => rfl
  | cons piece pieces ih =>
    cases piece with
    | slot v => rw [addText,ih]; intro last; simp
    | text s =>
      cases pieces with
      | nil => simp [addText]
      | cons next pieces => rw [addText,ih]; intro last; simp

theorem addText_slot (s : String) (v : Value) (pieces : List Piece) :
    addText s (slot v :: pieces) = slot v :: addText s pieces := by
  rw [addText]; intro last; simp

theorem addText_cons (s : String) (piece next : Piece) (pieces : List Piece) :
    addText s (piece :: next :: pieces) = piece :: addText s (next :: pieces) := by
  rw [addText]; intro last; simp

theorem addText_addText (s t : String) (pieces : List Piece) :
    addText t (addText s pieces) = addText (s ++ t) pieces := by
  induction pieces with
  | nil =>
    by_cases blank : s = ""
    · subst blank; simp [addText]
    · simp [addText,blank]
  | cons piece pieces ih =>
    cases pieces with
    | nil =>
      cases piece with
      | text last => simp [addText,String.append_assoc]
      | slot v => rw [addText_slot,addText_slot,addText_slot,ih]
    | cons next pieces =>
      obtain ⟨head,tail,shape⟩ : ∃ head tail, addText s (next :: pieces) = head :: tail := by
        cases pieces with
        | nil => cases next <;> simp [addText]
        | cons third pieces => exact ⟨_,_,addText_cons s next third pieces⟩
      rw [addText_cons,shape,addText_cons,← shape,ih,addText_cons]

theorem addAll_addText (s : String) (pieces more : List Piece) :
    addAll pieces (addText s more) = addText s (addAll pieces more) := by
  induction more generalizing pieces with
  | nil =>
    by_cases blank : s = ""
    · subst blank; simp [addText,addAll,addText_empty]
    · simp [addText,addAll,blank]
  | cons piece more ih =>
    cases more with
    | nil =>
      cases piece with
      | text last => simp [addText,addAll,addText_addText]
      | slot v => rw [addText_slot,addAll,ih]; rfl
    | cons next more =>
      rw [addText_cons]
      cases piece with
      | text t => rw [addAll,ih]; rfl
      | slot v => rw [addAll,ih]; rfl

theorem addAll_snoc (v : Value) (pieces more : List Piece) :
    addAll pieces (more ++ [slot v]) = addAll pieces more ++ [slot v] := by
  induction more generalizing pieces with
  | nil => rfl
  | cons piece more ih => cases piece <;> simp only [List.cons_append,addAll,ih]

theorem addAll_addAll (first second third : List Piece) :
    addAll first (addAll second third) = addAll (addAll first second) third := by
  induction third generalizing second with
  | nil => rfl
  | cons piece third ih =>
    cases piece with
    | text s => rw [addAll,ih,addAll_addText]; rfl
    | slot v => rw [addAll,ih,addAll_snoc]; rfl

end Piece

namespace Fragment

@[simp] theorem append_text (f g : Fragment) (s : String) :
    f.append (g.text s) = (f.append g).text s := by
  simp only [append,text,Piece.addAll_addText]

@[simp] theorem append_bind (f g : Fragment) (v : Value) :
    f.append (g.bind v) = (f.append g).bind v := by
  simp only [append,bind,Piece.addAll_snoc]

@[simp] theorem append_empty (f : Fragment) : f.append empty = f := by
  cases f; simp [append,empty,Piece.addAll]

theorem append_assoc (f g h : Fragment) : f.append (g.append h) = (f.append g).append h := by
  simp only [append,Piece.addAll_addAll,Option.or_assoc]

theorem text_text (f : Fragment) (s t : String) : (f.text s).text t = f.text (s ++ t) := by
  simp only [text,Piece.addText_addText]

@[simp] theorem text_empty (f : Fragment) : f.text "" = f := by
  cases f; simp only [text,Piece.addText_empty]

/-- A character of a template that is written as it is. -/
theorem ne_question {c : Char} {args : List Value}
    (unmarked : ∀ v rest, args = v :: rest → c = '?' → False) (bare : args = [] → c = '?' → False) :
    c ≠ '?' := by
  cases args with
  | nil => exact bare rfl
  | cons v args => exact unmarked v args rfl

theorem append_fillChars (f g : Fragment) (template : List Char) (args : List Value) :
    f.append (fillChars template args g) = fillChars template args (f.append g) := by
  fun_induction fillChars template args g with
  | case1 cs args g ih => rw [ih,append_text,fillChars]
  | case2 cs v args g unpaired ih => rw [ih,append_bind,fillChars]; exact unpaired
  | case3 cs g unpaired ih => rw [ih,append_text,fillChars]; exact unpaired
  | case4 c cs args g unpaired unmarked bare ih =>
    rw [ih,append_text,fillChars]
    all_goals assumption
  | case5 => rw [fillChars]

@[simp] theorem append_fill (f g : Fragment) (template : String) (args : List Value) :
    f.append (g.fill template args) = (f.append g).fill template args := by
  simp only [fill,append_fillChars]
  rw [append,append,Option.or_assoc]

theorem markerCount_unmarked {cs : List Char} (unmarked : '?' ∉ cs) : markerCount cs = 0 := by
  induction cs with
  | nil => rfl
  | cons c cs ih =>
    rw [List.mem_cons,not_or] at unmarked
    rw [markerCount,ih unmarked.2]
    all_goals simp [Ne.symm unmarked.1]

theorem fillChars_unmarked {cs : List Char} (unmarked : '?' ∉ cs) (args : List Value) (f : Fragment) :
    fillChars cs args f = f.text (String.ofList cs) := by
  induction cs generalizing f with
  | nil => cases args <;> exact f.text_empty.symm
  | cons c cs ih =>
    rw [List.mem_cons,not_or] at unmarked
    obtain ⟨different,unmarked⟩ := unmarked
    have shown : fillChars (c :: cs) args f = fillChars cs args (f.text c.toString) := by
      rw [fillChars]
      all_goals simp [Ne.symm different]
    rw [shown,ih unmarked,text_text]
    congr 1
    simp

/-- Only a mismatch tells such a template from its text. -/
theorem fill_eq_of_unmarked {sql : String} (unmarked : '?' ∉ sql.toList) (f : Fragment)
    (args : List Value) :
    f.fill sql args = { f.text sql with mismatch := f.mismatch.or (mismatch? sql args) } := by
  rw [fill,fillChars_unmarked unmarked,String.ofList_toList]
  rfl

theorem fill_unmarked {sql : String} (unmarked : '?' ∉ sql.toList) (f : Fragment)
    (matching : mismatch? sql [] = none) : f.fill sql [] = f.text sql := by
  rw [fill_eq_of_unmarked unmarked,matching,Option.or_none]
  rfl

theorem tag_fillChars (template : List Char) (args : List Value) (f : Fragment) :
    (fillChars template args f).tag = f.tag := by
  fun_induction fillChars template args f with
  | case1 cs args f ih => rw [ih]; rfl
  | case2 cs v args f unpaired ih => rw [ih]; rfl
  | case3 cs f unpaired ih => rw [ih]; rfl
  | case4 c cs args f unpaired unmarked bare ih => rw [ih]; rfl
  | case5 => rfl

theorem mismatch_fillChars (template : List Char) (args : List Value) (f : Fragment) :
    (fillChars template args f).mismatch = f.mismatch := by
  fun_induction fillChars template args f with
  | case1 cs args f ih => rw [ih]; rfl
  | case2 cs v args f unpaired ih => rw [ih]; rfl
  | case3 cs f unpaired ih => rw [ih]; rfl
  | case4 c cs args f unpaired unmarked bare ih => rw [ih]; rfl
  | case5 => rfl

theorem mismatch_fill (f : Fragment) (template : String) (args : List Value) :
    (f.fill template args).mismatch = f.mismatch.or (mismatch? template args) :=
  mismatch_fillChars template.toList args _

theorem tag_fill (f : Fragment) (template : String) (args : List Value) :
    (f.fill template args).tag = f.tag := tag_fillChars template.toList args _

theorem run_fill? (f : Fragment) (template : String) (args : List Value) :
    (fill? template args).run.run f = match mismatch? template args with
      | some mismatch => (.error (.validation (.markers mismatch)),f)
      | none => (.ok (),f.fill template args) := by
  rw [fill?]
  cases mismatch? template args <;> rfl

end Fragment

/-! ## The word of a fragment -/

/-- A character of the text, or a bound value in its place. -/
inductive Symbol where
  | char (c : Char)
  | slot (v : Value)

namespace Symbol

def arg? : Symbol → Option Value
  | char _ => none
  | slot v => some v

/-- The text of a word, after `count` placeholders. -/
def renderFrom (d : Dialect) : (count : Nat) → List Symbol → List Char
  | _, [] => []
  | count, char c :: word => c :: renderFrom d count word
  | count, slot _ :: word => (d.placeholder (count + 1)).toList ++ renderFrom d (count + 1) word

def ofText (s : String) : List Symbol := s.toList.map char

/-- The word of a template: its markers become slots as long as there are arguments. -/
def ofTemplate : List Char → List Value → List Symbol
  | '?' :: '?' :: cs, args => char '?' :: ofTemplate cs args
  | '?' :: cs, v :: args => slot v :: ofTemplate cs args
  | '?' :: cs, [] => char '?' :: ofTemplate cs []
  | c :: cs, args => char c :: ofTemplate cs args
  | [], _ => []

theorem ofText_append (s t : String) : ofText (s ++ t) = ofText s ++ ofText t := by
  simp [ofText]

theorem renderFrom_text (d : Dialect) (count : Nat) (cs : List Char) (word : List Symbol) :
    renderFrom d count (cs.map char ++ word) = cs ++ renderFrom d count word := by
  induction cs with
  | nil => rfl
  | cons c cs ih => rw [List.map_cons,List.cons_append,renderFrom,ih,List.cons_append]

end Symbol

def Piece.word : Piece → List Symbol
  | text s => Symbol.ofText s
  | slot v => [.slot v]

theorem Piece.word_addText (s : String) (pieces : List Piece) :
    (addText s pieces).flatMap word = pieces.flatMap word ++ Symbol.ofText s := by
  induction pieces with
  | nil => by_cases blank : s = "" <;> simp [addText,word,blank,Symbol.ofText]
  | cons piece pieces ih =>
    cases pieces with
    | nil =>
      cases piece with
      | text last => simp [addText,word,Symbol.ofText_append]
      | slot v => rw [addText_slot,List.flatMap_cons,ih]; rfl
    | cons next pieces => rw [addText_cons,List.flatMap_cons,ih]; simp

theorem Piece.toList_renderFrom (d : Dialect) (count : Nat) (pieces : List Piece) :
    (renderFrom d count pieces).toList = Symbol.renderFrom d count (pieces.flatMap word) := by
  induction pieces generalizing count with
  | nil => rfl
  | cons piece pieces ih =>
    cases piece with
    | text s => simp [renderFrom,word,Symbol.ofText,Symbol.renderFrom_text,ih]
    | slot v => simp [renderFrom,word,Symbol.renderFrom,ih]

theorem Piece.args_word (piece : Piece) :
    piece.word.filterMap Symbol.arg? = piece.arg?.toList := by
  cases piece with
  | text s => simp [word,arg?,Symbol.ofText,List.filterMap_map,Function.comp_def,Symbol.arg?]
  | slot v => rfl

namespace Fragment

def word (f : Fragment) : List Symbol := f.pieces.flatMap Piece.word

@[simp] theorem word_empty : empty.word = [] := rfl

@[simp] theorem word_text (f : Fragment) (s : String) :
    (f.text s).word = f.word ++ Symbol.ofText s := Piece.word_addText s f.pieces

@[simp] theorem word_bind (f : Fragment) (v : Value) : (f.bind v).word = f.word ++ [.slot v] := by
  simp [word,bind,Piece.word]

theorem word_append (f g : Fragment) : (f.append g).word = f.word ++ g.word := by
  rw [append,word,word,word]
  generalize f.pieces = pieces
  induction g.pieces generalizing pieces with
  | nil => simp [Piece.addAll]
  | cons piece more ih =>
    cases piece with
    | text s =>
      rw [Piece.addAll,ih,Piece.word_addText,List.flatMap_cons,List.append_assoc]; rfl
    | slot v => rw [Piece.addAll,ih]; simp

theorem word_fillChars (f : Fragment) (template : List Char) (args : List Value) :
    (fillChars template args f).word = f.word ++ Symbol.ofTemplate template args := by
  fun_induction fillChars template args f with
  | case1 cs args f ih => rw [ih,Symbol.ofTemplate,word_text,List.append_assoc]; rfl
  | case2 cs v args f unpaired ih =>
    rw [ih,Symbol.ofTemplate,word_bind,List.append_assoc]; rfl; exact unpaired
  | case3 cs f unpaired ih =>
    rw [ih,Symbol.ofTemplate,word_text,List.append_assoc]; rfl; exact unpaired
  | case4 c cs args f unpaired unmarked bare ih =>
    rw [ih,Symbol.ofTemplate,word_text,List.append_assoc]
    · simp [Symbol.ofText]
    all_goals assumption
  | case5 => simp [Symbol.ofTemplate]

@[simp] theorem word_fill (f : Fragment) (template : String) (args : List Value) :
    (f.fill template args).word = f.word ++ Symbol.ofTemplate template.toList args :=
  word_fillChars _ template.toList args

theorem args_eq_word (f : Fragment) : f.args = f.word.filterMap Symbol.arg? := by
  rw [args,word,List.filterMap_flatMap,List.filterMap_eq_flatMap_toList]
  congr 1
  funext piece
  exact piece.args_word.symm

theorem toList_render (f : Fragment) (d : Dialect) :
    (f.render d).toList = Symbol.renderFrom d 0 f.word := Piece.toList_renderFrom d 0 f.pieces

end Fragment

end ParamSql
