import ParamSql.Proofs.Rendering
import Mathlib.Data.List.Chain
import Mathlib.Data.List.Basic

/-! The layout of fragments in two lists, one of parts and one of arguments, with operations that
change the lists in place. Main statements: every operation keeps a layout normal, and a fragment that
is laid out after an operation is what the operation makes of its layout. A normal layout has a place
for each argument, so its build never refuses it for their number. -/
namespace ParamSql

/-- A part is a text, or the place of an argument. -/
structure Layout where
  parts : List (Option String)
  args : List Value
  tag : Option String
  mismatch : Option MarkerMismatch

namespace Layout

/-- Writes a text behind the parts: into the last one, if that is a text. -/
def join (parts : List (Option String)) (s : String) : List (Option String) :=
  match parts.getLast? with
  | some (some last) => parts.dropLast ++ [some (last ++ s)]
  | _ => parts ++ [some s]

def add (parts : List (Option String)) : Option String → List (Option String)
  | some s => if s.isEmpty then parts else join parts s
  | none => parts ++ [none]

def empty : Layout := ⟨[],[],none,none⟩

def text (l : Layout) (s : String) : Layout := { l with parts := add l.parts (some s) }

def ofText (s : String) : Layout := { empty with parts := if s.isEmpty then [] else [some s] }

def bind (l : Layout) (v : Value) : Layout := { l with parts := add l.parts none, args := l.args ++ [v] }

def bindList (l : Layout) : List Value → Layout
  | [] => l.text "NULL"
  | v :: vs => vs.foldl (fun l v => (l.text ", ").bind v) (l.bind v)

def ident (l : Layout) (d : Dialect) (name : String) : Layout :=
  { l with parts := join l.parts (d.quote name) }

def append (l m : Layout) : Layout :=
  ⟨m.parts.foldl add l.parts,l.args ++ m.args,l.tag.or m.tag,l.mismatch.or m.mismatch⟩

def withTag (l : Layout) (tag : String) : Layout := { l with tag := some tag }

/-- Fills a template. The characters that it has read since the last argument are written together. -/
def fillChars (read : List Char) : List Char → List Value → Layout → Layout
  | '?' :: '?' :: cs, args, l => fillChars (read ++ ['?']) cs args l
  | '?' :: cs, v :: args, l => fillChars [] cs args ((l.text (String.ofList read)).bind v)
  | '?' :: cs, [], l => fillChars (read ++ ['?']) cs [] l
  | c :: cs, args, l => fillChars (read ++ [c]) cs args l
  | [], _, l => l.text (String.ofList read)

def fill (l : Layout) (template : String) (args : List Value) : Layout :=
  fillChars [] template.toList args
    { l with mismatch := l.mismatch.or (Fragment.mismatch? template args) }

def fill? (template : String) (args : List Value) : Change Layout Unit := do
  if let some mismatch := Fragment.mismatch? template args then throw (.validation (.markers mismatch))
  modify (·.fill template args)

theorem run_fill? (l : Layout) (template : String) (args : List Value) :
    (fill? template args).run.run l = match Fragment.mismatch? template args with
      | some mismatch => (.error (.validation (.markers mismatch)),l)
      | none => (.ok (),l.fill template args) := by
  rw [fill?]
  cases Fragment.mismatch? template args <;> rfl

def renderFrom (d : Dialect) : (count : Nat) → List (Option String) → String
  | _, [] => ""
  | count, some s :: parts => s ++ renderFrom d count parts
  | count, none :: parts => d.placeholder (count + 1) ++ renderFrom d (count + 1) parts

def render (l : Layout) (d : Dialect) : String := renderFrom d 0 l.parts

def places (l : Layout) : Nat := l.parts.count none

/-- Other than a fragment, a layout can have more or fewer places than arguments. -/
def build (l : Layout) (d : Dialect) : Except Error Statement :=
  match l.mismatch with
  | some mismatch => .error (.validation (.markers mismatch))
  | none =>
    if l.places ≠ l.args.length then
      .error (.validation (.stated ("Sql: placeholders(" ++ l.places.repr ++ ") != params(" ++
        l.args.length.repr ++ ")")))
    else .ok ⟨l.render d,l.args,l.tag,none⟩

/-! ## Normal layouts -/

/-- No text is empty or stands behind another one. -/
structure Separated (parts : List (Option String)) : Prop where
  filled : some "" ∉ parts
  apart : parts.IsChain fun p q => p = none ∨ q = none

structure Normal (l : Layout) : Prop where
  places : l.places = l.args.length
  separated : Separated l.parts

variable {parts : List (Option String)} {l m : Layout}

@[simp] theorem join_nil (s : String) : join [] s = [some s] := rfl

@[simp] theorem join_text (parts : List (Option String)) (last s : String) :
    join (parts ++ [some last]) s = parts ++ [some (last ++ s)] := by
  simp [join]

@[simp] theorem join_place (parts : List (Option String)) (s : String) :
    join (parts ++ [none]) s = parts ++ [none] ++ [some s] := by
  simp [join]

theorem count_join (parts : List (Option String)) (s : String) :
    (join parts s).count none = parts.count none := by
  obtain rfl | ⟨front,last,rfl⟩ := parts.eq_nil_or_concat'
  · simp
  · cases last <;> simp

theorem count_add (parts : List (Option String)) (p : Option String) :
    (add parts p).count none = parts.count none + [p].count none := by
  cases p with
  | none => rw [add,List.count_append]
  | some s =>
    rw [add]
    split
    · simp
    · simp [count_join]

theorem count_foldl_add (more parts : List (Option String)) :
    (more.foldl add parts).count none = parts.count none + more.count none := by
  induction more generalizing parts with
  | nil => rfl
  | cons p more ih => rw [List.foldl_cons,ih,count_add,Nat.add_assoc,← List.count_append]; rfl

namespace Separated

theorem place (h : Separated parts) : Separated (parts ++ [none]) := by
  refine ⟨by simpa using h.filled,?_⟩
  refine h.apart.append (List.isChain_singleton _) fun p last q head => ?_
  cases head
  exact .inr rfl

theorem join {s : String} (h : Separated parts) (filled : s ≠ "") : Separated (join parts s) := by
  obtain rfl | ⟨front,last,rfl⟩ := parts.eq_nil_or_concat'
  · exact ⟨by simpa using filled.symm,List.isChain_singleton _⟩
  · obtain ⟨full,apart⟩ := h
    rw [List.mem_append,not_or] at full
    cases last with
    | none =>
      rw [join_place]
      refine ⟨by simpa [full.1] using filled.symm,?_⟩
      refine apart.append (List.isChain_singleton _) fun p last q _ => ?_
      simp at last
      exact .inl last.symm
    | some last =>
      obtain ⟨inFront,-,seam⟩ := List.isChain_append.mp apart
      rw [join_text]
      refine ⟨by simpa [full.1] using fun _ => filled,?_⟩
      -- What stands before the last text is no text, and that text only grows.
      refine inFront.append (List.isChain_singleton _) fun p final q _ => ?_
      exact .inl (by simpa using seam p final (some last) rfl)

theorem add (h : Separated parts) (p : Option String) : Separated (add parts p) := by
  cases p with
  | none => exact h.place
  | some s =>
    rw [Layout.add]
    split
    next => exact h
    next filled => exact h.join (by simpa using filled)

theorem foldl_add (h : Separated parts) (more : List (Option String)) :
    Separated (more.foldl Layout.add parts) := by
  induction more generalizing parts with
  | nil => exact h
  | cons p more ih => exact ih (h.add p)

end Separated

theorem quote_ne_empty (d : Dialect) (name : String) : d.quote name ≠ "" := by
  simp [Dialect.quote,Dialect.quoteChars]

theorem placeholder_ne_empty (d : Dialect) (position : Nat) : d.placeholder position ≠ "" := by
  cases d <;> simp [Dialect.placeholder,Dialect.isNumbered]

theorem ofText_eq (s : String) : ofText s = empty.text s := by
  simp [ofText,text,add,empty]

theorem ident_eq (l : Layout) (d : Dialect) (name : String) : l.ident d name = l.text (d.quote name) := by
  simp [ident,text,add,quote_ne_empty]

namespace Normal

theorem empty : Layout.empty.Normal := ⟨rfl,by simp [Layout.empty],.nil⟩

theorem text (h : l.Normal) (s : String) : (l.text s).Normal where
  places := by
    rw [Layout.places,Layout.text,count_add]
    exact h.places
  separated := h.separated.add (some s)

theorem ofText (s : String) : (Layout.ofText s).Normal := by
  rw [ofText_eq]
  exact empty.text s

theorem bind (h : l.Normal) (v : Value) : (l.bind v).Normal where
  places := by
    rw [Layout.places,Layout.bind,count_add,List.length_append]
    exact congrArg (· + 1) h.places
  separated := h.separated.add none

theorem bindList (h : l.Normal) (values : List Value) : (l.bindList values).Normal := by
  have more (vs : List Value) {l : Layout} (h : l.Normal) :
      (vs.foldl (fun l v => (l.text ", ").bind v) l).Normal := by
    induction vs generalizing l with
    | nil => exact h
    | cons v vs ih => exact ih ((h.text ", ").bind v)
  cases values with
  | nil => exact h.text "NULL"
  | cons v vs => exact more vs (h.bind v)

theorem fillChars (read template : List Char) (args : List Value) (h : l.Normal) :
    (fillChars read template args l).Normal := by
  fun_induction Layout.fillChars read template args l with
  | case1 read cs args l ih => exact ih h
  | case2 read cs v args l single ih => exact ih ((h.text _).bind v)
  | case3 read cs l single ih => exact ih h
  | case4 read c cs args l single marked bare ih => exact ih h
  | case5 read args l => exact h.text _

theorem fill (h : l.Normal) (template : String) (args : List Value) : (l.fill template args).Normal :=
  fillChars [] template.toList args ⟨h.places,h.separated⟩

theorem append (h : l.Normal) (more : m.Normal) : (l.append m).Normal where
  places := by
    rw [Layout.places,Layout.append,count_foldl_add,List.length_append]
    exact congrArg₂ (· + ·) h.places more.places
  separated := h.separated.foldl_add m.parts

theorem withTag (h : l.Normal) (tag : String) : (l.withTag tag).Normal := ⟨h.places,h.separated⟩

end Normal

/-! ## Laying fragments out -/

def part : Piece → Option String
  | .text s => some s
  | .slot _ => none

theorem map_addText (s : String) (pieces : List Piece) :
    (Piece.addText s pieces).map part = add (pieces.map part) (some s) := by
  rw [add]
  split
  next blank => rw [String.isEmpty_iff.mp blank,Piece.addText_empty]
  next filled =>
    induction pieces with
    | nil => simp [Piece.addText,filled,part]
    | cons piece pieces ih =>
      cases pieces with
      | nil =>
        cases piece with
        | text last => rfl
        | slot v => simp [Piece.addText,filled,join,part]
      | cons next pieces =>
        have behind (p q : Option String) (parts : List (Option String)) :
            join (p :: q :: parts) s = p :: join (q :: parts) s := by
          rw [join,join,List.getLast?_cons_cons]
          split <;> rfl
        rw [Piece.addText_cons,List.map_cons,ih,List.map_cons,List.map_cons,List.map_cons,behind]

theorem map_addAll (pieces more : List Piece) :
    (Piece.addAll pieces more).map part = (more.map part).foldl add (pieces.map part) := by
  induction more generalizing pieces with
  | nil => rfl
  | cons piece more ih =>
    cases piece with
    | text s => rw [Piece.addAll,ih,map_addText]; rfl
    | slot v => rw [Piece.addAll,ih,List.map_append]; rfl

end Layout

namespace Fragment
open Layout

/-- The same fragment with its arguments in a list of their own. -/
def layout (f : Fragment) : Layout := ⟨f.pieces.map part,f.args,f.tag,f.mismatch⟩

theorem layout_text (f : Fragment) (s : String) : (f.text s).layout = f.layout.text s := by
  rw [layout,args_text]
  simp only [text,map_addText]
  rfl

theorem layout_bind (f : Fragment) (v : Value) : (f.bind v).layout = f.layout.bind v := by
  rw [layout,args_bind]
  simp only [bind,List.map_append]
  rfl

theorem layout_ofText (s : String) : (ofText s).layout = Layout.ofText s := by
  rw [ofText,layout_text,Layout.ofText_eq]
  rfl

theorem layout_bindList (f : Fragment) (values : List Value) :
    (f.bindList values).layout = f.layout.bindList values := by
  cases values with
  | nil => exact f.layout_text "NULL"
  | cons v vs =>
    rw [bindList,Layout.bindList,← layout_bind]
    generalize f.bind v = f
    induction vs generalizing f with
    | nil => rfl
    | cons v vs ih => rw [bindRest,ih,layout_bind,layout_text,List.foldl_cons]

theorem layout_ident (f : Fragment) (d : Dialect) (name : String) :
    (f.ident d name).layout = f.layout.ident d name := by
  rw [Layout.ident_eq]
  exact f.layout_text (d.quote name)

theorem layout_append (f g : Fragment) : (f.append g).layout = f.layout.append g.layout := by
  rw [layout,args_append]
  simp only [append,map_addAll]
  rfl

theorem layout_withTag (f : Fragment) (tag : String) :
    (f.withTag tag).layout = f.layout.withTag tag := rfl

theorem layout_fillChars (read template : List Char) (args : List Value) (f : Fragment) :
    (fillChars template args (f.text (String.ofList read))).layout =
      Layout.fillChars read template args f.layout := by
  have further (f : Fragment) (read : List Char) (c : Char) :
      (f.text (String.ofList read)).text c.toString = f.text (String.ofList (read ++ [c])) := by
    rw [text_text,String.ofList_append]
    rfl
  generalize laid : f.layout = l
  fun_induction Layout.fillChars read template args l generalizing f with
  | case1 read cs args l ih =>
    rw [fillChars,← ih f laid]
    exact congrArg (fun g => (fillChars cs args g).layout) (further f read '?')
  | case2 read cs v args l single ih =>
    have bound : ((f.text (String.ofList read)).bind v).layout =
        (l.text (String.ofList read)).bind v := by
      rw [layout_bind,layout_text,laid]
    rw [fillChars,← ih _ bound,String.ofList_nil,text_empty]
    exact single
  | case3 read cs l single ih =>
    rw [fillChars,← ih f laid]
    · exact congrArg (fun g => (fillChars cs [] g).layout) (further f read '?')
    · exact single
  | case4 read c cs args l single marked bare ih =>
    rw [fillChars,further f read c,ih f laid]
    all_goals assumption
  | case5 read args l => rw [fillChars,layout_text,laid]

theorem layout_fill (f : Fragment) (template : String) (args : List Value) :
    (f.fill template args).layout = f.layout.fill template args := by
  have start := layout_fillChars [] template.toList args
    { f with mismatch := f.mismatch.or (mismatch? template args) }
  rw [String.ofList_nil,text_empty] at start
  exact start

theorem layout_fill? (f : Fragment) (template : String) (args : List Value) :
    (Layout.fill? template args).run.run f.layout =
      (((fill? template args).run.run f).1,((fill? template args).run.run f).2.layout) := by
  rw [run_fill?,Layout.run_fill?]
  cases mismatch? template args with
  | some mismatch => rfl
  | none => rw [layout_fill]

theorem render_layout (f : Fragment) (d : Dialect) : f.layout.render d = f.render d := by
  rw [Layout.render,render,layout]
  generalize 0 = count
  induction f.pieces generalizing count with
  | nil => rfl
  | cons piece pieces ih =>
    cases piece with
    | text s => rw [List.map_cons,part,Layout.renderFrom,ih,Piece.renderFrom]
    | slot v => rw [List.map_cons,part,Layout.renderFrom,ih,Piece.renderFrom]

/-- A normal layout is not refused for the number of its arguments. -/
theorem build_layout {f : Fragment} (normal : f.layout.Normal) (d : Dialect) :
    f.layout.build d = f.build d := by
  rw [Layout.build,if_neg (not_not_intro normal.places),render_layout]
  rfl

theorem render_eq_empty_iff {f : Fragment} (normal : f.layout.Normal) (d : Dialect) :
    f.render d = "" ↔ f.isEmpty := by
  have filled := normal.separated.filled
  rw [← render_layout,Layout.render,isEmpty,List.isEmpty_iff]
  constructor
  · intro blank
    cases shape : f.pieces with
    | nil => rfl
    | cons piece pieces =>
      rw [layout,shape,List.map_cons] at blank filled
      cases piece with
      | text s =>
        rw [part,Layout.renderFrom,String.append_eq_empty_iff] at blank
        exact absurd List.mem_cons_self (blank.1 ▸ filled)
      | slot v =>
        rw [part,Layout.renderFrom,String.append_eq_empty_iff] at blank
        exact absurd blank.1 (placeholder_ne_empty d 1)
  · intro none
    rw [layout,none]
    rfl

end Fragment

end ParamSql
