import ParamSql.Proofs.Renumbering
import Mathlib.Data.List.Chain

/-! Quoted identifiers and the text around them. An outline lists the symbols of a statement and the
names that stand between quote marks; it is kept that no name is followed by a quote mark or by
another name. Main statement: a reader that finds the text around the names where the outline has it
reads exactly these names. -/
namespace ParamSql

/-! ## Identifiers -/

namespace Dialect

/-- Reads an identifier up to its closing mark; a doubled mark is a mark of the name. -/
def readName? (d : Dialect) : List Char → Option (List Char × List Char)
  | [] => none
  | [c] => if c = d.quoteMark then some ([],[]) else none
  | c :: next :: text =>
    if c = d.quoteMark then
      if next = d.quoteMark then (readName? d text).map fun read => (c :: read.1,read.2)
      else some ([],next :: text)
    else (readName? d (next :: text)).map fun read => (c :: read.1,read.2)

/-- Reads a quoted identifier, and leaves the text after it. -/
def readQuoted? (d : Dialect) : List Char → Option (List Char × List Char)
  | [] => none
  | c :: text => if c = d.quoteMark then d.readName? text else none

variable {d : Dialect} {c : Char} {name text rest : List Char}

theorem readName?_cons_of_ne (other : c ≠ d.quoteMark) (text : List Char) :
    d.readName? (c :: text) = (d.readName? text).map fun read => (c :: read.1,read.2) := by
  cases text with
  | nil => simp [readName?,other]
  | cons next text => rw [readName?,if_neg other]

theorem readName?_doubled (text : List Char) : d.readName? (d.quoteMark :: d.quoteMark :: text) =
    (d.readName? text).map fun read => (d.quoteMark :: read.1,read.2) := by
  rw [readName?,if_pos rfl,if_pos rfl]

theorem readName?_closed (ends : rest.head? ≠ some d.quoteMark) :
    d.readName? (d.quoteMark :: rest) = some ([],rest) := by
  cases rest with
  | nil => rw [readName?,if_pos rfl]
  | cons next rest =>
    have other : next ≠ d.quoteMark := by simpa using ends
    rw [readName?,if_pos rfl,if_neg other]

theorem readQuoted?_append (name : List Char) (ends : rest.head? ≠ some d.quoteMark) :
    d.readQuoted? (d.quoteChars name ++ rest) = some (name,rest) := by
  simp only [quoteChars,List.cons_append,List.append_assoc,List.nil_append,readQuoted?,if_pos]
  induction name with
  | nil => exact readName?_closed ends
  | cons c name ih =>
    rw [List.flatMap_cons]
    by_cases mark : c = d.quoteMark
    · subst mark
      rw [if_pos rfl,List.cons_append,List.cons_append,List.cons_append,List.cons_append,
        List.nil_append,readName?_doubled,ih,Option.map_some]
    · rw [if_neg mark,List.cons_append,List.cons_append,List.nil_append,readName?_cons_of_ne mark,ih,
        Option.map_some]

theorem readName?_eq_some (read : d.readName? text = some (name,rest)) :
    d.quoteMark :: text = d.quoteChars name ++ rest ∧ rest.head? ≠ some d.quoteMark := by
  fun_induction readName? d text generalizing name with
  | case1 => cases read
  | case2 => cases read; simp [quoteChars]
  | case3 => cases read
  | case4 text ih =>
    obtain ⟨⟨first,last⟩,inside,same⟩ := Option.map_eq_some_iff.mp read
    cases same
    obtain ⟨written,ends⟩ := ih inside
    exact ⟨by simpa [quoteChars] using written,ends⟩
  | case5 next text other =>
    cases read
    exact ⟨by simp [quoteChars],by simpa using other⟩
  | case6 c next text mark ih =>
    obtain ⟨⟨first,last⟩,inside,same⟩ := Option.map_eq_some_iff.mp read
    cases same
    obtain ⟨written,ends⟩ := ih inside
    exact ⟨by simpa [quoteChars,mark] using written,ends⟩

/-- The reader takes exactly the quoted identifiers that no further mark follows. -/
theorem readQuoted?_eq_some_iff : d.readQuoted? text = some (name,rest) ↔
    text = d.quoteChars name ++ rest ∧ rest.head? ≠ some d.quoteMark := by
  constructor
  · intro read
    cases text with
    | nil => cases read
    | cons c text =>
      rw [readQuoted?] at read
      split at read
      next mark => subst mark; exact readName?_eq_some read
      next => cases read
  · rintro ⟨rfl,ends⟩
    exact readQuoted?_append name ends

theorem quote_injective (d : Dialect) : Function.Injective d.quote := by
  intro left right same
  have chars : d.quoteChars left.toList = d.quoteChars right.toList := String.ofList_injective same
  have ends : ([] : List Char).head? ≠ some d.quoteMark := nofun
  have read := readQuoted?_append left.toList ends
  rw [chars,readQuoted?_append right.toList ends] at read
  exact String.toList_inj.mp (congrArg Prod.fst (Option.some_inj.mp read)).symm

end Dialect

/-! ## Outlines -/

/-- A symbol of a statement, or a name that stands there between quote marks. -/
inductive Part where
  | symbol (s : Symbol)
  | name (n : String)

namespace Part

def symbols (d : Dialect) : Part → List Symbol
  | symbol s => [s]
  | name n => Symbol.ofText (d.quote n)

def name? : Part → Option String
  | symbol _ => none
  | name n => some n

/-- The second part does not continue the name of the first. -/
def Apart (d : Dialect) : Part → Part → Prop
  | name _, name _ => False
  | name _, symbol (.char c) => c ≠ d.quoteMark
  | _, _ => True

end Part

abbrev Outline := List Part

namespace Outline

def word (d : Dialect) (o : Outline) : List Symbol := o.flatMap (·.symbols d)

def names (o : Outline) : List String := o.filterMap (·.name?)

/-- The text around the names, with a gap for each name. -/
def around : (count : Nat) → Outline → List (Option Mark)
  | _, [] => []
  | count, .symbol (.char c) :: o => some (.char c) :: around count o
  | count, .symbol (.slot _) :: o => some (.placeholder (count + 1)) :: around (count + 1) o
  | count, .name _ :: o => none :: around count o

def spelled (word : List Symbol) : Outline := word.map .symbol

def text (s : String) : Outline := spelled (Symbol.ofText s)

def written (f : Fragment) : Outline := spelled f.word

/-- The items with a comma between them; before the first one, too, if it is not the first. -/
def listed (first : Bool) : List Outline → Outline
  | [] => []
  | item :: items => (if first then [] else text ", ") ++ item ++ listed false items

def quoted (names : List String) : Outline := listed true (names.map fun name => [.name name])

end Outline

/-- Reads the names in the gaps of a text. -/
def Dialect.readNames? (d : Dialect) : List (Option Mark) → List Char → Option (List String)
  | [], text => if text.isEmpty then some [] else none
  | some mark :: around, text => (text.dropPrefix? (mark.render d)).bind (readNames? d around)
  | none :: around, text =>
    (d.readQuoted? text).bind fun read =>
      (readNames? d around read.2).map (String.ofList read.1 :: ·)

namespace Outline

variable {d : Dialect} {o : Outline}

theorem word_name (n : String) (o : Outline) :
    word d (.name n :: o) = Symbol.ofText (d.quote n) ++ word d o := List.flatMap_cons

theorem word_symbol (s : Symbol) (o : Outline) : word d (.symbol s :: o) = s :: word d o :=
  List.flatMap_cons

theorem head?_renderFrom {n : String} (behind : ∀ part ∈ o.head?, Part.Apart d (.name n) part)
    (count : Nat) : (Symbol.renderFrom d count (word d o)).head? ≠ some d.quoteMark := by
  cases o with
  | nil => exact nofun
  | cons part o =>
    have apart := behind part rfl
    cases part with
    | name m => exact apart.elim
    | symbol s =>
      rw [word_symbol]
      cases s with
      | char c =>
        intro mark
        exact apart (Option.some_inj.mp mark)
      | slot v =>
        -- A placeholder begins with a dollar sign or a question mark.
        rw [Symbol.renderFrom]
        cases d <;> simp [Dialect.placeholder,Dialect.isNumbered,Dialect.quoteMark]

theorem readNames?_around (apart : o.IsChain (Part.Apart d)) (count : Nat) :
    d.readNames? (around count o) (Symbol.renderFrom d count (word d o)) = some (names o) := by
  induction o generalizing count with
  | nil => rfl
  | cons part o ih =>
    obtain ⟨behind,apart⟩ := List.isChain_cons.mp apart
    have read := ih apart
    cases part with
    | name n =>
      have chars : Symbol.renderFrom d count (word d (.name n :: o)) =
          d.quoteChars n.toList ++ Symbol.renderFrom d count (word d o) := by
        rw [word_name,Symbol.ofText,Symbol.renderFrom_text,Dialect.quote,String.toList_ofList]
      have ends := head?_renderFrom behind count
      rw [around,Dialect.readNames?,chars,Dialect.readQuoted?_append n.toList ends,Option.bind_some,
        read,Option.map_some,String.ofList_toList]
      rfl
    | symbol s =>
      rw [word_symbol]
      cases s with
      | char c =>
        rw [around,Dialect.readNames?,Symbol.renderFrom,Mark.render,← List.singleton_append,
          List.dropPrefix?_append_of_beq _ BEq.rfl]
        exact read count
      | slot v =>
        rw [around,Dialect.readNames?,Symbol.renderFrom,Mark.render,
          List.dropPrefix?_append_of_beq _ BEq.rfl]
        exact read (count + 1)

theorem word_append (o p : Outline) : word d (o ++ p) = word d o ++ word d p := List.flatMap_append

theorem word_spelled (word : List Symbol) : Outline.word d (spelled word) = word := by
  rw [Outline.word,spelled,List.flatMap_map]
  exact List.flatMap_singleton' word

@[simp] theorem names_nil : names [] = [] := rfl

@[simp] theorem names_append (o p : Outline) : names (o ++ p) = names o ++ names p :=
  List.filterMap_append

@[simp] theorem names_cons (n : String) (o : Outline) : names (.name n :: o) = n :: names o := rfl

@[simp] theorem names_spelled (word : List Symbol) : names (spelled word) = [] := by
  rw [names,spelled,List.filterMap_map]
  exact List.filterMap_eq_nil_iff.mpr fun _ _ => rfl

@[simp] theorem names_text (s : String) : names (text s) = [] := names_spelled _

@[simp] theorem names_written (f : Fragment) : names (written f) = [] := names_spelled _

@[simp] theorem names_listed (first : Bool) (items : List Outline) :
    names (listed first items) = items.flatMap names := by
  induction items generalizing first with
  | nil => rfl
  | cons item items ih =>
    rw [listed,names_append,names_append,ih,List.flatMap_cons]
    cases first <;> simp

@[simp] theorem names_quoted (given : List String) : names (quoted given) = given := by
  rw [quoted,names_listed,List.flatMap_map]
  exact List.flatMap_singleton' given

theorem apart_spelled (word : List Symbol) : (spelled word).IsChain (Part.Apart d) := by
  induction word with
  | nil => exact .nil
  | cons s word ih => exact ih.cons fun _ _ => trivial

theorem getLast?_spelled {word : List Symbol} {n : String} :
    (spelled word).getLast? ≠ some (.name n) := by
  rw [spelled,List.getLast?_map]
  cases word.getLast? <;> exact nofun

end Outline

/-- The names that stand where the outline of a statement has them. -/
def Statement.namesAt? (s : Statement) (d : Dialect) (o : Outline) : Option (List String) :=
  d.readNames? (o.around 0) s.sql.toList

/-- A text that can follow a name. -/
def endsName (s : String) : Bool :=
  match s.toList with
  | [] => false
  | c :: _ => c ≠ '\x22' && c ≠ '\x60'

/-- The fragment is written as the outline has it; no name stands at a closed end. -/
structure Outlined (d : Dialect) (closed : Bool) (o : Outline) (f : Fragment) : Prop where
  word : f.word = Outline.word d o
  apart : o.IsChain (Part.Apart d)
  ending : closed → ∀ n, o.getLast? ≠ some (.name n)

namespace Outlined

variable {d : Dialect} {closed : Bool} {o : Outline} {f g : Fragment}

theorem start : Outlined d true [] .empty := ⟨rfl,.nil,fun _ _ => nofun⟩

theorem loosen (h : Outlined d closed o f) : Outlined d false o f := ⟨h.word,h.apart,nofun⟩

theorem spell {word : List Symbol} {after : Bool} (h : Outlined d closed o f)
    (more : g.word = f.word ++ word) (begins : closed ∨ ∀ s ∈ word.head?, s ≠ .char d.quoteMark)
    (ends : after → closed ∨ word ≠ []) : Outlined d after (o ++ Outline.spelled word) g := by
  refine ⟨?_,?_,fun strict n last => ?_⟩
  · rw [more,h.word,Outline.word_append,Outline.word_spelled]
  -- A name and a mark could meet only at the seam.
  · refine h.apart.append (Outline.apart_spelled word) fun x last y head => ?_
    cases x with
    | symbol s => trivial
    | name n =>
      obtain ⟨s,first,rfl⟩ : ∃ s, word.head? = some s ∧ Part.symbol s = y := by
        simpa [Outline.spelled] using head
      rcases begins with isClosed | apart
      · exact absurd last (h.ending isClosed n)
      · cases s with
        | slot v => trivial
        | char c => exact fun mark => apart _ first (congrArg Symbol.char mark)
  · rw [List.getLast?_append,Option.or_eq_some_iff] at last
    rcases last with last | ⟨none,last⟩
    · exact Outline.getLast?_spelled last
    · rcases ends strict with isClosed | nonempty
      · exact h.ending isClosed n last
      · simp [Outline.spelled] at none
        exact nonempty none

theorem append (h : Outlined d true o f) (g : Fragment) :
    Outlined d true (o ++ Outline.written g) (f.append g) :=
  h.spell (f.word_append g) (.inl rfl) fun _ => .inl rfl

theorem text (h : Outlined d true o f) (s : String) :
    Outlined d true (o ++ Outline.text s) (f.text s) :=
  h.spell (f.word_text s) (.inl rfl) fun _ => .inl rfl

theorem keyword (h : Outlined d closed o f) (s : String) (plain : endsName s) :
    Outlined d true (o ++ Outline.text s) (f.text s) := by
  have other : ∀ symbol ∈ (Symbol.ofText s).head?, symbol ≠ .char d.quoteMark := by
    intro symbol first
    unfold endsName at plain
    split at plain
    next => cases plain
    next c cs chars =>
      rw [Symbol.ofText,chars] at first
      cases first
      rintro ⟨⟩
      cases d <;> simp [Dialect.quoteMark] at plain
  have nonempty : Symbol.ofText s ≠ [] := by
    intro none
    have chars : s.toList = [] := List.map_eq_nil_iff.mp none
    simp [endsName,chars] at plain
  exact h.spell (f.word_text s) (.inr other) fun _ => .inr nonempty

theorem name (h : Outlined d true o f) (n : String) :
    Outlined d false (o ++ [.name n]) (f.ident d n) := by
  refine ⟨?_,?_,nofun⟩
  · rw [Fragment.ident,Fragment.word_text,h.word,Outline.word_append]
    exact congrArg _ (List.append_nil _).symm
  · refine h.apart.append (List.isChain_singleton _) fun x last y _ => ?_
    cases x with
    | symbol s => trivial
    | name m => exact absurd last (h.ending rfl m)

theorem namesAt? (h : Outlined d closed o f) {s : Statement} (built : f.build d = .ok s) :
    s.namesAt? d o = some (Outline.names o) := by
  rw [Fragment.build] at built
  split at built
  next => cases built
  next =>
    cases built
    rw [Statement.namesAt?,f.toList_render,h.word]
    exact Outline.readNames?_around h.apart 0

end Outlined

end ParamSql
