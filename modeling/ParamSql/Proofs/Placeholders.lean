import ParamSql.Proofs.Lockstep.Builds
import Mathlib.Data.List.Chain
import Mathlib.Data.List.Infix

/-! Placeholders and arguments. In the text of a built statement the placeholders are those of its
arguments, one each and in order, as long as the texts of the caller hold no look-alikes: no dollar
sign and no marker before a digit where placeholders are numbered, no question mark but markers
elsewhere. The invariant of the writers is that a digit never stands right behind a slot. -/
namespace ParamSql

/-- The maximal runs of digits behind dollar signs, from left to right. -/
def dollarNumbers : List Char → List (List Char)
  | [] => []
  | c :: cs =>
    let digits := cs.takeWhile Char.isDigit
    if c = '$' ∧ digits ≠ [] then digits :: dollarNumbers cs else dollarNumbers cs

/-- The character that begins a placeholder. -/
def Dialect.mark (d : Dialect) : Char := if d.isNumbered then '$' else '?'

/-- The placeholders of a text are those of its arguments, in order. -/
def Statement.Aligned (d : Dialect) (s : Statement) : Prop :=
  if d.isNumbered then
    dollarNumbers s.sql.toList = (List.range' 1 s.args.length).map (Nat.toDigits 10)
  else s.sql.toList.count '?' = s.args.length

/-- Whether no marker of a template stands right before a digit. -/
def markersApart : List Char → Bool
  | '?' :: '?' :: cs => markersApart cs
  | '?' :: cs => !cs.head?.any Char.isDigit && markersApart cs
  | _ :: cs => markersApart cs
  | [] => true

/-- Text in which nothing but a marker can be taken for a placeholder. -/
def Supplied.Clear (d : Dialect) : Supplied → Prop
  | .free s => d.mark ∉ s.toList
  | .template s =>
    if d.isNumbered then '$' ∉ s.toList ∧ markersApart s.toList else ¬['?','?'] <:+: s.toList

instance (d : Dialect) : DecidablePred (Supplied.Clear d)
  | .free s => inferInstanceAs (Decidable (d.mark ∉ s.toList))
  | .template s => inferInstanceAs (Decidable (if d.isNumbered then
      '$' ∉ s.toList ∧ markersApart s.toList else ¬['?','?'] <:+: s.toList))

/-! ## Words -/

namespace Symbol

def IsSlot : Symbol → Prop
  | char _ => False
  | slot _ => True

/-- The second symbol does not continue the number of the first. -/
def Apart : Symbol → Symbol → Prop
  | slot _, char c => c.isDigit = false
  | _, _ => True

theorem mem_of_char_mem_ofTemplate {c : Char} {template : List Char} {args : List Value}
    (member : char c ∈ ofTemplate template args) : c ∈ template := by
  fun_induction ofTemplate template args with
  | case1 cs args ih =>
    rcases List.mem_cons.mp member with same | member
    · cases same; exact List.mem_cons_self
    · exact List.mem_cons_of_mem _ (List.mem_cons_of_mem _ (ih member))
  | case2 cs v args unpaired ih =>
    rcases List.mem_cons.mp member with same | member
    · cases same
    · exact List.mem_cons_of_mem _ (ih member)
  | case3 cs unpaired ih =>
    rcases List.mem_cons.mp member with same | member
    · cases same; exact List.mem_cons_self
    · exact List.mem_cons_of_mem _ (ih member)
  | case4 first cs args unpaired unmarked bare ih =>
    rcases List.mem_cons.mp member with same | member
    · cases same; exact List.mem_cons_self
    · exact List.mem_cons_of_mem _ (ih member)
  | case5 => simp at member

/-- Without escaped question marks, a template with an argument for each marker keeps none. -/
theorem question_not_mem_ofTemplate {template : List Char} {args : List Value}
    (matched : Fragment.markerCount template = args.length)
    (single : ¬['?','?'] <:+: template) : char '?' ∉ ofTemplate template args := by
  fun_induction ofTemplate template args with
  | case1 cs args ih => exact absurd ⟨[],cs,rfl⟩ single
  | case2 cs v args unpaired ih =>
    rw [Fragment.markerCount,List.length_cons,Nat.add_right_cancel_iff] at matched
    · have rest := ih matched fun inside => single (inside.trans (List.suffix_cons _ _).isInfix)
      simpa using rest
    · exact unpaired
  | case3 cs unpaired ih =>
    rw [Fragment.markerCount] at matched
    · simp at matched
    · exact unpaired
  | case4 first cs args unpaired unmarked bare ih =>
    have other := Fragment.ne_question unmarked bare
    rw [Fragment.markerCount] at matched
    · have rest := ih matched fun inside => single (inside.trans (List.suffix_cons _ _).isInfix)
      simpa [Ne.symm other] using rest
    · exact unpaired
    · exact other
  | case5 => simp

theorem head_ofTemplate {c : Char} {template : List Char} {args : List Value}
    (head : (ofTemplate template args).head? = some (char c)) :
    c = '?' ∨ template.head? = some c := by
  revert head
  fun_cases ofTemplate template args with
  | case1 | case3 => intro head; cases head; exact .inl rfl
  | case2 | case5 => intro head; cases head
  | case4 => intro head; cases head; exact .inr rfl

theorem apart_ofTemplate {template : List Char} {args : List Value}
    (apart : markersApart template) : (ofTemplate template args).IsChain Apart := by
  have behindChar (c : Char) {word : List Symbol} (rest : word.IsChain Apart) :
      (char c :: word).IsChain Apart := rest.cons fun _ _ => trivial
  fun_induction ofTemplate template args with
  | case1 cs args ih => exact behindChar _ (ih apart)
  | case2 cs v args unpaired ih =>
    rw [markersApart,Bool.and_eq_true,Bool.not_eq_true'] at apart
    · refine (ih apart.2).cons fun symbol head => ?_
      cases symbol with
      | slot w => trivial
      | char c =>
        rcases head_ofTemplate head with rfl | first
        · rfl
        · have follows := apart.1
          rw [first] at follows
          exact follows
    · exact unpaired
  | case3 cs unpaired ih =>
    rw [markersApart,Bool.and_eq_true] at apart
    · exact behindChar _ (ih apart.2)
    · exact unpaired
  | case4 first cs args unpaired unmarked bare ih =>
    have other := Fragment.ne_question unmarked bare
    rw [markersApart] at apart
    · exact behindChar _ (ih apart)
    · exact unpaired
    · exact other
  | case5 => exact .nil

theorem apart_ofText (s : String) : (ofText s).IsChain Apart := by
  rw [ofText]
  induction s.toList with
  | nil => exact .nil
  | cons c cs ih => exact ih.cons fun _ _ => trivial

/-! ## Numbers in the text -/

theorem dollarNumbers_append {cs : List Char} (rest : List Char) (plain : '$' ∉ cs) :
    dollarNumbers (cs ++ rest) = dollarNumbers rest := by
  induction cs with
  | nil => rfl
  | cons c cs ih =>
    rw [List.mem_cons,not_or] at plain
    rw [List.cons_append,dollarNumbers,if_neg (fun h => plain.1 h.1.symm),ih plain.2]

theorem isDigit_of_mem_toDigits {c : Char} {n : Nat} (member : c ∈ Nat.toDigits 10 n) : c.isDigit :=
  Nat.isDigit_of_mem_toDigits (b := 10) (by decide) (by decide) member

/-- A numeral behind a dollar sign is read whole if no digit follows. -/
theorem dollarNumbers_numeral (n : Nat) {rest : List Char}
    (boundary : ∀ c ∈ rest.head?, c.isDigit = false) :
    dollarNumbers ('$' :: (Nat.toDigits 10 n ++ rest)) = Nat.toDigits 10 n :: dollarNumbers rest := by
  have stop : rest.takeWhile Char.isDigit = [] := by
    cases rest with
    | nil => rfl
    | cons c rest => simp [boundary c rfl]
  have whole : (Nat.toDigits 10 n ++ rest).takeWhile Char.isDigit = Nat.toDigits 10 n := by
    rw [List.takeWhile_append_of_pos fun c member => isDigit_of_mem_toDigits member,stop,
      List.append_nil]
  have plain : '$' ∉ Nat.toDigits 10 n := fun member => by
    have digit := isDigit_of_mem_toDigits member
    revert digit; decide
  have nonempty : Nat.toDigits 10 n ≠ [] := Nat.toDigits_ne_nil
  rw [dollarNumbers,whole,if_pos ⟨rfl,nonempty⟩,dollarNumbers_append rest plain]

theorem head_renderFrom {d : Dialect} (numbered : d.isNumbered) {count : Nat} {c : Char}
    {word : List Symbol} (head : (renderFrom d count word).head? = some c) :
    c = '$' ∨ word.head? = some (char c) := by
  cases word with
  | nil => cases head
  | cons symbol word =>
    cases symbol with
    | char first => cases head; exact .inr rfl
    | slot v =>
      rw [renderFrom,Dialect.placeholder,if_pos numbered,String.toList_append] at head
      cases head; exact .inl rfl

theorem dollarNumbers_renderFrom {d : Dialect} (numbered : d.isNumbered) {word : List Symbol}
    (plain : ∀ c, char c ∈ word → c ≠ '$') (apart : word.IsChain Apart) (count : Nat) :
    dollarNumbers (renderFrom d count word) =
      (List.range' (count + 1) (word.filterMap arg?).length).map (Nat.toDigits 10) := by
  induction word generalizing count with
  | nil => rfl
  | cons symbol word ih =>
    obtain ⟨behind,apart⟩ := List.isChain_cons.mp apart
    have rest := ih (fun c member => plain c (List.mem_cons_of_mem _ member)) apart
    cases symbol with
    | char c =>
      have other : ¬(c = '$' ∧ (renderFrom d count word).takeWhile Char.isDigit ≠ []) := fun h =>
        plain c List.mem_cons_self h.1
      rw [renderFrom,dollarNumbers,if_neg other,rest]; rfl
    | slot v =>
      have boundary : ∀ c ∈ (renderFrom d (count + 1) word).head?, c.isDigit = false := by
        intro c head
        rcases head_renderFrom numbered head with rfl | first
        · rfl
        · exact behind _ first
      have written : (d.placeholder (count + 1)).toList = '$' :: Nat.toDigits 10 (count + 1) := by
        rw [Dialect.placeholder,if_pos numbered,String.toList_append,Nat.repr]; simp
      rw [renderFrom,written,List.cons_append,dollarNumbers_numeral _ boundary,rest]
      rfl

theorem count_renderFrom {d : Dialect} (unnumbered : d.isNumbered = false) {word : List Symbol}
    (plain : ∀ c, char c ∈ word → c ≠ '?') (count : Nat) :
    (renderFrom d count word).count '?' = (word.filterMap arg?).length := by
  induction word generalizing count with
  | nil => rfl
  | cons symbol word ih =>
    have rest := ih fun c member => plain c (List.mem_cons_of_mem _ member)
    cases symbol with
    | char c =>
      rw [renderFrom,List.count_cons_of_ne (plain c List.mem_cons_self),rest]; rfl
    | slot v =>
      have written : (d.placeholder (count + 1)).toList = ['?'] := by
        simp [Dialect.placeholder,unnumbered]
      rw [renderFrom,written,List.singleton_append,List.count_cons_self,rest]; rfl

end Symbol

/-! ## The invariant of the writers -/

namespace Fragment

theorem markerCount_of_mismatch?_eq_none {template : String} {args : List Value}
    (matched : mismatch? template args = none) : markerCount template.toList = args.length := by
  rw [mismatch?] at matched
  split at matched
  next same => exact same
  next => cases matched

end Fragment

/-- Nothing in the text looks like a placeholder, no number runs on, and a clear end is no slot. -/
structure Placed (d : Dialect) (clear : Bool) (word : List Symbol) : Prop where
  plain : ∀ c, .char c ∈ word → c ≠ d.mark
  apart : d.isNumbered → word.IsChain Symbol.Apart
  ending : clear → ∀ s ∈ word.getLast?, ¬s.IsSlot

theorem Placed.append_text {d : Dialect} {clear : Bool} {word : List Symbol} {s : String}
    (placed : Placed d clear word) (plain : d.mark ∉ s.toList)
    (boundary : clear ∨ s ≠ "" ∧ ∀ c ∈ s.toList.head?, c.isDigit = false) :
    Placed d true (word ++ Symbol.ofText s) := by
  refine ⟨fun c member => ?_,fun numbered => ?_,fun _ symbol last => ?_⟩
  · rcases List.mem_append.mp member with inside | inside
    · exact placed.plain c inside
    · obtain ⟨c,inside,same⟩ := List.mem_map.mp inside
      cases same
      exact fun mark => plain (mark ▸ inside)
  · refine (placed.apart numbered).append (Symbol.apart_ofText s) fun x last y head => ?_
    obtain ⟨c,first,rfl⟩ : ∃ c, s.toList.head? = some c ∧ Symbol.char c = y := by
      simpa [Symbol.ofText] using head
    cases x with
    | char b => trivial
    | slot v =>
      rcases boundary with isClear | ⟨-,apart⟩
      · exact absurd trivial (placed.ending isClear _ last)
      · exact apart c first
  · rw [List.getLast?_append,Symbol.ofText,List.getLast?_map] at last
    cases final : s.toList.getLast? with
    | some c => rw [final] at last; cases last; exact not_false
    | none =>
      have blank : s = "" := by simpa using final
      rw [final,Option.map_none,Option.none_or] at last
      rcases boundary with isClear | ⟨nonempty,-⟩
      · exact placed.ending isClear symbol last
      · exact absurd blank nonempty

def Dialect.lockstep (d : Dialect) : Lockstep where
  value := id
  left := .empty
  right := .empty
  allowed c := c ≠ d.mark
  template s := (Supplied.template s).Clear d
  fixed c dollar question := by cases d <;> assumption

theorem head_isKeyword {s : String} (fixed : isKeyword s) :
    ∀ c ∈ s.toList.head?, c.isDigit = false := by
  intro c first
  unfold isKeyword at fixed
  split at fixed
  next none => rw [none] at first; cases first
  next c rest split =>
    rw [split] at first
    cases first
    simpa using (Bool.and_eq_true_iff.mp fixed).1

theorem Placed.append_template {d : Dialect} {word : List Symbol} {sql : String} {args : List Value}
    (placed : Placed d true word) (clear : (Supplied.template sql).Clear d)
    (matched : Fragment.markerCount sql.toList = args.length) :
    Placed d false (word ++ Symbol.ofTemplate sql.toList args) := by
  refine ⟨fun c member => ?_,fun numbered => ?_,fun strict => by cases strict⟩
  · rcases List.mem_append.mp member with inside | inside
    · exact placed.plain c inside
    · rintro rfl
      cases numbered : d.isNumbered with
      | true =>
        rw [Supplied.Clear,if_pos numbered] at clear
        rw [Dialect.mark,if_pos numbered] at inside
        exact clear.1 (Symbol.mem_of_char_mem_ofTemplate inside)
      | false =>
        rw [Supplied.Clear,if_neg (by simp [numbered])] at clear
        rw [Dialect.mark,if_neg (by simp [numbered])] at inside
        exact Symbol.question_not_mem_ofTemplate matched clear inside
  · rw [Supplied.Clear,if_pos numbered] at clear
    refine (placed.apart numbered).append (Symbol.apart_ofTemplate clear.2) fun x last y _ => ?_
    cases x with
    | char b => trivial
    | slot v => exact absurd trivial (placed.ending rfl _ last)

theorem Placed.append_slot {d : Dialect} {word : List Symbol} (placed : Placed d true word)
    (v : Value) : Placed d false (word ++ [.slot v]) := by
  refine ⟨fun c member => ?_,fun numbered => ?_,fun strict => by cases strict⟩
  · rcases List.mem_append.mp member with inside | inside
    · exact placed.plain c inside
    · simp at inside
  · refine (placed.apart numbered).append (List.isChain_singleton _) fun x last y head => ?_
    cases head
    cases x <;> trivial

theorem Lockstep.Reaches.placed {d : Dialect} {clear : Bool} {f g : Fragment}
    (h : d.lockstep.Reaches clear f g) (matched : f.mismatch = none) : Placed d clear f.word := by
  -- A mismatch stays once it is kept, so no fragment on the way has one.
  induction h with
  | start =>
    refine ⟨?_,?_,?_⟩
    · intro c member; cases member
    · intro _; exact .nil
    · intro _ s last; cases last
  | loosen h ih => exact ⟨(ih matched).plain,(ih matched).apart,fun strict => by cases strict⟩
  | keyword h s fixed ih =>
    rw [Fragment.word_text]
    have plain : d.lockstep.Spells s := Lockstep.spells_keyword s fixed
    refine (ih matched).append_text (fun member => plain _ member rfl) (.inr ⟨?_,?_⟩)
    · rintro rfl; exact absurd fixed (by decide)
    · exact head_isKeyword fixed
  | free h spelled ih =>
    rw [Fragment.word_text]
    exact (ih matched).append_text (fun member => spelled _ member rfl) (.inl rfl)
  | bind h v ih =>
    rw [Fragment.word_bind]
    exact (ih matched).append_slot v
  | @fill f g sql h args admitted ih =>
    rw [Fragment.mismatch_fill,Option.or_eq_none_iff] at matched
    rw [Fragment.word_fill]
    exact (ih matched.1).append_template admitted (Fragment.markerCount_of_mismatch?_eq_none matched.2)

theorem Placed.aligned {d : Dialect} {clear : Bool} {f : Fragment} (placed : Placed d clear f.word)
    (tag : Option String) (timeout : Option Duration) :
    Statement.Aligned d ⟨f.render d,f.args,tag,timeout⟩ := by
  rw [Statement.Aligned]
  simp only [f.toList_render,f.args_eq_word]
  have plain := placed.plain
  rw [Dialect.mark] at plain
  split
  next numbered =>
    rw [if_pos numbered] at plain
    exact Symbol.dollarNumbers_renderFrom numbered plain (placed.apart numbered) 0
  next unnumbered =>
    rw [if_neg unnumbered] at plain
    exact Symbol.count_renderFrom (Bool.not_eq_true _ ▸ unnumbered) plain 0

theorem Lockstep.Built.aligned {d : Dialect} {x y : Except Error Statement} {s : Statement}
    (h : d.lockstep.Built d x y) (built : x = .ok s) : s.Aligned d := by
  cases h with
  | refused e => cases built
  | @written f g reached =>
    rw [Fragment.build] at built
    cases matched : f.mismatch with
    | some mismatch => rw [matched] at built; cases built
    | none =>
      rw [matched] at built
      cases built
      exact (reached.placed matched).aligned f.tag none

theorem Lockstep.admits_of_clear {d : Dialect} {supplied : List Supplied}
    (clear : ∀ t ∈ supplied, t.Clear d) : ∀ t ∈ supplied, d.lockstep.Admits t := by
  intro t member
  cases t with
  | free s => exact fun c inside mark => clear _ member (mark ▸ inside)
  | template s => exact clear _ member

/-- Every statement that a tree builds, and every count, has the placeholders of its arguments. -/
theorem placeholders_aligned (d : Dialect) :
    (∀ q : Query, q.isTree → (∀ t ∈ q.supplied, t.Clear d) →
      ∀ s, q.build d = .ok s → s.Aligned d) ∧
    (∀ q : Select, (∀ t ∈ q.supplied, t.Clear d) →
      ∀ s, q.buildCount d = .ok s → s.Aligned d) := by
  constructor
  · intro q tree clear s built
    exact (Lockstep.built_query .start q tree (Lockstep.admits_of_clear clear)).aligned built
  · intro q clear s built
    exact (Lockstep.built_count .start q (Lockstep.admits_of_clear clear)).aligned built

theorem placeholders_aligned_orders :
    let priced : Select := Filterable.filterRaw ((Select.ofColumns ["id"]).fromTable "orders")
      "price > ?" [.int 9]
    let q : Select := Filterable.filterExpr { Select.star with source := some (.subquery priced "o") }
      (.inList "id" [.int 3,.int 4] false)
    (∃ s, (Query.select q).build .postgres = .ok s ∧ s.args = [.int 9,.int 3,.int 4] ∧
      s.Aligned .postgres) ∧
    ∃ s, q.buildCount .sqlite = .ok s ∧ s.args = [.int 9,.int 3,.int 4] ∧ s.Aligned .sqlite := by
  intro priced q
  have selected : (Query.select q).build .postgres = .ok
      ⟨"SELECT * FROM (SELECT \"id\" FROM \"orders\" WHERE price > $1) AS \"o\" " ++
        "WHERE \"id\" IN ($2, $3)",[.int 9,.int 3,.int 4],none,none⟩ := by decide
  have counted : q.buildCount .sqlite = .ok
      ⟨"SELECT COUNT(*) FROM (SELECT \"id\" FROM \"orders\" WHERE price > ?) AS \"o\" " ++
        "WHERE \"id\" IN (?, ?)",[.int 9,.int 3,.int 4],none,none⟩ := by decide
  constructor
  · exact ⟨_,selected,rfl,(placeholders_aligned .postgres).1 (.select q) rfl (by decide) _ selected⟩
  · exact ⟨_,counted,rfl,(placeholders_aligned .sqlite).2 q (by decide) _ counted⟩

end ParamSql
