import ParamSql.Proofs.Fragment
import ParamSql.Proofs.Identifier
import ParamSql.Proofs.Supplied

/-! Two runs of one builder in lockstep. Whatever a builder writes, it writes by four steps: a fixed
keyword, a text made of what the caller supplied, a bound value, or a template; the last three only
where no slot stands right before. Main statements: when the runs differ in the fragment they
continue and in the values they bind, every writer keeps them in lockstep, and both refuse alike. -/
namespace ParamSql

/-- A fixed text, which may stand behind a slot: it does not begin with a digit, and has neither a
dollar sign nor a question mark. -/
def isKeyword (s : String) : Bool :=
  match s.toList with
  | [] => false
  | c :: cs => !c.isDigit && (c :: cs).all fun c => c ≠ '$' && c ≠ '?'

/-- The second run starts at `right` where the first starts at `left`, and binds `value v` where the
first binds `v`. -/
structure Lockstep where
  value : Value → Value
  left : Fragment
  right : Fragment
  /-- The characters of supplied text, and all those that builders add to it. -/
  allowed : Char → Prop
  template : String → Prop
  fixed : ∀ c, c ≠ '$' → c ≠ '?' → allowed c

namespace Lockstep

/-- Runs in which any text may be supplied. -/
def ofAny (value : Value → Value) (left right : Fragment) : Lockstep where
  value := value
  left := left
  right := right
  allowed _ := True
  template _ := True
  fixed _ _ _ := trivial

/-- Text of allowed characters. -/
def Spells (l : Lockstep) (s : String) : Prop := ∀ c ∈ s.toList, l.allowed c

def Admits (l : Lockstep) : Supplied → Prop
  | .free s => l.Spells s
  | .template s => l.template s

theorem admits_ofAny {value : Value → Value} {left right : Fragment} (t : Supplied) :
    (ofAny value left right).Admits t := by
  cases t with
  | free s => exact fun _ _ => trivial
  | template s => trivial

/-- The pairs of fragments that the runs can reach. At a `clear` end no slot stands, as far as the
steps tell. -/
inductive Reaches (l : Lockstep) : (clear : Bool) → Fragment → Fragment → Prop
  | start : Reaches l true l.left l.right
  | loosen {f g : Fragment} (h : Reaches l true f g) : Reaches l false f g
  | keyword {clear : Bool} {f g : Fragment} (h : Reaches l clear f g) (s : String)
      (fixed : isKeyword s := by decide) : Reaches l true (f.text s) (g.text s)
  | free {f g : Fragment} {s : String} (h : Reaches l true f g) (spelled : l.Spells s) :
      Reaches l true (f.text s) (g.text s)
  | bind {f g : Fragment} (h : Reaches l true f g) (v : Value) :
      Reaches l false (f.bind v) (g.bind (l.value v))
  | fill {f g : Fragment} {sql : String} (h : Reaches l true f g) (args : List Value)
      (admitted : l.template sql) : Reaches l false (f.fill sql args) (g.fill sql (args.map l.value))

/-- Both runs refuse for the same reason, or both go on. -/
inductive Outcome (l : Lockstep) : Except Error Fragment → Except Error Fragment → Prop
  | refused (e : Error) : Outcome l (.error e) (.error e)
  | written {f g : Fragment} (h : l.Reaches false f g) : Outcome l (.ok f) (.ok g)

variable {l : Lockstep} {f g : Fragment} {clear first : Bool}

/-! ## Spelled text -/

theorem Spells.append {s t : String} (left : l.Spells s) (right : l.Spells t) :
    l.Spells (s ++ t) := by
  intro c member
  rw [String.toList_append] at member
  exact (List.mem_append.mp member).elim (left c) (right c)

theorem spells_keyword (s : String) (fixed : isKeyword s) : l.Spells s := by
  intro c member
  unfold isKeyword at fixed
  split at fixed
  next none => simp [none] at member
  next first rest split =>
    rw [split] at member
    have plain := List.all_eq_true.mp (Bool.and_eq_true_iff.mp fixed).2 c member
    exact l.fixed c (by simp_all) (by simp_all)

theorem allowed_of_mem {c : Char} {cs : List Char} (member : c ∈ cs)
    (dollar : '$' ∉ cs := by decide) (question : '?' ∉ cs := by decide) : l.allowed c :=
  l.fixed c (ne_of_mem_of_not_mem member dollar) (ne_of_mem_of_not_mem member question)

theorem spells_truth (b : Bool) : l.Spells (if b then "1=1" else "1=0") := by
  intro c member
  cases b with
  | false => exact allowed_of_mem member
  | true => exact allowed_of_mem member

theorem spells_addition {c : Char} (added : c ∈ Identifier.additions) : l.allowed c :=
  allowed_of_mem added

/-- What a renderer makes of a text has the characters of the text and those that it adds. -/
theorem Spells.rendered {s t : String} (h : l.Spells s)
    (each : ∀ c ∈ t.toList, c ∈ s.toList ∨ c ∈ Identifier.additions) : l.Spells t := by
  intro c member
  rcases each c member with written | added
  · exact h c written
  · exact spells_addition added

theorem Spells.column {s : String} (h : l.Spells s) (d : Dialect) :
    l.Spells (Identifier.column d s) := h.rendered fun _ => Identifier.mem_column

theorem Spells.table {s : String} (h : l.Spells s) (d : Dialect) :
    l.Spells (Identifier.table d s) := h.rendered fun _ => Identifier.mem_table

theorem Spells.quote {s : String} (h : l.Spells s) (d : Dialect) : l.Spells (d.quote s) :=
  h.rendered fun _ => Identifier.mem_quote

theorem Spells.orderItem {d : Dialect} {s item : String} (h : l.Spells s)
    (found : Identifier.orderItem? d s = some item) : l.Spells item :=
  h.rendered fun _ => Identifier.mem_orderItem found

theorem spells_intercalate {parts : List String} (each : ∀ s ∈ parts, l.Spells s) :
    l.Spells (String.intercalate ", " parts) := by
  intro c member
  rw [String.toList_intercalate] at member
  rcases Text.mem_intercalate member with comma | ⟨part,found,inside⟩
  · have plain : l.Spells ", " := spells_keyword ", " (by decide)
    exact plain c comma
  · obtain ⟨s,inParts,rfl⟩ := List.mem_map.mp found
    exact each s inParts c inside

theorem spells_list {names : List String} {render : String → String}
    (each : ∀ s, l.Spells s → l.Spells (render s)) (admitted : ∀ t ∈ Supplied.ofFree names, l.Admits t) :
    l.Spells (String.intercalate ", " (names.map render)) := by
  apply spells_intercalate
  intro s found
  obtain ⟨name,inside,rfl⟩ := List.mem_map.mp found
  have spelled : l.Admits (.free name) := admitted _ (List.mem_map_of_mem inside)
  exact each name spelled

theorem spells_columns {d : Dialect} {columns : List String}
    (admitted : ∀ t ∈ Supplied.ofFree columns, l.Admits t) :
    l.Spells (String.intercalate ", " (columns.map (Identifier.column d))) :=
  spells_list (fun _ h => h.column d) admitted

/-! ## Steps -/

theorem Reaches.anyEnd (h : l.Reaches true f g) : l.Reaches clear f g := by
  cases clear with
  | false => exact h.loosen
  | true => exact h

theorem Reaches.loose (h : l.Reaches clear f g) : l.Reaches false f g := by
  cases clear with
  | false => exact h
  | true => exact h.loosen

theorem Outcome.andThen {x y : Except Error Fragment} {next next' : Fragment → Except Error Fragment}
    (h : l.Outcome x y)
    (rest : ∀ {f g : Fragment}, l.Reaches false f g → l.Outcome (next f) (next' g)) :
    l.Outcome (x >>= next) (y >>= next') := by
  cases h with
  | refused e => exact .refused e
  | written reached => exact rest reached

theorem Reaches.branch {p q : Prop} [Decidable p] [Decidable q] {f g f' g' : Fragment}
    (same : p ↔ q) (yes : l.Reaches clear f g) (no : l.Reaches clear f' g') :
    l.Reaches clear (if p then f else f') (if q then g else g') := by
  by_cases h : p
  · rwa [if_pos h,if_pos (same.mp h)]
  · rwa [if_neg h,if_neg (mt same.mpr h)]

theorem Outcome.branch {p q : Prop} [Decidable p] [Decidable q] {x y x' y' : Except Error Fragment}
    (same : p ↔ q) (yes : l.Outcome x y) (no : l.Outcome x' y') :
    l.Outcome (if p then x else x') (if q then y else y') := by
  by_cases h : p
  · rwa [if_pos h,if_pos (same.mp h)]
  · rwa [if_neg h,if_neg (mt same.mpr h)]

/-- A separator stands before every item but the first. -/
theorem Reaches.separate (h : l.Reaches first f g) (s : String) (fixed : isKeyword s) :
    l.Reaches true (if first then f else f.text s) (if first then g else g.text s) := by
  cases first with
  | true => exact h
  | false => exact h.keyword s fixed

theorem Reaches.unless (bare : Bool) (h : l.Reaches false f g) (s : String) (fixed : isKeyword s) :
    l.Reaches false (if bare then f else f.text s) (if bare then g else g.text s) := by
  cases bare with
  | true => exact h
  | false => exact (h.keyword s fixed).loosen

theorem Reaches.bindRest (values : List Value) (h : l.Reaches false f g) :
    l.Reaches false (f.bindRest values) (g.bindRest (values.map l.value)) := by
  induction values generalizing f g with
  | nil => exact h
  | cons v values ih => exact ih ((h.keyword ", " (by decide)).bind v)

theorem Reaches.bindList (values : List Value) (h : l.Reaches true f g) :
    l.Reaches false (f.bindList values) (g.bindList (values.map l.value)) := by
  cases values with
  | nil => exact (h.keyword "NULL" (by decide)).loosen
  | cons v values => exact (h.bind v).bindRest values

theorem Reaches.ident {d : Dialect} {name : String} (h : l.Reaches true f g)
    (admitted : l.Spells name) : l.Reaches true (f.ident d name) (g.ident d name) :=
  h.free (admitted.quote d)

theorem Reaches.idents {d : Dialect} {names : List String} (h : l.Reaches true f g)
    (admitted : ∀ t ∈ Supplied.ofFree names, l.Admits t) :
    l.Reaches true (f.idents d names) (g.idents d names) :=
  h.free (spells_list (fun _ h => h.quote d) admitted)

end Lockstep

/-! ## Expressions -/

mutual
theorem Expr.isEmpty_mapValues (φ : Value → Value) :
    ∀ e : Expr, (e.mapValues φ).isEmpty = e.isEmpty
  | .and members | .or members => by
    rw [mapValues,isEmpty,isEmpty,allEmpty_mapAll φ members]
  | .not inner => by rw [mapValues,isEmpty,isEmpty,isEmpty_mapValues φ inner]
  | .compare .. | .nullCheck .. | .inList .. | .between .. | .template .. | .raw _ | .always
  | .never => rfl

theorem Expr.allEmpty_mapAll (φ : Value → Value) :
    ∀ es : List Expr, allEmpty (mapAll φ es) = allEmpty es
  | [] => rfl
  | e :: es => by rw [mapAll,allEmpty,allEmpty,isEmpty_mapValues φ e,allEmpty_mapAll φ es]
end

theorem Expr.isCompound_mapValues (φ : Value → Value) (e : Expr) :
    (e.mapValues φ).isCompound = e.isCompound := by
  cases e <;> rfl

theorem Expr.hasSiblings_mapAll (φ : Value → Value) (es : List Expr) :
    hasSiblings (mapAll φ es) = hasSiblings es := by
  have same : ((mapAll φ es).filter (!·.isEmpty)).length = (es.filter (!·.isEmpty)).length := by
    induction es with
    | nil => rfl
    | cons e es ih =>
      simp only [mapAll,List.filter_cons,isEmpty_mapValues]
      split <;> simp [ih]
  rw [hasSiblings,hasSiblings,same]

namespace Lockstep

variable {l : Lockstep} {f g : Fragment} {clear first : Bool} {d : Dialect}

mutual
theorem Reaches.expr : ∀ (e : Expr) {f g : Fragment}, (∀ t ∈ e.supplied, l.Admits t) →
    l.Reaches true f g → l.Reaches false (e.writeTo d f) ((e.mapValues l.value).writeTo d g)
  | .and members, f, g, admitted, h => by
    rw [Expr.mapValues,Expr.writeTo,Expr.writeTo,Expr.hasSiblings_mapAll]
    exact Reaches.joined members (by decide) admitted h
  | .or members, f, g, admitted, h => by
    rw [Expr.mapValues,Expr.writeTo,Expr.writeTo,Expr.hasSiblings_mapAll]
    exact Reaches.joined members (by decide) admitted h
  | .not inner, f, g, admitted, h => by
    rw [Expr.mapValues,Expr.writeTo,Expr.writeTo,Expr.isEmpty_mapValues]
    split
    · exact h.loosen
    · have inside := Reaches.expr inner admitted (h.keyword "NOT (" (by decide))
      exact (inside.keyword ")" (by decide)).loosen
  | .compare column op v, f, g, admitted, h => by
    have named : l.Spells column := admitted (.free column) List.mem_cons_self
    have operated : l.Spells op := admitted (.free op) (List.mem_cons_of_mem _ List.mem_cons_self)
    have left := (h.free (named.column d)).keyword " " (by decide)
    exact ((left.free operated).keyword " " (by decide)).bind v
  | .nullCheck column isNull, f, g, admitted, h => by
    have named : l.Spells column := admitted (.free column) List.mem_cons_self
    exact ((h.free (named.column d)).keyword _ (by cases isNull <;> decide)).loosen
  | .inList column values negated, f, g, admitted, h => by
    have named : l.Spells column := admitted (.free column) List.mem_cons_self
    rw [Expr.mapValues,Expr.writeTo,Expr.writeTo,List.isEmpty_map]
    split
    · exact (h.free (spells_truth negated)).loosen
    · have opened := (h.free (named.column d)).keyword
        (if negated then " NOT IN (" else " IN (") (by cases negated <;> decide)
      exact ((opened.bindList values).keyword ")" (by decide)).loosen
  | .between column low high negated, f, g, admitted, h => by
    have named : l.Spells column := admitted (.free column) List.mem_cons_self
    have opened := (h.free (named.column d)).keyword
      (if negated then " NOT BETWEEN " else " BETWEEN ") (by cases negated <;> decide)
    exact ((opened.bind low).keyword " AND " (by decide)).bind high
  | .template sql args, f, g, admitted, h => h.fill args (admitted _ List.mem_cons_self)
  | .raw sql, f, g, admitted, h => (h.free (admitted _ List.mem_cons_self)).loosen
  | .always, f, g, admitted, h => (h.free (spells_truth true)).loosen
  | .never, f, g, admitted, h => (h.free (spells_truth false)).loosen

theorem Reaches.joined : ∀ (es : List Expr) {word : String} {wrap first : Bool} {f g : Fragment},
    isKeyword word → (∀ t ∈ Expr.suppliedAll es, l.Admits t) → l.Reaches first f g →
    l.Reaches false (Expr.writeJoined d word wrap first es f)
      (Expr.writeJoined d word wrap first (Expr.mapAll l.value es) g)
  | [], word, wrap, first, f, g, fixed, admitted, h => h.loose
  | e :: es, word, wrap, first, f, g, fixed, admitted, h => by
    rw [Expr.suppliedAll,List.forall_mem_append] at admitted
    obtain ⟨admittedFirst,admittedRest⟩ := admitted
    rw [Expr.mapAll,Expr.writeJoined,Expr.writeJoined,Expr.isEmpty_mapValues,Expr.isCompound_mapValues]
    split
    · exact Reaches.joined es fixed admittedRest h
    · refine Reaches.joined es fixed admittedRest ?_
      have separated := h.separate word fixed
      split
      · have inside := Reaches.expr e admittedFirst (separated.keyword "(" (by decide))
        exact (inside.keyword ")" (by decide)).loosen
      · exact Reaches.expr e admittedFirst separated
end

end Lockstep

end ParamSql
