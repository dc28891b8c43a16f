import ParamSql.Proofs.Condition
import ParamSql.Proofs.Identifier.Settled
import ParamSql.Proofs.Rendering

/-! Parentheses that nest. A text is read at a depth, which is the count of parentheses that are open, and
leaves another depth behind. Renderers of identifiers keep the parentheses of a text that is balanced,
and placeholders have none; so conditions and expressions leave the depth as it is. -/
namespace ParamSql

namespace Text

/-- The parentheses nest: none is closed that was not opened, and all that are opened are closed. -/
structure Balanced (cs : List Char) : Prop where
  opened : ∀ before, before <+: cs → before.count ')' ≤ before.count '('
  closed : cs.count '(' = cs.count ')'

/-- The depth behind a text that begins at some depth, unless it closes more than is open. -/
def depth? : (depth : Nat) → List Char → Option Nat
  | depth, [] => some depth
  | depth, c :: cs =>
    if c = '(' then depth? (depth + 1) cs
    else if c = ')' then if depth = 0 then none else depth? (depth - 1) cs
    else depth? depth cs

def parens (cs : List Char) : List Char := cs.filter fun c => c = '(' || c = ')'

variable {n m : Nat} {c : Char} {cs first second : List Char}

/-! ## Depth -/

theorem depth?_append (n : Nat) (first second : List Char) :
    depth? n (first ++ second) = (depth? n first).bind (depth? · second) := by
  induction first generalizing n with
  | nil => rfl
  | cons c first ih =>
    simp only [List.cons_append,depth?,ih]
    split
    · rfl
    · split
      · split <;> rfl
      · rfl

theorem depth?_parens (n : Nat) (cs : List Char) : depth? n (parens cs) = depth? n cs := by
  induction cs generalizing n with
  | nil => rfl
  | cons c cs ih =>
    rw [parens] at ih ⊢
    by_cases opens : c = '('
    · subst opens
      simp [depth?,ih]
    · by_cases closes : c = ')'
      · subst closes
        simp [depth?,ih]
      · simp [depth?,opens,closes,ih]

theorem forall_prefix_cons {P : List Char → Prop} :
    (∀ before, before <+: c :: cs → P before) ↔ P [] ∧ ∀ before, before <+: cs → P (c :: before) := by
  simp only [List.prefix_cons_iff]
  constructor
  · exact fun h => ⟨h [] (.inl rfl),fun before inside => h _ (.inr ⟨before,rfl,inside⟩)⟩
  · rintro ⟨start,rest⟩ before (rfl | ⟨before,rfl,inside⟩)
    · exact start
    · exact rest before inside

/-- The depth behind a text is told by counts: of the whole text, and of what comes before any place. -/
theorem depth?_eq_some_iff : depth? n cs = some m ↔
    (∀ before, before <+: cs → before.count ')' ≤ n + before.count '(') ∧
      n + cs.count '(' = m + cs.count ')' := by
  -- One character moves the depth, so the rest is counted from another one.
  induction cs generalizing n with
  | nil => simp [depth?,List.prefix_nil]
  | cons c cs ih =>
    rw [forall_prefix_cons,depth?]
    simp only [List.count_cons,List.count_nil,beq_iff_eq,Nat.zero_le,true_and]
    by_cases opens : c = '('
    · subst opens
      have apart : ('(' : Char) ≠ ')' := by decide
      simp only [if_true,ih,apart,if_false,Nat.add_zero,Nat.add_assoc,Nat.add_comm 1]
    · by_cases closes : c = ')'
      · subst closes
        simp only [opens,if_false,if_true,Nat.add_zero]
        cases n with
        | zero =>
          simp only [if_true,reduceCtorEq,false_iff,not_and]
          exact fun h => absurd (h [] List.nil_prefix) (by decide)
        | succ n =>
          simp only [Nat.succ_ne_zero,if_false,Nat.add_sub_cancel,ih]
          refine and_congr (forall₂_congr fun before inside => ?_) ?_ <;> omega
      · simp only [opens,closes,if_false,Nat.add_zero,ih]

theorem balanced_iff : Balanced cs ↔ depth? 0 cs = some 0 := by
  rw [depth?_eq_some_iff]
  simp only [Nat.zero_add]
  exact ⟨fun h => ⟨h.opened,h.closed⟩,fun h => ⟨h.1,h.2⟩⟩

instance (cs : List Char) : Decidable (Balanced cs) := decidable_of_iff _ balanced_iff.symm

theorem balanced_nil : Balanced [] := by decide

/-- A text moves the depth by as much wherever it stands. -/
theorem depth?_add (k : Nat) (moves : depth? n cs = some m) : depth? (k + n) cs = some (k + m) := by
  rw [depth?_eq_some_iff] at moves ⊢
  refine ⟨fun before inside => ?_,?_⟩
  · have := moves.1 before inside
    omega
  · omega

theorem Balanced.depth (h : Balanced cs) (n : Nat) : depth? n cs = some n :=
  depth?_add n (balanced_iff.mp h)

theorem Balanced.append (h : Balanced first) (more : Balanced second) : Balanced (first ++ second) := by
  rw [balanced_iff,depth?_append,h.depth]
  exact more.depth 0

/-- A balanced text between one that opens a parenthesis and one that closes it. -/
theorem Balanced.between (h : Balanced cs) (opens : depth? 0 first = some 1)
    (closes : depth? 1 second = some 0) : Balanced (first ++ cs ++ second) := by
  rw [balanced_iff,depth?_append,depth?_append,opens,Option.bind_some,h.depth]
  exact closes

theorem Balanced.of_parens (h : Balanced first) (same : parens second = parens first) :
    Balanced second := by
  rw [balanced_iff,← depth?_parens,same,depth?_parens]
  exact h.depth 0

theorem parens_eq_nil_iff : parens cs = [] ↔ '(' ∉ cs ∧ ')' ∉ cs := by
  simp only [parens,List.filter_eq_nil_iff,Bool.or_eq_true,decide_eq_true_eq]
  constructor
  · exact fun h => ⟨fun member => h _ member (.inl rfl),fun member => h _ member (.inr rfl)⟩
  · rintro ⟨open',close⟩ c member (rfl | rfl)
    · exact open' member
    · exact close member

theorem balanced_of_parens_nil (none : parens cs = []) : Balanced cs := balanced_nil.of_parens none

theorem Balanced.parens_eq_nil (h : Balanced cs) (none : '(' ∉ cs) : parens cs = [] := by
  refine parens_eq_nil_iff.mpr ⟨none,?_⟩
  rw [← List.count_eq_zero,← h.closed]
  exact List.count_eq_zero.mpr none

/-! ## Renderers -/

theorem parens_append (first second : List Char) : parens (first ++ second) = parens first ++ parens second :=
  List.filter_append ..

theorem parens_blank (blank : ∀ c ∈ cs, isBlank c) : parens cs = [] :=
  parens_eq_nil_iff.mpr ⟨fun member => absurd (blank _ member) (by decide),
    fun member => absurd (blank _ member) (by decide)⟩

theorem parens_trimEnd (cs : List Char) : parens (trimEnd cs) = parens cs := by
  have whole : trimEnd cs ++ cs.rtakeWhile isBlank = cs := List.rdropWhile_append_rtakeWhile
  conv_rhs => rw [← whole,parens_append,parens_blank fun c => List.mem_rtakeWhile_imp,List.append_nil]

theorem parens_trim (cs : List Char) : parens (trim cs) = parens cs := by
  have whole : cs.takeWhile isBlank ++ trimStart cs = cs := List.takeWhile_append_dropWhile
  rw [trim,parens_trimEnd]
  conv_rhs => rw [← whole,parens_append,parens_blank fun c => List.mem_takeWhile_imp,List.nil_append]

theorem mem_trim_open (member : '(' ∈ cs) : '(' ∈ trim cs := by
  have kept : '(' ∈ parens (trim cs) := by
    rw [parens_trim]
    exact List.mem_filter.mpr ⟨member,rfl⟩
  exact List.mem_of_mem_filter kept

theorem balanced_intercalate {parts : List String} (each : ∀ s ∈ parts, Balanced s.toList) :
    Balanced (String.intercalate ", " parts).toList := by
  induction parts with
  | nil => exact balanced_nil
  | cons s parts ih =>
    obtain ⟨head,tail⟩ := List.forall_mem_cons.mp each
    cases parts with
    | nil => simpa using head
    | cons t parts =>
      rw [String.intercalate_cons_cons,String.toList_append,String.toList_append]
      exact (head.append (by decide)).append (ih tail)

end Text

open Text

theorem Dialect.parens_quoteChars (d : Dialect) (name : List Char) :
    parens (d.quoteChars name) = parens name := by
  have doubled (c : Char) : parens (if c = d.quoteMark then [c,c] else [c]) = parens [c] := by
    split
    next mark => subst mark; cases d <;> rfl
    next => rfl
  have inside (name : List Char) :
      parens (name.flatMap fun c => if c = d.quoteMark then [c,c] else [c]) = parens name := by
    induction name with
    | nil => rfl
    | cons c name ih => rw [List.flatMap_cons,parens_append,doubled,ih,← parens_append]; rfl
  have mark : parens [d.quoteMark] = [] := by cases d <;> rfl
  rw [quoteChars,parens_append,mark,List.append_nil,← List.singleton_append,parens_append,mark,inside]
  rfl

theorem Dialect.balanced_quote (d : Dialect) {name : String} (h : Text.Balanced name.toList) :
    Text.Balanced (d.quote name).toList := by
  rw [quote,String.toList_ofList]
  exact h.of_parens (d.parens_quoteChars _)

namespace Identifier

variable {d : Dialect} {written rendered : List Char}

/-- A renderer that keeps what has an opening parenthesis keeps balanced texts balanced. -/
theorem balanced_rendered (h : Text.Balanced written)
    (each : ∀ c ∈ rendered, c ∈ written ∨ c ∈ additions)
    (kept : '(' ∈ written → parens rendered = parens written) : Text.Balanced rendered := by
  by_cases paren : '(' ∈ written
  · exact h.of_parens (kept paren)
  · have none := parens_eq_nil_iff.mp (h.parens_eq_nil paren)
    refine balanced_of_parens_nil (parens_eq_nil_iff.mpr ⟨fun member => ?_,fun member => ?_⟩)
    · exact (each _ member).elim none.1 (by decide)
    · exact (each _ member).elim none.2 (by decide)

theorem balanced_column {written : String} (h : Text.Balanced written.toList) :
    Text.Balanced (column d written).toList := by
  refine balanced_rendered h (fun c => mem_column) fun paren => ?_
  rw [column,String.toList_ofList]
  rcases columnChars_cases written.toList with kept | ⟨-,plain,-⟩
  · rw [kept,parens_trim]
  · exact absurd (plain _ (mem_trim_open paren)).1 (by decide)

theorem balanced_table {written : String} (h : Text.Balanced written.toList) :
    Text.Balanced (table d written).toList := by
  refine balanced_rendered h (fun c => mem_table) fun paren => ?_
  have marked : (trim written.toList).any isExpressionMark :=
    List.any_eq_true.mpr ⟨_,mem_trim_open paren,by decide⟩
  rw [table,String.toList_ofList,tableChars,if_pos marked,parens_trim]

theorem parens_of_direction {word direction : List Char} (found : direction? word = some direction) :
    parens word = [] ∧ parens direction = [] := by
  have bare {keyword : List Char} (same : sameKeyword word keyword)
      (none : parens (keyword.map Char.toLower) = []) : parens word = [] :=
    have absent := parens_eq_nil_iff.mp none
    parens_eq_nil_iff.mpr ⟨not_mem_of_sameKeyword same (by decide) absent.1,
      not_mem_of_sameKeyword same (by decide) absent.2⟩
  rw [direction?] at found
  split at found
  next same => cases found; exact ⟨bare same (by decide),rfl⟩
  next =>
    split at found
    next same => cases found; exact ⟨bare same (by decide),rfl⟩
    next => cases found

theorem balanced_orderItem {written item : String} (h : Text.Balanced written.toList)
    (found : orderItem? d written = some item) : Text.Balanced item.toList := by
  refine balanced_rendered h (fun c => mem_orderItem found) fun paren => ?_
  rw [orderItem?_eq_some_iff] at found
  rcases orderChars?_of_paren (mem_trim_open paren) with kept | ⟨head,tail,direction,split,named,directed⟩
  · rw [← Option.some_inj.mp ((kept d).symm.trans found),parens_trim]
  · obtain ⟨b,blank,whole⟩ := splitAtLastBlank?_eq_some split
    obtain ⟨inTail,inDirection⟩ := parens_of_direction named
    have gap : parens [b] = [] := parens_blank fun c member => List.mem_singleton.mp member ▸ blank
    have space : parens [' '] = [] := rfl
    calc parens item.toList
      _ = parens (trimEnd head ++ ([' '] ++ direction)) := by
        rw [← Option.some_inj.mp ((directed d).symm.trans found),List.singleton_append]
      _ = parens head := by
        rw [parens_append,parens_append,space,inDirection,parens_trimEnd]
        exact List.append_nil _
      _ = parens (head ++ ([b] ++ tail)) := by
        rw [parens_append,parens_append,gap,inTail]
        exact (List.append_nil _).symm
      _ = parens written.toList := by rw [List.singleton_append,← whole,parens_trim]

end Identifier

/-! ## Supplied texts -/

def Supplied.Balanced : Supplied → Prop
  | free s | template s => Text.Balanced s.toList

instance (t : Supplied) : Decidable t.Balanced :=
  match t with
  | .free s | .template s => inferInstanceAs (Decidable (Text.Balanced s.toList))

theorem balanced_list {names : List String} {render : String → String}
    (each : ∀ s, Text.Balanced s.toList → Text.Balanced (render s).toList)
    (supplied : ∀ t ∈ Supplied.ofFree names, t.Balanced) :
    Text.Balanced (String.intercalate ", " (names.map render)).toList := by
  refine balanced_intercalate fun s found => ?_
  obtain ⟨name,inside,rfl⟩ := List.mem_map.mp found
  exact each name (supplied (.free name) (List.mem_map_of_mem inside))

theorem balanced_columns {d : Dialect} {columns : List String}
    (supplied : ∀ t ∈ Supplied.ofFree columns, t.Balanced) :
    Text.Balanced (String.intercalate ", " (columns.map (Identifier.column d))).toList :=
  balanced_list (fun _ => Identifier.balanced_column) supplied

theorem balanced_idents {d : Dialect} {names : List String}
    (supplied : ∀ t ∈ Supplied.ofFree names, t.Balanced) :
    Text.Balanced (String.intercalate ", " (names.map d.quote)).toList :=
  balanced_list (fun _ => d.balanced_quote) supplied

/-! ## Steps -/

theorem balanced_repr (n : Nat) : Text.Balanced n.repr.toList := by
  have digit {c : Char} (member : c ∈ n.repr.toList) : c.isDigit :=
    Nat.isDigit_of_mem_toDigits (b := 10) (by decide) (by decide) (by simpa [Nat.repr] using member)
  exact balanced_of_parens_nil (parens_eq_nil_iff.mpr ⟨fun member => absurd (digit member) (by decide),
    fun member => absurd (digit member) (by decide)⟩)

theorem Dialect.balanced_placeholder (d : Dialect) (position : Nat) :
    Text.Balanced (d.placeholder position).toList := by
  rw [placeholder]
  split
  · rw [String.toList_append]
    exact (by decide : Text.Balanced "$".toList).append (balanced_repr position)
  · decide

namespace Fragment

/-- Behind the text of the fragment some parentheses are open, however its placeholders are numbered. -/
def Deep (d : Dialect) (depth : Nat) (f : Fragment) : Prop :=
  ∀ count, depth? 0 (Symbol.renderFrom d count f.word) = some depth

namespace Deep

variable {d : Dialect} {n m : Nat} {f : Fragment} {s : String} {first : Bool}

theorem empty : Deep d 0 .empty := fun _ => rfl

theorem moved (h : Deep d n f) (moves : depth? n s.toList = some m) : Deep d m (f.text s) := by
  intro count
  have shown (count : Nat) : Symbol.renderFrom d count (Symbol.ofText s) = s.toList := by
    have shown := Symbol.renderFrom_text d count s.toList []
    rwa [List.append_nil,Symbol.renderFrom,List.append_nil] at shown
  rw [word_text,Symbol.renderFrom_append,shown,depth?_append,h count]
  exact moves

theorem text (h : Deep d n f) (level : Text.Balanced s.toList) : Deep d n (f.text s) :=
  h.moved (level.depth n)

theorem opening (h : Deep d n f) (s : String) (opens : depth? 0 s.toList = some 1) :
    Deep d (n + 1) (f.text s) :=
  h.moved (depth?_add n opens)

theorem closing (h : Deep d (n + 1) f) (s : String) (closes : depth? 1 s.toList = some 0) :
    Deep d n (f.text s) :=
  h.moved (depth?_add n closes)

theorem keyword (h : Deep d n f) (s : String) (level : Text.Balanced s.toList) : Deep d n (f.text s) :=
  h.text level

theorem textUnless (h : Deep d n f) (bare : Bool) (s : String) (level : Text.Balanced s.toList) :
    Deep d n (if bare then f else f.text s) := by
  cases bare with
  | true => exact h
  | false => exact h.text level

theorem column {column : String} (h : Deep d n f) (supplied : Text.Balanced column.toList) :
    Deep d n (f.text (Identifier.column d column)) :=
  h.text (Identifier.balanced_column supplied)

theorem table {table : String} (h : Deep d n f) (supplied : Text.Balanced table.toList) :
    Deep d n (f.text (Identifier.table d table)) :=
  h.text (Identifier.balanced_table supplied)

theorem bind (h : Deep d n f) (v : Value) : Deep d n (f.bind v) := by
  intro count
  rw [word_bind,Symbol.renderFrom_append,depth?_append,h count,Option.bind_some,Symbol.renderFrom,
    Symbol.renderFrom,List.append_nil]
  exact (d.balanced_placeholder _).depth n

theorem bindRest (h : Deep d n f) (values : List Value) : Deep d n (f.bindRest values) := by
  induction values generalizing f with
  | nil => exact h
  | cons v values ih => exact ih ((h.keyword ", " (by decide)).bind v)

theorem bindList (h : Deep d n f) (values : List Value) : Deep d n (f.bindList values) := by
  cases values with
  | nil => exact h.text (by decide)
  | cons v values => exact (h.bind v).bindRest values

theorem ident {name : String} (h : Deep d n f) (supplied : Text.Balanced name.toList) :
    Deep d n (f.ident d name) :=
  h.text (d.balanced_quote supplied)

theorem idents {names : List String} (h : Deep d n f)
    (supplied : ∀ t ∈ Supplied.ofFree names, t.Balanced) : Deep d n (f.idents d names) :=
  h.text (balanced_idents supplied)

/-- The markers of a template are no parentheses, nor are the placeholders in their places. -/
theorem fillChars {cs : List Char} (args : List Value) (h : Deep d n f) (moves : depth? n cs = some m) :
    Deep d m (Fragment.fillChars cs args f) := by
  induction cs, args, f using Fragment.fillChars.induct generalizing n with
  | case1 cs args f ih =>
    rw [Fragment.fillChars]
    exact ih (h.text (by decide)) moves
  | case2 cs v args f unpaired ih =>
    rw [Fragment.fillChars]
    · exact ih (h.bind v) moves
    · exact unpaired
  | case3 cs f unpaired ih =>
    rw [Fragment.fillChars]
    · exact ih (h.text (by decide)) moves
    · exact unpaired
  | case4 c cs args f unpaired unmarked bare ih =>
    rw [Fragment.fillChars]
    · rw [← List.singleton_append,depth?_append,Option.bind_eq_some_iff] at moves
      obtain ⟨middle,here,rest⟩ := moves
      exact ih (h.moved (by simpa using here)) rest
    all_goals assumption
  | case5 args f =>
    rw [Fragment.fillChars]
    cases moves
    exact h

theorem fill {sql : String} (h : Deep d n f) (args : List Value) (supplied : Text.Balanced sql.toList) :
    Deep d n (f.fill sql args) :=
  fillChars args (f := { f with mismatch := _ }) h (supplied.depth n)

/-! ## Conditions -/

mutual
theorem expr : ∀ (e : Expr) {n : Nat} {f : Fragment}, (∀ t ∈ e.supplied, t.Balanced) → Deep d n f →
    Deep d n (e.writeTo d f)
  | .and members, n, f, supplied, h | .or members, n, f, supplied, h => by
    rw [Expr.writeTo]
    exact joined members (by decide) supplied h
  | .not inner, n, f, supplied, h => by
    rw [Expr.writeTo]
    split
    · exact h
    · exact (expr inner supplied (h.opening "NOT (" (by decide))).closing ")" (by decide)
  | .compare column op v, n, f, supplied, h => by
    have named := supplied (.free column) List.mem_cons_self
    have operated := supplied (.free op) (List.mem_cons_of_mem _ List.mem_cons_self)
    exact ((((h.column named).keyword " " (by decide)).text operated).keyword " " (by decide)).bind v
  | .nullCheck column isNull, n, f, supplied, h => by
    have named := supplied (.free column) List.mem_cons_self
    exact (h.column named).keyword _ (by cases isNull <;> decide)
  | .inList column values negated, n, f, supplied, h => by
    have named := supplied (.free column) List.mem_cons_self
    rw [Expr.writeTo]
    split
    · exact h.keyword _ (by cases negated <;> decide)
    · have opened := (h.column named).opening (if negated then " NOT IN (" else " IN (")
        (by cases negated <;> decide)
      exact (opened.bindList values).closing ")" (by decide)
  | .between column low high negated, n, f, supplied, h => by
    have named := supplied (.free column) List.mem_cons_self
    have opened := (h.column named).keyword (if negated then " NOT BETWEEN " else " BETWEEN ")
      (by cases negated <;> decide)
    exact ((opened.bind low).keyword " AND " (by decide)).bind high
  | .template sql args, n, f, supplied, h => h.fill args (supplied _ List.mem_cons_self)
  | .raw sql, n, f, supplied, h => h.text (supplied _ List.mem_cons_self)
  | .always, n, f, supplied, h | .never, n, f, supplied, h => h.text (by decide)

theorem joined : ∀ (es : List Expr) {word : String} {wrap first : Bool} {n : Nat} {f : Fragment},
    Text.Balanced word.toList → (∀ t ∈ Expr.suppliedAll es, t.Balanced) → Deep d n f →
    Deep d n (Expr.writeJoined d word wrap first es f)
  | [], word, wrap, first, n, f, level, supplied, h => h
  | e :: es, word, wrap, first, n, f, level, supplied, h => by
    rw [Expr.suppliedAll,List.forall_mem_append] at supplied
    obtain ⟨inFirst,inRest⟩ := supplied
    rw [Expr.writeJoined]
    split
    · exact joined es level inRest h
    · refine joined es level inRest ?_
      have separated := h.textUnless first word level
      split
      · exact (expr e inFirst (separated.opening "(" (by decide))).closing ")" (by decide)
      · exact expr e inFirst separated
end

theorem condition (c : Condition) (supplied : ∀ t ∈ c.supplied, t.Balanced) (h : Deep d n f) :
    Deep d n (c.writeTo d f) := by
  rw [← c.writeTo_toExpr]
  exact expr _ (by rwa [c.supplied_toExpr]) h

theorem group (g : ConditionGroup) (supplied : ∀ t ∈ g.supplied, t.Balanced) (h : Deep d n f) :
    Deep d n (g.writeTo d f) := by
  rw [← g.writeTo_toExpr]
  exact expr _ (by rwa [g.supplied_toExpr]) h

theorem clause (g : ConditionGroup) (keyword : String) (level : Text.Balanced keyword.toList)
    (supplied : ∀ t ∈ g.supplied, t.Balanced) (h : Deep d n f) :
    Deep d n (g.writeClause keyword d f) := by
  rw [ConditionGroup.writeClause]
  split
  · exact h
  · exact (h.text level).group g supplied

end Deep

end Fragment

end ParamSql
