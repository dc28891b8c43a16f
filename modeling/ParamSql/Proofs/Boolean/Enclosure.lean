import ParamSql.Proofs.Boolean.Reading
import ParamSql.Proofs.Condition

/-! Free text inside parentheses. A template or raw text may hold keywords of its own; wherever such an
atom stands beside members that contribute, or under NOT, some parentheses keep it and its branch apart
from them. Main statement: the text of an expression is read back faithfully. -/
namespace ParamSql

inductive Balanced : List Lexeme → Prop
  | nil : Balanced []
  | single {x : Lexeme} (plain : x.isParenthesis = false) : Balanced [x]
  | group {inside : List Lexeme} (a b : List Nat) (h : Balanced inside) :
      Balanced (⟨a,.opening⟩ :: inside ++ [⟨b,.closing⟩])
  | append {first second : List Lexeme} (h : Balanced first) (h' : Balanced second) :
      Balanced (first ++ second)

namespace Balanced

theorem wrapped {inside : List Lexeme} (h : Balanced inside) (path : List Nat) (wrap : Bool) :
    Balanced (Lexeme.wrapped path wrap inside) := by
  cases wrap with
  | false => exact h
  | true => exact h.group path path

theorem joined {separator : Lexeme} (plain : separator.isParenthesis = false)
    {blocks : List (List Lexeme)} (each : ∀ block ∈ blocks, Balanced block) :
    Balanced (Lexeme.joined separator blocks) := by
  have following (blocks : List (List Lexeme)) (each : ∀ block ∈ blocks, Balanced block) :
      Balanced (blocks.flatMap (separator :: ·)) := by
    induction blocks with
    | nil => exact .nil
    | cons block blocks ih =>
      obtain ⟨first,rest⟩ := List.forall_mem_cons.mp each
      exact ((Balanced.single plain).append first).append (ih rest)
  cases blocks with
  | nil => exact .nil
  | cons block blocks =>
    obtain ⟨first,rest⟩ := List.forall_mem_cons.mp each
    exact first.append (following blocks rest)

end Balanced

theorem Expr.balanced_lexemesAt (e : Expr) (path : List Nat) : Balanced (e.lexemesAt path) := by
  induction e using Expr.induction generalizing path with
  | join c members ih =>
    rw [lexemesAt_expr]
    refine .joined rfl fun block member => ?_
    obtain ⟨i,e,found,-,rfl⟩ := mem_blocksAt member
    exact (ih e (List.mem_of_getElem? found) _).wrapped path _
  | not inner ih =>
    rw [lexemesAt]
    split
    · exact .nil
    · exact (Balanced.single (x := ⟨path,.not⟩) rfl).append ((ih _).wrapped path true)
  | leaf e leaf =>
    rw [lexemesAt_leaf leaf]
    exact .single rfl

/-- Some matching parentheses enclose the lexeme, and nothing but lexemes of a branch. -/
def Enclosed (lexemes : List Lexeme) (x : Lexeme) (branch : List Nat) : Prop :=
  ∃ before inside after a b,
    lexemes = before ++ (⟨a,.opening⟩ :: inside ++ [⟨b,.closing⟩]) ++ after ∧ Balanced inside ∧
      x ∈ inside ∧ ∀ y ∈ inside, branch <+: y.path

namespace Enclosed

variable {lexemes : List Lexeme} {x : Lexeme} {branch : List Nat}

theorem context (h : Enclosed lexemes x branch) (left right : List Lexeme) :
    Enclosed (left ++ lexemes ++ right) x branch := by
  obtain ⟨before,inside,after,a,b,rfl,rest⟩ := h
  refine ⟨left ++ before,inside,after ++ right,a,b,?_,rest⟩
  simp only [List.append_assoc]

theorem wrapped (h : Enclosed lexemes x branch) (path : List Nat) (wrap : Bool) :
    Enclosed (Lexeme.wrapped path wrap lexemes) x branch := by
  cases wrap with
  | false => exact h
  | true => exact h.context [⟨path,.opening⟩] [⟨path,.closing⟩]

theorem widen {outer : List Nat} (h : Enclosed lexemes x branch) (within : outer <+: branch) :
    Enclosed lexemes x outer := by
  obtain ⟨before,inside,after,a,b,same,balanced,member,each⟩ := h
  exact ⟨before,inside,after,a,b,same,balanced,member,fun y found => within.trans (each y found)⟩

end Enclosed

namespace Expr

/-- Text that may hold keywords of its own. -/
def isFreeText : Expr → Bool
  | .template .. | .raw _ => true
  | _ => false

/-- A node whose keyword, or whose other members, a branch has to be kept apart from. -/
def Isolates (branch : Nat) : Expr → Prop
  | .not _ => True
  | .and members | .or members => ∃ i e, i ≠ branch ∧ members[i]? = some e ∧ e.isEmpty = false
  | _ => False

/-- The lexemes of a branch in the parentheses around it. -/
theorem enclosed_wrapped {e : Expr} {inside : List Nat} {x : Lexeme} (path : List Nat)
    (member : x ∈ e.lexemesAt inside) :
    Enclosed (Lexeme.wrapped path true (e.lexemesAt inside)) x inside :=
  ⟨[],e.lexemesAt inside,[],path,path,(List.append_nil _).symm,e.balanced_lexemesAt inside,member,
    fun _ found => isPrefix_lexemesAt found⟩

theorem enclosed_negation {inner : Expr} {path branch : List Nat} {x : Lexeme}
    (live : inner.isEmpty = false)
    (h : Enclosed (Lexeme.wrapped path true (inner.lexemesAt (path ++ [0]))) x branch) :
    Enclosed ((Expr.not inner).lexemesAt path) x branch := by
  have whole := h.context [⟨path,.not⟩] []
  rw [List.append_nil] at whole
  rw [lexemesAt_not live]
  exact whole

/-- NOT has parentheses around what it negates. -/
theorem enclosed_not {inner leaf : Expr} {path : List Nat} {x : Lexeme}
    (member : x ∈ (Expr.not inner).lexemesAt path) (atom : x.sign = .atom leaf) :
    Enclosed ((Expr.not inner).lexemesAt path) x (path ++ [0]) := by
  rcases mem_lexemesAt_not member with ⟨-,own⟩ | ⟨live,inside⟩
  · exact absurd atom (own.ne_atom rfl leaf)
  · exact enclosed_negation live (enclosed_wrapped path inside)

theorem hasSiblings_of_distinct {members : List Expr} {i j : Nat} {e e' : Expr} (distinct : i ≠ j)
    (found : members[i]? = some e) (live : e.isEmpty = false)
    (found' : members[j]? = some e') (live' : e'.isEmpty = false) : hasSiblings members := by
  have counted {es : List Expr} {e : Expr} (member : e ∈ es) (live : e.isEmpty = false) :
      0 < (es.filter (!·.isEmpty)).length :=
    List.length_pos_of_mem (List.mem_filter.mpr ⟨member,by rw [live]; rfl⟩)
  rw [hasSiblings,decide_eq_true_eq]
  induction members generalizing i j with
  | nil => cases found
  | cons head tail ih =>
    rw [List.filter_cons]
    cases i with
    | zero =>
      cases j with
      | zero => exact absurd rfl distinct
      | succ j =>
        cases found
        have present : tail[j]? = some e' := found'
        have later := counted (List.mem_of_getElem? present) live'
        rw [live,Bool.not_false,if_pos rfl,List.length_cons]
        omega
    | succ i =>
      cases j with
      | zero =>
        cases found'
        have present : tail[i]? = some e := found
        have later := counted (List.mem_of_getElem? present) live
        rw [live',Bool.not_false,if_pos rfl,List.length_cons]
        omega
      | succ j =>
        have both := ih (by omega) found found'
        split
        · rw [List.length_cons]; omega
        · exact both

/-- Beside others, a branch with free text has parentheses around it, or it is a NOT and has them
inside. -/
theorem enclosed_block {e leaf : Expr} {inside : List Nat} {x : Lexeme} (path : List Nat)
    (member : x ∈ e.lexemesAt inside) (atom : x.sign = .atom leaf) (free : leaf.isFreeText) :
    Enclosed (Lexeme.wrapped path e.isCompound (e.lexemesAt inside)) x inside := by
  cases compound : e.isCompound with
  | true => exact enclosed_wrapped path member
  | false =>
    have leafOnly (isLeaf : e.isLeaf) : leaf = e := by
      rw [lexemesAt_leaf isLeaf,List.mem_singleton] at member
      rw [member] at atom
      exact (Sign.atom.inj atom).symm
    cases e with
    | not inner => exact (enclosed_not member atom).widen (List.prefix_append _ _)
    | and | or | template | raw => cases compound
    | _ =>
      rw [leafOnly rfl] at free
      cases free

/-- Every node that a branch with free text has to be kept apart from is kept apart. -/
theorem enclosed_lexemesAt {e leaf node : Expr} {path branch rest : List Nat} {k : Nat} {x : Lexeme}
    (member : x ∈ e.lexemesAt path) (atom : x.sign = .atom leaf) (free : leaf.isFreeText)
    (placed : x.path = path ++ (branch ++ k :: rest)) (found : e.at? branch = some node)
    (isolates : node.Isolates k) : Enclosed (e.lexemesAt path) x (path ++ (branch ++ [k])) := by
  induction e using Expr.induction generalizing path branch with
  | join c members ih =>
    rw [lexemesAt_expr] at member
    rcases Lexeme.mem_joined member with rfl | ⟨block,inBlocks,inBlock⟩
    · cases atom
    obtain ⟨i,e,present,live,rfl⟩ := mem_blocksAt inBlocks
    rw [Nat.zero_add] at inBlocks inBlock
    rcases Lexeme.mem_wrapped inBlock (isLeaf_expr c members) with inside | ⟨-,own⟩
    swap
    · exact absurd atom (own.ne_atom (isLeaf_expr c members) leaf)
    -- The atom stands in the block of one member, which the position of the atom tells.
    have within := isPrefix_lexemesAt inside
    rw [placed] at within
    suffices h : Enclosed (Lexeme.wrapped path (hasSiblings members && e.isCompound)
        (e.lexemesAt (path ++ [i]))) x (path ++ (branch ++ [k])) by
      obtain ⟨before,after,split⟩ := Lexeme.joined_split ⟨path,.join c⟩ inBlocks
      rw [lexemesAt_expr,split]
      exact h.context before after
    cases branch with
    | nil =>
      obtain rfl := index_eq_of_isPrefix within
      cases found
      obtain ⟨j,other,distinct,present',live'⟩ : ∃ (j : Nat) (e : Expr), j ≠ i ∧
          members[j]? = some e ∧ e.isEmpty = false := by cases c <;> exact isolates
      rw [hasSiblings_of_distinct distinct.symm present live present' live',Bool.true_and]
      exact enclosed_block path inside atom free
    | cons m branch =>
      obtain rfl := index_eq_of_isPrefix within
      rw [at?,child?_expr,present,Option.bind_some] at found
      have enclosed := ih e (List.mem_of_getElem? present) inside
        (by rw [placed,List.append_assoc]; rfl) found
      rw [List.append_assoc] at enclosed
      exact enclosed.wrapped path _
  | not inner ih =>
    rcases mem_lexemesAt_not member with ⟨-,own⟩ | ⟨live,inside⟩
    · exact absurd atom (own.ne_atom rfl leaf)
    have within := isPrefix_lexemesAt inside
    rw [placed] at within
    cases branch with
    | nil =>
      obtain rfl := index_eq_of_isPrefix within
      exact enclosed_not member atom
    | cons m branch =>
      obtain rfl := index_eq_of_isPrefix within
      have enclosed := ih inside (by rw [placed,List.append_assoc]; rfl) found
      rw [List.append_assoc] at enclosed
      exact enclosed_negation live (enclosed.wrapped path true)
  | leaf e isLeaf =>
    rw [lexemesAt_leaf isLeaf,List.mem_singleton] at member
    subst member
    have longer := congrArg List.length placed
    simp at longer

/-- What `write` adds is the text of lexemes of the expression, in which every leaf is one atom; SQL
reads them as the expression, and parentheses keep free text apart. -/
structure Faithful (d : Dialect) (write : Fragment → Fragment) (e : Expr) : Prop where
  written : ∀ out, write out = e.lexemes.foldl (Lexeme.writeTo d) out
  placed : ∀ x ∈ e.lexemes, ∃ node, e.at? x.path = some node ∧ x.BelongsTo node
  distinct : (Lexeme.atomPaths e.lexemes).Nodup
  parsed : ∃ φ, Formula.parse e.lexemes = some φ ∧ ∀ truth, φ.eval truth = e.value truth
  enclosed : ∀ x ∈ e.lexemes, ∀ leaf, x.sign = .atom leaf → leaf.isFreeText →
    ∀ branch k rest node, x.path = branch ++ k :: rest → e.at? branch = some node →
      node.Isolates k → Enclosed e.lexemes x (branch ++ [k])

theorem faithful_writeTo (d : Dialect) {e : Expr} (live : e.isEmpty = false) :
    e.Faithful d (e.writeTo d) where
  written out := (write_lexemesAt d e [] out).symm
  placed x member := by
    obtain ⟨rest,node,same,located,own⟩ := at?_of_mem member
    rw [same]
    exact ⟨node,located,own⟩
  distinct := e.nodup_atomPaths []
  parsed := parse_lexemes live
  enclosed x member leaf atom free branch k rest node placed found isolates :=
    enclosed_lexemesAt member atom free placed found isolates

end Expr

/-- In every dialect the text of an expression, and that of a group of conditions, means what the
expression or the AND of the conditions means. -/
theorem boolean_meaning_kept (d : Dialect) :
    (∀ e : Expr, e.isEmpty = false → e.Faithful d (e.writeTo d)) ∧
    (∀ g : ConditionGroup, g.isEmpty = false → g.toExpr.Faithful d (g.writeTo d)) := by
  constructor
  · intro e live
    exact Expr.faithful_writeTo d live
  · intro g live
    rw [← g.isEmpty_toExpr] at live
    have same : g.toExpr.writeTo d = g.writeTo d := funext (g.writeTo_toExpr d)
    exact same ▸ Expr.faithful_writeTo d live

theorem boolean_meaning_kept_nested :
    let e : Expr := .and [.or [.raw "a OR b",.eq "c" (.int 1)],.raw " ",.not (.raw "d")]
    let g : ConditionGroup := ⟨[.raw "a = ? OR b" [.int 1],.expr (.not (.or [.always,.raw "c"]))]⟩
    (e.isEmpty = false ∧ e.Faithful .postgres (e.writeTo .postgres)) ∧
    (g.isEmpty = false ∧ g.toExpr.Faithful .mysql (g.writeTo .mysql)) :=
  ⟨⟨by decide,(boolean_meaning_kept .postgres).1 _ (by decide)⟩,
    ⟨by decide,(boolean_meaning_kept .mysql).2 _ (by decide)⟩⟩

end ParamSql
