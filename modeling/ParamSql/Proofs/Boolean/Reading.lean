import ParamSql.Proofs.Boolean.Lexemes

/-! The lexemes of an expression read back. The grammar derives them as a formula that has the value
of the expression, whatever the truth of its leaves, when members that contribute nothing are
deleted. -/
namespace ParamSql

def Connective.fold : Connective → List Bool → Bool
  | and, values => values.all id
  | or, values => values.any id

theorem Connective.apply_fold (c : Connective) (a b : Bool) (values : List Bool) :
    c.apply (c.apply a b) (c.fold values) = c.apply a (c.fold (b :: values)) := by
  cases c with
  | and => rw [apply,apply,apply,fold,fold,List.all_cons,Bool.and_assoc]; rfl
  | or => rw [apply,apply,apply,fold,fold,List.any_cons,Bool.or_assoc]; rfl

theorem Connective.fold_cons (c : Connective) (b : Bool) (values : List Bool) :
    c.fold (b :: values) = c.apply b (c.fold values) := by
  cases c <;> rfl

theorem Connective.apply_fold_nil (c : Connective) (a : Bool) : c.apply a (c.fold []) = a := by
  cases c with
  | and => exact Bool.and_true a
  | or => exact Bool.or_false a

namespace Expr

mutual
/-- The value of an expression without the members that contribute nothing, if every leaf has the
truth that its position has. -/
def valueAt (truth : List Nat → Bool) : (path : List Nat) → Expr → Bool
  | path, .and members => Connective.and.fold (valuesAt truth path 0 members)
  | path, .or members => Connective.or.fold (valuesAt truth path 0 members)
  | path, .not inner => !valueAt truth (path ++ [0]) inner
  | path, _ => truth path

def valuesAt (truth : List Nat → Bool) : (path : List Nat) → (index : Nat) → List Expr → List Bool
  | _, _, [] => []
  | path, index, e :: es =>
    if e.isEmpty then valuesAt truth path (index + 1) es
    else valueAt truth (path ++ [index]) e :: valuesAt truth path (index + 1) es
end

def value (truth : List Nat → Bool) (e : Expr) : Bool := e.valueAt truth []

theorem valueAt_expr (truth : List Nat → Bool) (path : List Nat) (c : Connective)
    (members : List Expr) :
    (c.expr members).valueAt truth path = c.fold (valuesAt truth path 0 members) := by
  cases c <;> rfl

theorem valueAt_leaf (truth : List Nat → Bool) {e : Expr} (leaf : e.isLeaf) (path : List Nat) :
    e.valueAt truth path = truth path := by
  cases e with
  | and | or | not => cases leaf
  | _ => rfl

end Expr

/-- The lexemes are derived as a formula of this meaning. -/
def Reads (level : Precedence) (lexemes : List Lexeme) (meaning : (List Nat → Bool) → Bool) : Prop :=
  ∃ φ, Derives level lexemes φ ∧ ∀ truth, φ.eval truth = meaning truth

namespace Reads

variable {level : Precedence} {lexemes more : List Lexeme} {meaning right : (List Nat → Bool) → Bool}

theorem loosest (h : Reads level lexemes meaning) : Reads .disjunction lexemes meaning := by
  obtain ⟨φ,derived,same⟩ := h
  cases level with
  | disjunction => exact ⟨φ,derived,same⟩
  | conjunction => exact ⟨φ,.disjunct derived,same⟩
  | negation => exact ⟨φ,.disjunct (.conjunct derived),same⟩

/-- What is read as a factor is read as an operand of either connective. -/
theorem operand (c : Connective) (h : Reads .negation lexemes meaning) :
    Reads c.operand lexemes meaning := by
  obtain ⟨φ,derived,same⟩ := h
  cases c with
  | and => exact ⟨φ,derived,same⟩
  | or => exact ⟨φ,.conjunct derived,same⟩

theorem whole (c : Connective) (h : Reads .negation lexemes meaning) :
    Reads c.whole lexemes meaning := by
  obtain ⟨φ,derived,same⟩ := h
  cases c with
  | and => exact ⟨φ,.conjunct derived,same⟩
  | or => exact ⟨φ,.disjunct (.conjunct derived),same⟩

theorem group (path : List Nat) (h : Reads .disjunction lexemes meaning) :
    Reads .negation (Lexeme.wrapped path true lexemes) meaning := by
  obtain ⟨φ,derived,same⟩ := h
  exact ⟨φ,.group path path derived,same⟩

theorem not (path : List Nat) (h : Reads .negation lexemes meaning) :
    Reads .negation (⟨path,.not⟩ :: lexemes) fun truth => !meaning truth := by
  obtain ⟨φ,derived,same⟩ := h
  exact ⟨.not φ,.not path derived,fun truth => by rw [Formula.eval,same]⟩

theorem join (c : Connective) (path : List Nat) (h : Reads c.whole lexemes meaning)
    (h' : Reads .negation more right) : Reads c.whole (lexemes ++ ⟨path,.join c⟩ :: more)
      fun truth => c.apply (meaning truth) (right truth) := by
  obtain ⟨φ,derived,same⟩ := h
  obtain ⟨ψ,derived',same'⟩ := h'.operand c
  exact ⟨.join c φ ψ,.join c path derived derived',fun truth => by
    rw [Formula.eval,same,same']⟩

theorem congr (h : Reads level lexemes meaning) (same : ∀ truth, meaning truth = right truth) :
    Reads level lexemes right := by
  obtain ⟨φ,derived,eval⟩ := h
  exact ⟨φ,derived,fun truth => (eval truth).trans (same truth)⟩

end Reads

namespace Expr

/-- How tightly the text of an expression holds together. -/
def level (e : Expr) : Precedence := if e.isCompound then .disjunction else .negation

/-- An expression that contributes something is read as itself. -/
def Readable (e : Expr) : Prop :=
  e.isEmpty = false → ∀ path, Reads e.level (e.lexemesAt path) fun truth => e.valueAt truth path

theorem Readable.block {e : Expr} (readable : e.Readable) (live : e.isEmpty = false)
    (path inside : List Nat) : Reads .negation (Lexeme.wrapped path (true && e.isCompound)
      (e.lexemesAt inside)) fun truth => e.valueAt truth inside := by
  have reads := readable live inside
  rw [Bool.true_and]
  cases compound : e.isCompound with
  | true => exact reads.loosest.group path
  | false => rwa [level,compound] at reads

/-- Two or more members are read one after the other, as each is a factor. -/
theorem reads_blocks (c : Connective) (path : List Nat) {es : List Expr}
    (each : ∀ e ∈ es, e.Readable) (index : Nat) {lexemes : List Lexeme}
    {meaning : (List Nat → Bool) → Bool} (h : Reads c.whole lexemes meaning) :
    Reads c.whole (lexemes ++ (blocksAt path true index es).flatMap (⟨path,.join c⟩ :: ·))
      fun truth => c.apply (meaning truth) (c.fold (valuesAt truth path index es)) := by
  induction es generalizing index lexemes meaning with
  | nil =>
    rw [blocksAt,List.flatMap_nil,List.append_nil]
    exact h.congr fun truth => (c.apply_fold_nil _).symm
  | cons e es ih =>
    obtain ⟨first,rest⟩ := List.forall_mem_cons.mp each
    -- What has been read so far is the left operand of the next connective.
    simp only [blocksAt,valuesAt]
    split
    next => exact ih rest _ h
    next live =>
      have block := first.block (Bool.not_eq_true _ ▸ live) path (path ++ [index])
      have reads := ih rest (index + 1) (h.join c path block)
      rw [List.append_assoc] at reads
      exact reads.congr fun truth => c.apply_fold _ _ _

theorem reads_joined (c : Connective) (path : List Nat) {es : List Expr}
    (each : ∀ e ∈ es, e.Readable) (live : ∃ e ∈ es, e.isEmpty = false) (index : Nat) :
    Reads c.whole (Lexeme.joined ⟨path,.join c⟩ (blocksAt path true index es))
      fun truth => c.fold (valuesAt truth path index es) := by
  induction es generalizing index with
  | nil => obtain ⟨e,member,-⟩ := live; cases member
  | cons e es ih =>
    obtain ⟨first,rest⟩ := List.forall_mem_cons.mp each
    simp only [blocksAt,valuesAt]
    split
    next empty =>
      refine ih rest ?_ _
      obtain ⟨e',member,alive⟩ := live
      rcases List.mem_cons.mp member with rfl | member
      · rw [empty] at alive; cases alive
      · exact ⟨e',member,alive⟩
    next alive =>
      have block := first.block (Bool.not_eq_true _ ▸ alive) path (path ++ [index])
      exact (reads_blocks c path rest (index + 1) (block.whole c)).congr fun truth =>
        (c.fold_cons _ _).symm

theorem blocksAt_eq_nil {es : List Expr} (empty : ∀ e ∈ es, e.isEmpty) (path : List Nat) (wrap : Bool)
    (index : Nat) : blocksAt path wrap index es = [] := by
  induction es generalizing index with
  | nil => rfl
  | cons e es ih =>
    obtain ⟨first,rest⟩ := List.forall_mem_cons.mp empty
    rw [blocksAt,if_pos first]
    exact ih rest _

theorem valuesAt_eq_nil {es : List Expr} (empty : ∀ e ∈ es, e.isEmpty) (truth : List Nat → Bool)
    (path : List Nat) (index : Nat) : valuesAt truth path index es = [] := by
  induction es generalizing index with
  | nil => rfl
  | cons e es ih =>
    obtain ⟨first,rest⟩ := List.forall_mem_cons.mp empty
    rw [valuesAt,if_pos first]
    exact ih rest _

/-- A member without siblings has no parentheses, and the whole is that member. -/
theorem reads_alone (c : Connective) (path : List Nat) {es : List Expr}
    (each : ∀ e ∈ es, e.Readable) (live : ∃ e ∈ es, e.isEmpty = false)
    (alone : hasSiblings es = false) (index : Nat) :
    Reads .disjunction (Lexeme.joined ⟨path,.join c⟩ (blocksAt path false index es))
      fun truth => c.fold (valuesAt truth path index es) := by
  induction es generalizing index with
  | nil => obtain ⟨e,member,-⟩ := live; cases member
  | cons e es ih =>
    obtain ⟨first,rest⟩ := List.forall_mem_cons.mp each
    simp only [blocksAt,valuesAt]
    rw [hasSiblings,decide_eq_false_iff_not,List.filter_cons] at alone
    split
    next empty =>
      rw [empty] at alone
      refine ih rest ?_ ?_ _
      · obtain ⟨e',member,alive⟩ := live
        rcases List.mem_cons.mp member with rfl | member
        · rw [empty] at alive; cases alive
        · exact ⟨e',member,alive⟩
      · rw [hasSiblings,decide_eq_false_iff_not]; exact alone
    next alive =>
      have alive : e.isEmpty = false := Bool.not_eq_true _ ▸ alive
      rw [alive,Bool.not_false,if_pos rfl,List.length_cons] at alone
      have none : es.filter (!·.isEmpty) = [] := List.length_eq_zero_iff.mp (by omega)
      have empty : ∀ e ∈ es, e.isEmpty := fun e member => by
        simpa using List.filter_eq_nil_iff.mp none e member
      rw [blocksAt_eq_nil empty,Lexeme.joined,List.flatMap_nil,List.append_nil]
      have reads := (first alive (path ++ [index])).loosest
      refine reads.congr fun truth => ?_
      rw [valuesAt_eq_nil empty,c.fold_cons,c.apply_fold_nil]

theorem exists_live {c : Connective} {members : List Expr}
    (live : (c.expr members).isEmpty = false) : ∃ e ∈ members, e.isEmpty = false := by
  have some : allEmpty members = false := by cases c <;> exact live
  induction members with
  | nil => cases some
  | cons e es ih =>
    rw [allEmpty,Bool.and_eq_false_iff] at some
    rcases some with here | later
    · exact ⟨e,List.mem_cons_self,here⟩
    · obtain ⟨e',member,alive⟩ := ih (by cases c <;> exact later) later
      exact ⟨e',List.mem_cons_of_mem _ member,alive⟩

theorem readable (e : Expr) : e.Readable := by
  induction e using Expr.induction with
  | join c members ih =>
    intro live path
    have loosest : (c.expr members).level = .disjunction := by cases c <;> rfl
    have reads : Reads .disjunction ((c.expr members).lexemesAt path) fun truth =>
        c.fold (valuesAt truth path 0 members) := by
      rw [lexemesAt_expr]
      cases siblings : hasSiblings members with
      | true => exact (reads_joined c path ih (exists_live live) 0).loosest
      | false => exact reads_alone c path ih (exists_live live) siblings 0
    rw [loosest]
    exact reads.congr fun truth => (valueAt_expr truth path c members).symm
  | not inner ih =>
    intro live path
    have alive : inner.isEmpty = false := live
    rw [lexemesAt_not alive]
    exact ((ih alive (path ++ [0])).loosest.group path).not path
  | leaf e leaf =>
    intro live path
    have reads : Reads .negation (e.lexemesAt path) fun truth => e.valueAt truth path := by
      rw [lexemesAt_leaf leaf]
      exact ⟨.atom path,.atom path e,fun truth => (valueAt_leaf truth leaf path).symm⟩
    rw [level]
    split
    · exact reads.loosest
    · exact reads

theorem parse_lexemes {e : Expr} (live : e.isEmpty = false) :
    ∃ φ, Formula.parse e.lexemes = some φ ∧ ∀ truth, φ.eval truth = e.value truth := by
  obtain ⟨φ,derived,same⟩ := (e.readable live []).loosest
  exact ⟨φ,Formula.parse_of_derives derived,same⟩

end Expr

end ParamSql
