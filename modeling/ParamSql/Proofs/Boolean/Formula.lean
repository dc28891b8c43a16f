import ParamSql.Expr

/-! Boolean formulas as SQL reads them: NOT binds tighter than AND and AND tighter than OR. The text
of an expression is a list of lexemes, in which comparisons, tests and free text are opaque atoms. Main
statement: the parser reads whatever the grammar derives. -/
namespace ParamSql

inductive Connective where
  | and
  | or
  deriving DecidableEq, Repr

namespace Connective

def keyword : Connective → String
  | and => " AND "
  | or => " OR "

def apply : Connective → Bool → Bool → Bool
  | and, a, b => a && b
  | or, a, b => a || b

/-- The value of no operands. -/
def unit : Connective → Bool
  | and => true
  | or => false

end Connective

/-- Formulas over atoms, which are known by their positions. -/
inductive Formula where
  | atom (path : List Nat)
  | not (inner : Formula)
  | join (c : Connective) (left right : Formula)
  deriving DecidableEq, Repr

def Formula.eval (truth : List Nat → Bool) : Formula → Bool
  | atom path => truth path
  | not inner => !inner.eval truth
  | join c left right => c.apply (left.eval truth) (right.eval truth)

inductive Sign where
  | atom (leaf : Expr)
  | join (c : Connective)
  | not
  | opening
  | closing

/-- A sign with the position it comes from: that of the leaf, or of the node that the keyword or the
parenthesis belongs to. -/
structure Lexeme where
  path : List Nat
  sign : Sign

namespace Lexeme

def writeTo (d : Dialect) (out : Fragment) (x : Lexeme) : Fragment :=
  match x.sign with
  | .atom leaf => leaf.writeTo d out
  | .join c => out.text c.keyword
  | .not => out.text "NOT "
  | .opening => out.text "("
  | .closing => out.text ")"

end Lexeme

/-! ## The parser -/

namespace Formula

/-- What has been read between an opening parenthesis and the next operand: the operands of OR, those
of AND behind the last OR, and the NOTs behind the last AND. -/
structure Frame where
  disjuncts : Option Formula
  conjuncts : Option Formula
  negations : Nat

namespace Frame

def start : Frame := ⟨none,none,0⟩

def negated : Nat → Formula → Formula
  | 0, operand => operand
  | n + 1, operand => .not (negated n operand)

/-- The operand joins those of AND. -/
def conjunction (frame : Frame) (operand : Formula) : Formula :=
  let factor := negated frame.negations operand
  match frame.conjuncts with
  | some left => .join .and left factor
  | none => factor

/-- The operand closes an operand of OR. -/
def disjunction (frame : Frame) (operand : Formula) : Formula :=
  match frame.disjuncts with
  | some left => .join .or left (frame.conjunction operand)
  | none => frame.conjunction operand

end Frame

/-- The frames of the open parentheses, the frame inside of them, and the operand read last, if the
next sign is not to begin one. -/
structure Reader where
  outer : List Frame
  frame : Frame
  operand : Option Formula

namespace Reader

def start : Reader := ⟨[],.start,none⟩

def step : Reader → Lexeme → Option Reader
  | ⟨outer,frame,none⟩, ⟨path,.atom _⟩ => some ⟨outer,frame,some (.atom path)⟩
  | ⟨outer,frame,none⟩, ⟨_,.not⟩ => some ⟨outer,{ frame with negations := frame.negations + 1 },none⟩
  | ⟨outer,frame,none⟩, ⟨_,.opening⟩ => some ⟨frame :: outer,.start,none⟩
  | ⟨outer,frame,some φ⟩, ⟨_,.join .and⟩ =>
    some ⟨outer,⟨frame.disjuncts,some (frame.conjunction φ),0⟩,none⟩
  | ⟨outer,frame,some φ⟩, ⟨_,.join .or⟩ => some ⟨outer,⟨some (frame.disjunction φ),none,0⟩,none⟩
  | ⟨next :: outer,frame,some φ⟩, ⟨_,.closing⟩ => some ⟨outer,next,some (frame.disjunction φ)⟩
  | _, _ => none

def read (r : Reader) (lexemes : List Lexeme) : Option Reader := lexemes.foldlM step r

def finish : Reader → Option Formula
  | ⟨[],frame,some φ⟩ => some (frame.disjunction φ)
  | _ => none

end Reader

def parse (lexemes : List Lexeme) : Option Formula := (Reader.start.read lexemes).bind Reader.finish

end Formula

/-! ## The grammar -/

/-- What may stand between two signs, from the loosest to the tightest. -/
inductive Precedence where
  | disjunction
  | conjunction
  | negation

def Connective.whole : Connective → Precedence
  | and => .conjunction
  | or => .disjunction

/-- The precedence of the right operand; the left one is a whole, as the connectives are read from
the left. -/
def Connective.operand : Connective → Precedence
  | and => .negation
  | or => .conjunction

inductive Derives : Precedence → List Lexeme → Formula → Prop
  | atom (path : List Nat) (leaf : Expr) : Derives .negation [⟨path,.atom leaf⟩] (.atom path)
  | group {lexemes : List Lexeme} {φ : Formula} (a b : List Nat) (h : Derives .disjunction lexemes φ) :
      Derives .negation (⟨a,.opening⟩ :: lexemes ++ [⟨b,.closing⟩]) φ
  | not {lexemes : List Lexeme} {φ : Formula} (path : List Nat) (h : Derives .negation lexemes φ) :
      Derives .negation (⟨path,.not⟩ :: lexemes) (.not φ)
  | conjunct {lexemes : List Lexeme} {φ : Formula} (h : Derives .negation lexemes φ) :
      Derives .conjunction lexemes φ
  | disjunct {lexemes : List Lexeme} {φ : Formula} (h : Derives .conjunction lexemes φ) :
      Derives .disjunction lexemes φ
  | join {lexemes more : List Lexeme} {φ ψ : Formula} (c : Connective) (path : List Nat)
      (left : Derives c.whole lexemes φ) (right : Derives c.operand more ψ) :
      Derives c.whole (lexemes ++ ⟨path,.join c⟩ :: more) (.join c φ ψ)

namespace Formula

theorem Reader.read_append {r s : Reader} {lexemes : List Lexeme} (more : List Lexeme)
    (first : r.read lexemes = some s) : r.read (lexemes ++ more) = s.read more := by
  rw [read,List.foldlM_append]
  rw [read] at first
  rw [first]
  rfl

theorem Reader.read_cons {r s : Reader} {x : Lexeme} (more : List Lexeme) (first : r.step x = some s) :
    r.read (x :: more) = s.read more := by
  rw [read,List.foldlM_cons,first]
  rfl

/-- What a reader that waits for an operand makes of the lexemes, by precedence. -/
def Absorbed : Precedence → List Lexeme → Formula → Prop
  | .negation, lexemes, φ => ∀ outer frame, ∃ n ψ, Frame.negated n ψ = φ ∧
      Reader.read ⟨outer,frame,none⟩ lexemes =
        some ⟨outer,{ frame with negations := frame.negations + n },some ψ⟩
  | .conjunction, lexemes, φ => ∀ outer disjuncts, ∃ conjuncts n ψ,
      Frame.conjunction ⟨disjuncts,conjuncts,n⟩ ψ = φ ∧
      Reader.read ⟨outer,⟨disjuncts,none,0⟩,none⟩ lexemes =
        some ⟨outer,⟨disjuncts,conjuncts,n⟩,some ψ⟩
  | .disjunction, lexemes, φ => ∀ outer, ∃ frame ψ, Frame.disjunction frame ψ = φ ∧
      Reader.read ⟨outer,.start,none⟩ lexemes = some ⟨outer,frame,some ψ⟩

theorem absorbed_of_derives {level : Precedence} {lexemes : List Lexeme} {φ : Formula}
    (h : Derives level lexemes φ) : Absorbed level lexemes φ := by
  -- The looser the level, the less the frame may hold when it starts; the reader is any that waits.
  induction h with
  | atom path leaf => intro outer frame; exact ⟨0,.atom path,rfl,rfl⟩
  | group a b h ih =>
    intro outer frame
    obtain ⟨inner,ψ,same,read⟩ := ih (frame :: outer)
    refine ⟨0,_,same,?_⟩
    rw [List.cons_append,Reader.read_cons _ rfl,Reader.read_append _ read]
    rfl
  | not path h ih =>
    intro outer frame
    obtain ⟨n,ψ,same,read⟩ := ih outer { frame with negations := frame.negations + 1 }
    refine ⟨n + 1,ψ,by rw [Frame.negated,same],?_⟩
    rw [Reader.read_cons _ rfl,read,Nat.add_right_comm]
    rfl
  | conjunct h ih =>
    intro outer disjuncts
    obtain ⟨n,ψ,same,read⟩ := ih outer ⟨disjuncts,none,0⟩
    refine ⟨none,n,ψ,same,?_⟩
    rw [read,Nat.zero_add]
  | disjunct h ih =>
    intro outer
    obtain ⟨conjuncts,n,ψ,same,read⟩ := ih outer none
    exact ⟨⟨none,conjuncts,n⟩,ψ,same,read⟩
  | @join lexemes more φ ψ c path left right ihLeft ihRight =>
    cases c with
    | and =>
      intro outer disjuncts
      obtain ⟨conjuncts,n,χ,same,read⟩ := ihLeft outer disjuncts
      obtain ⟨m,ω,same',read'⟩ := ihRight outer ⟨disjuncts,some φ,0⟩
      refine ⟨some φ,m,ω,?_,?_⟩
      · rw [Frame.conjunction,same']
      · have next : Reader.step ⟨outer,⟨disjuncts,conjuncts,n⟩,some χ⟩ ⟨path,.join .and⟩ =
            some ⟨outer,⟨disjuncts,some φ,0⟩,none⟩ := by rw [Reader.step,same]
        rw [Reader.read_append _ read,Reader.read_cons _ next,read',Nat.zero_add]
    | or =>
      intro outer
      obtain ⟨frame,χ,same,read⟩ := ihLeft outer
      obtain ⟨conjuncts,n,ω,same',read'⟩ := ihRight outer (some φ)
      refine ⟨⟨some φ,conjuncts,n⟩,ω,?_,?_⟩
      · rw [Frame.disjunction,same']
      · have next : Reader.step ⟨outer,frame,some χ⟩ ⟨path,.join .or⟩ =
            some ⟨outer,⟨some φ,none,0⟩,none⟩ := by rw [Reader.step,same]
        rw [Reader.read_append _ read,Reader.read_cons _ next,read']

theorem parse_of_derives {lexemes : List Lexeme} {φ : Formula}
    (h : Derives .disjunction lexemes φ) : parse lexemes = some φ := by
  obtain ⟨frame,ψ,same,read⟩ := absorbed_of_derives h []
  rw [parse,Reader.start,read,Option.bind_some,Reader.finish,same]

end Formula

end ParamSql
