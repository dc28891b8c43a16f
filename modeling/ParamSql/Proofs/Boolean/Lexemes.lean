import ParamSql.Proofs.Boolean.Formula
import ParamSql.Proofs.Fragment
import Mathlib.Data.List.Basic

/-! The lexemes of an expression. The text that is written for an expression is that of its lexemes.
They are balanced, every one stands at a position of the expression, and the atoms are leaves of it. -/
namespace ParamSql

def Connective.expr : Connective → List Expr → Expr
  | and, members => .and members
  | or, members => .or members

namespace Lexeme

/-- Blocks of lexemes with a separator between them. -/
def joined (separator : Lexeme) : List (List Lexeme) → List Lexeme
  | [] => []
  | block :: blocks => block ++ blocks.flatMap (separator :: ·)

def wrapped (path : List Nat) (wrap : Bool) (inside : List Lexeme) : List Lexeme :=
  if wrap then ⟨path,.opening⟩ :: inside ++ [⟨path,.closing⟩] else inside

end Lexeme

namespace Expr

/-- Whether an expression combines no others. -/
def isLeaf : Expr → Bool
  | .and _ | .or _ | .not _ => false
  | _ => true

theorem induction {P : Expr → Prop}
    (join : ∀ c members, (∀ e ∈ members, P e) → P (Connective.expr c members))
    (not : ∀ inner, P inner → P (.not inner)) (leaf : ∀ e, e.isLeaf → P e) (e : Expr) : P e := by
  refine @Expr.rec P (fun members => ∀ e ∈ members, P e)
    (fun members => join .and members) (fun members => join .or members) not
    (fun _ _ _ => leaf _ rfl) (fun _ _ => leaf _ rfl) (fun _ _ _ => leaf _ rfl)
    (fun _ _ _ _ => leaf _ rfl) (fun _ _ => leaf _ rfl) (fun _ => leaf _ rfl) (leaf _ rfl) (leaf _ rfl)
    ?_ ?_ e
  · intro e member; cases member
  · intro head tail first rest e member
    rcases List.mem_cons.mp member with rfl | member
    · exact first
    · exact rest e member

mutual
def lexemesAt : (path : List Nat) → Expr → List Lexeme
  | path, .and members =>
    Lexeme.joined ⟨path,.join .and⟩ (blocksAt path (hasSiblings members) 0 members)
  | path, .or members =>
    Lexeme.joined ⟨path,.join .or⟩ (blocksAt path (hasSiblings members) 0 members)
  | path, .not inner =>
    if inner.isEmpty then [] else ⟨path,.not⟩ :: Lexeme.wrapped path true (lexemesAt (path ++ [0]) inner)
  | path, leaf => [⟨path,.atom leaf⟩]

/-- A block for each member that contributes. -/
def blocksAt : (path : List Nat) → (wrap : Bool) → (index : Nat) → List Expr → List (List Lexeme)
  | _, _, _, [] => []
  | path, wrap, index, e :: es =>
    if e.isEmpty then blocksAt path wrap (index + 1) es
    else Lexeme.wrapped path (wrap && e.isCompound) (lexemesAt (path ++ [index]) e) ::
      blocksAt path wrap (index + 1) es
end

def lexemes (e : Expr) : List Lexeme := e.lexemesAt []

theorem lexemesAt_expr (path : List Nat) (c : Connective) (members : List Expr) :
    (c.expr members).lexemesAt path =
      Lexeme.joined ⟨path,.join c⟩ (blocksAt path (hasSiblings members) 0 members) := by
  cases c <;> rfl

theorem lexemesAt_not {inner : Expr} (live : inner.isEmpty = false) (path : List Nat) :
    (Expr.not inner).lexemesAt path =
      ⟨path,.not⟩ :: Lexeme.wrapped path true (inner.lexemesAt (path ++ [0])) := by
  rw [lexemesAt,live]; rfl

theorem lexemesAt_leaf {e : Expr} (leaf : e.isLeaf) (path : List Nat) :
    e.lexemesAt path = [⟨path,.atom e⟩] := by
  cases e with
  | and | or | not => cases leaf
  | _ => rfl

/-! ## The text -/

theorem write_wrapped (d : Dialect) (path : List Nat) (wrap : Bool) (inside : List Lexeme)
    (out : Fragment) : (Lexeme.wrapped path wrap inside).foldl (Lexeme.writeTo d) out =
      if wrap then (inside.foldl (Lexeme.writeTo d) (out.text "(")).text ")"
      else inside.foldl (Lexeme.writeTo d) out := by
  cases wrap with
  | false => rfl
  | true => rw [Lexeme.wrapped,if_pos rfl,List.cons_append,List.foldl_cons,List.foldl_append]; rfl

theorem write_blocks {d : Dialect} (c : Connective) (path : List Nat) (wrap : Bool) (es : List Expr)
    (each : ∀ e ∈ es, ∀ path out, (e.lexemesAt path).foldl (Lexeme.writeTo d) out = e.writeTo d out)
    (index : Nat) (out : Fragment) :
    ((blocksAt path wrap index es).flatMap (⟨path,.join c⟩ :: ·)).foldl (Lexeme.writeTo d) out =
      writeJoined d c.keyword wrap false es out := by
  induction es generalizing index out with
  | nil => rfl
  | cons e es ih =>
    obtain ⟨first,rest⟩ := List.forall_mem_cons.mp each
    rw [blocksAt,writeJoined]
    split
    · exact ih rest _ _
    · rw [List.flatMap_cons,List.foldl_append,List.foldl_cons,write_wrapped,ih rest]
      simp only [first]
      rfl

theorem write_joined {d : Dialect} (c : Connective) (path : List Nat) (wrap : Bool) (es : List Expr)
    (each : ∀ e ∈ es, ∀ path out, (e.lexemesAt path).foldl (Lexeme.writeTo d) out = e.writeTo d out)
    (index : Nat) (out : Fragment) :
    (Lexeme.joined ⟨path,.join c⟩ (blocksAt path wrap index es)).foldl (Lexeme.writeTo d) out =
      writeJoined d c.keyword wrap true es out := by
  induction es generalizing index with
  | nil => rfl
  | cons e es ih =>
    obtain ⟨first,rest⟩ := List.forall_mem_cons.mp each
    rw [blocksAt,writeJoined]
    split
    · exact ih rest _
    · rw [Lexeme.joined,List.foldl_append,write_wrapped,write_blocks c path wrap es rest]
      simp only [first]
      rfl

theorem write_lexemesAt (d : Dialect) (e : Expr) (path : List Nat) (out : Fragment) :
    (e.lexemesAt path).foldl (Lexeme.writeTo d) out = e.writeTo d out := by
  induction e using Expr.induction generalizing path out with
  | join c members ih =>
    rw [lexemesAt_expr,write_joined c path _ members ih]
    cases c <;> rfl
  | not inner ih =>
    rw [lexemesAt,writeTo]
    split
    · rfl
    · rw [List.foldl_cons,write_wrapped,if_pos rfl,ih,Lexeme.writeTo,Fragment.text_text]; rfl
  | leaf e leaf => rw [lexemesAt_leaf leaf]; rfl

/-! ## Positions -/

def child? : Expr → Nat → Option Expr
  | .and members, k | .or members, k => members[k]?
  | .not inner, 0 => some inner
  | _, _ => none

def at? (e : Expr) : List Nat → Option Expr
  | [] => some e
  | k :: path => (e.child? k).bind (·.at? path)

end Expr

namespace Lexeme

/-- Whether a node writes the lexeme itself. -/
def BelongsTo (x : Lexeme) (node : Expr) : Prop :=
  match x.sign with
  | .atom leaf => leaf.isLeaf ∧ node = leaf
  | .join c => ∃ members, node = c.expr members
  | .not => ∃ inner, node = .not inner
  | .opening | .closing => node.isLeaf = false

theorem BelongsTo.ne_atom {x : Lexeme} {node : Expr} (own : x.BelongsTo node)
    (inner : node.isLeaf = false) (leaf : Expr) : x.sign ≠ .atom leaf := by
  intro atom
  rw [BelongsTo,atom] at own
  obtain ⟨isLeaf,rfl⟩ := own
  rw [isLeaf] at inner
  cases inner

def isParenthesis (x : Lexeme) : Bool :=
  match x.sign with
  | .opening | .closing => true
  | _ => false

theorem mem_joined {separator x : Lexeme} {blocks : List (List Lexeme)}
    (member : x ∈ joined separator blocks) : x = separator ∨ ∃ block ∈ blocks, x ∈ block := by
  cases blocks with
  | nil => cases member
  | cons first blocks =>
    rcases List.mem_append.mp member with inside | later
    · exact .inr ⟨first,List.mem_cons_self,inside⟩
    · obtain ⟨block,found,inside⟩ := List.mem_flatMap.mp later
      rcases List.mem_cons.mp inside with same | inside
      · exact .inl same
      · exact .inr ⟨block,List.mem_cons_of_mem _ found,inside⟩

/-- Every block stands in the whole. -/
theorem joined_split (separator : Lexeme) {block : List Lexeme} {blocks : List (List Lexeme)}
    (member : block ∈ blocks) : ∃ before after, joined separator blocks = before ++ block ++ after := by
  cases blocks with
  | nil => cases member
  | cons first blocks =>
    rcases List.mem_cons.mp member with rfl | later
    · exact ⟨[],_,rfl⟩
    · obtain ⟨before,after,split⟩ := List.append_of_mem later
      refine ⟨first ++ before.flatMap (separator :: ·) ++ [separator],
        after.flatMap (separator :: ·),?_⟩
      rw [joined,split]
      simp

theorem mem_wrapped {path : List Nat} {wrap : Bool} {inside : List Lexeme} {x : Lexeme} {node : Expr}
    (member : x ∈ wrapped path wrap inside) (inner : node.isLeaf = false) :
    x ∈ inside ∨ x.path = path ∧ x.BelongsTo node := by
  cases wrap with
  | false => exact .inl member
  | true =>
    rw [wrapped,if_pos rfl,List.cons_append,List.mem_cons,List.mem_append,List.mem_singleton] at member
    rcases member with rfl | member | rfl
    · exact .inr ⟨rfl,inner⟩
    · exact .inl member
    · exact .inr ⟨rfl,inner⟩

end Lexeme

namespace Expr

theorem mem_blocksAt {path : List Nat} {wrap : Bool} {index : Nat} {es : List Expr}
    {block : List Lexeme} (member : block ∈ blocksAt path wrap index es) :
    ∃ (i : Nat) (e : Expr), es[i]? = some e ∧ e.isEmpty = false ∧
      block = Lexeme.wrapped path (wrap && e.isCompound) (e.lexemesAt (path ++ [index + i])) := by
  induction es generalizing index with
  | nil => cases member
  | cons e es ih =>
    have later (member : block ∈ blocksAt path wrap (index + 1) es) :
        ∃ (i : Nat) (e' : Expr), (e :: es)[i]? = some e' ∧ e'.isEmpty = false ∧ block =
          Lexeme.wrapped path (wrap && e'.isCompound) (e'.lexemesAt (path ++ [index + i])) := by
      obtain ⟨i,e',found,live,same⟩ := ih member
      exact ⟨i + 1,e',found,live,by rw [same,Nat.add_assoc,Nat.add_comm 1]⟩
    rw [blocksAt] at member
    split at member
    next empty => exact later member
    next live =>
      rcases List.mem_cons.mp member with same | member
      · exact ⟨0,e,rfl,Bool.not_eq_true _ ▸ live,same⟩
      · exact later member

theorem isLeaf_expr (c : Connective) (members : List Expr) : (c.expr members).isLeaf = false := by
  cases c <;> rfl

/-- A lexeme of an AND or OR is one of the node itself, or one of a member that contributes. -/
theorem mem_lexemesAt_expr {c : Connective} {members : List Expr} {path : List Nat} {x : Lexeme}
    (member : x ∈ (c.expr members).lexemesAt path) :
    (x.path = path ∧ x.BelongsTo (c.expr members)) ∨
    ∃ (i : Nat) (e : Expr), members[i]? = some e ∧ e.isEmpty = false ∧
      x ∈ e.lexemesAt (path ++ [i]) := by
  rw [lexemesAt_expr] at member
  rcases Lexeme.mem_joined member with rfl | ⟨block,found,inside⟩
  · exact .inl ⟨rfl,members,rfl⟩
  · obtain ⟨i,e,present,live,rfl⟩ := mem_blocksAt found
    rw [Nat.zero_add] at inside
    rcases Lexeme.mem_wrapped inside (isLeaf_expr c members) with inside | own
    · exact .inr ⟨i,e,present,live,inside⟩
    · exact .inl own

theorem mem_lexemesAt_not {inner : Expr} {path : List Nat} {x : Lexeme}
    (member : x ∈ (Expr.not inner).lexemesAt path) :
    (x.path = path ∧ x.BelongsTo (.not inner)) ∨
    inner.isEmpty = false ∧ x ∈ inner.lexemesAt (path ++ [0]) := by
  cases live : inner.isEmpty with
  | true => rw [lexemesAt,if_pos live] at member; cases member
  | false =>
    rw [lexemesAt_not live] at member
    rcases List.mem_cons.mp member with rfl | member
    · exact .inl ⟨rfl,inner,rfl⟩
    · rcases Lexeme.mem_wrapped member (show (Expr.not inner).isLeaf = false from rfl) with inside | own
      · exact .inr ⟨rfl,inside⟩
      · exact .inl own

theorem child?_expr (c : Connective) (members : List Expr) (k : Nat) :
    (c.expr members).child? k = members[k]? := by
  cases c <;> rfl

/-- Every lexeme stands at the position of the node that writes it. -/
theorem at?_of_mem {e : Expr} {path : List Nat} {x : Lexeme} (member : x ∈ e.lexemesAt path) :
    ∃ rest node, x.path = path ++ rest ∧ e.at? rest = some node ∧ x.BelongsTo node := by
  induction e using Expr.induction generalizing path with
  | join c members ih =>
    rcases mem_lexemesAt_expr member with ⟨same,own⟩ | ⟨i,e,found,-,inside⟩
    · exact ⟨[],_,by rw [same,List.append_nil],rfl,own⟩
    · obtain ⟨rest,node,same,located,own⟩ := ih e (List.mem_of_getElem? found) inside
      refine ⟨i :: rest,node,by rw [same,List.append_assoc]; rfl,?_,own⟩
      rw [at?,child?_expr,found]
      exact located
  | not inner ih =>
    rcases mem_lexemesAt_not member with ⟨same,own⟩ | ⟨-,inside⟩
    · exact ⟨[],_,by rw [same,List.append_nil],rfl,own⟩
    · obtain ⟨rest,node,same,located,own⟩ := ih inside
      exact ⟨0 :: rest,node,by rw [same,List.append_assoc]; rfl,located,own⟩
  | leaf e isLeaf =>
    rw [lexemesAt_leaf isLeaf,List.mem_singleton] at member
    subst member
    exact ⟨[],e,(List.append_nil path).symm,rfl,isLeaf,rfl⟩

theorem isPrefix_lexemesAt {e : Expr} {path : List Nat} {x : Lexeme} (member : x ∈ e.lexemesAt path) :
    path <+: x.path := by
  obtain ⟨rest,node,same,-,-⟩ := at?_of_mem member
  exact ⟨rest,same.symm⟩

theorem index_eq_of_isPrefix {path rest : List Nat} {i k : Nat}
    (within : path ++ [i] <+: path ++ k :: rest) : i = k := by
  obtain ⟨more,same⟩ := within
  rw [List.append_assoc,List.append_cancel_left_eq] at same
  exact (List.cons.inj same).1

end Expr

/-! ## Atoms -/

namespace Lexeme

def atomPath? (x : Lexeme) : Option (List Nat) :=
  match x.sign with
  | .atom _ => some x.path
  | _ => none

def atomPaths (lexemes : List Lexeme) : List (List Nat) := lexemes.filterMap atomPath?

theorem atomPaths_wrapped (path : List Nat) (wrap : Bool) (inside : List Lexeme) :
    atomPaths (wrapped path wrap inside) = atomPaths inside := by
  cases wrap with
  | false => rfl
  | true =>
    rw [wrapped,if_pos rfl,atomPaths,List.cons_append,List.filterMap_cons,List.filterMap_append]
    exact List.append_nil _

theorem atomPaths_joined (path : List Nat) (c : Connective) (blocks : List (List Lexeme)) :
    atomPaths (joined ⟨path,.join c⟩ blocks) = blocks.flatMap atomPaths := by
  cases blocks with
  | nil => rfl
  | cons block blocks =>
    rw [joined,atomPaths,List.filterMap_append,List.flatMap_cons,List.filterMap_flatMap]
    rfl

theorem isPrefix_of_mem_atomPaths {e : Expr} {path place : List Nat}
    (member : place ∈ atomPaths (e.lexemesAt path)) : path <+: place := by
  obtain ⟨x,inside,same⟩ := List.mem_filterMap.mp member
  have within := Expr.isPrefix_lexemesAt inside
  rw [atomPath?] at same
  split at same
  · rwa [Option.some.inj same] at within
  · cases same

end Lexeme

namespace Expr

theorem nodup_blocksAt (path : List Nat) (wrap : Bool) {es : List Expr}
    (each : ∀ e ∈ es, ∀ path, (Lexeme.atomPaths (e.lexemesAt path)).Nodup) (index : Nat) :
    ((blocksAt path wrap index es).flatMap Lexeme.atomPaths).Nodup := by
  induction es generalizing index with
  | nil => exact List.nodup_nil
  | cons e es ih =>
    obtain ⟨first,rest⟩ := List.forall_mem_cons.mp each
    rw [blocksAt]
    split
    · exact ih rest _
    · rw [List.flatMap_cons,Lexeme.atomPaths_wrapped,List.nodup_append]
      refine ⟨first _,ih rest _,?_⟩
      intro place here place' later same
      subst same
      obtain ⟨block,found,inside⟩ := List.mem_flatMap.mp later
      obtain ⟨i,e',-,-,rfl⟩ := mem_blocksAt found
      rw [Lexeme.atomPaths_wrapped] at inside
      obtain ⟨tail,rfl⟩ := Lexeme.isPrefix_of_mem_atomPaths here
      have within := Lexeme.isPrefix_of_mem_atomPaths inside
      rw [List.append_assoc] at within
      have equal := index_eq_of_isPrefix within
      omega

/-- No two atoms stand at one position. -/
theorem nodup_atomPaths (e : Expr) (path : List Nat) :
    (Lexeme.atomPaths (e.lexemesAt path)).Nodup := by
  induction e using Expr.induction generalizing path with
  | join c members ih =>
    rw [lexemesAt_expr,Lexeme.atomPaths_joined]
    exact nodup_blocksAt path _ ih 0
  | not inner ih =>
    rw [lexemesAt]
    split
    · exact List.nodup_nil
    · have inside := ih (path ++ [0])
      rwa [← Lexeme.atomPaths_wrapped path true] at inside
  | leaf e leaf =>
    rw [lexemesAt_leaf leaf]
    exact List.pairwise_singleton _ path

end Expr

end ParamSql
