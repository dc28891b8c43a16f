import ParamSql.Proofs.Condition
import Mathlib.Data.List.Forall2

/-! Expressions that contribute nothing. The writers see only the members of an AND, an OR or a group
that contribute, so one that does not can be put among them anywhere. Main statement: an expression
with such a member somewhere inside takes the place of the one without it wherever it is written. -/
namespace ParamSql

theorem isEmpty_congr {α β : Type} {R : α → β → Prop} {xs : List α} {ys : List β}
    (alike : List.Forall₂ R xs ys) : xs.isEmpty = ys.isEmpty := by
  cases alike <;> rfl

theorem rel_or {α β : Type} {R : α → β → Prop} {a b : Option α} {a' b' : Option β}
    (alike : Option.Rel R a a') (otherwise : Option.Rel R b b') : Option.Rel R (a.or b) (a'.or b') := by
  cases alike with
  | none => exact otherwise
  | some same => exact .some same

namespace Expr

/-- No writer tells two expressions apart. -/
structure Interchangeable (e f : Expr) : Prop where
  isEmpty : e.isEmpty = f.isEmpty
  isCompound : e.isCompound = f.isCompound
  writeTo : ∀ d out, e.writeTo d out = f.writeTo d out

theorem Interchangeable.refl (e : Expr) : e.Interchangeable e := ⟨rfl,rfl,fun _ _ => rfl⟩

/-- The members that contribute. -/
def live (es : List Expr) : List Expr := es.filter (!·.isEmpty)

/-- Lists of members that contribute the same. -/
def MembersAlike (es fs : List Expr) : Prop := List.Forall₂ Interchangeable (live es) (live fs)

theorem writeJoined_live (d : Dialect) (keyword : String) (wrap first : Bool) (es : List Expr)
    (out : Fragment) :
    writeJoined d keyword wrap first (live es) out = writeJoined d keyword wrap first es out := by
  induction es generalizing first out with
  | nil => rfl
  | cons e es ih =>
    rw [live] at ih ⊢
    cases empty : e.isEmpty with
    | true => rw [List.filter_cons_of_neg (by simp [empty]),ih,writeJoined,if_pos empty]
    | false =>
      rw [List.filter_cons_of_pos (by simp [empty]),writeJoined,writeJoined,empty]
      simp only [Bool.false_eq_true,if_false,ih]

theorem allEmpty_iff (es : List Expr) : allEmpty es = (live es).isEmpty := by
  induction es with
  | nil => rfl
  | cons e es ih =>
    rw [allEmpty,ih,live,live,List.filter_cons]
    cases e.isEmpty <;> rfl

theorem writeJoined_congr (d : Dialect) (keyword : String) (wrap first : Bool) {es fs : List Expr}
    (alike : List.Forall₂ Interchangeable es fs) (out : Fragment) :
    writeJoined d keyword wrap first es out = writeJoined d keyword wrap first fs out := by
  induction alike generalizing first out with
  | nil => rfl
  | cons same _ ih =>
    rw [writeJoined,writeJoined,same.isEmpty,same.isCompound]
    simp only [same.writeTo,ih]

namespace MembersAlike

variable {es fs : List Expr}

theorem allEmpty (alike : MembersAlike es fs) : allEmpty es = allEmpty fs := by
  rw [allEmpty_iff,allEmpty_iff]
  exact isEmpty_congr alike

theorem writeJoined (alike : MembersAlike es fs) (d : Dialect) (keyword : String) (out : Fragment) :
    Expr.writeJoined d keyword (hasSiblings es) true es out =
      Expr.writeJoined d keyword (hasSiblings fs) true fs out := by
  have siblings : hasSiblings es = hasSiblings fs := by
    rw [hasSiblings,hasSiblings]
    exact congrArg (fun n => decide (1 < n)) alike.length_eq
  rw [← writeJoined_live,siblings,writeJoined_congr d keyword _ true alike,writeJoined_live]

theorem append {gs hs : List Expr} (first : MembersAlike es fs) (second : MembersAlike gs hs) :
    MembersAlike (es ++ gs) (fs ++ hs) := by
  rw [MembersAlike,live,live,List.filter_append,List.filter_append]
  exact List.rel_append first second

theorem refl (es : List Expr) : MembersAlike es es := List.forall₂_same.mpr fun e _ => .refl e

theorem single {e f : Expr} (same : e.Interchangeable f) : MembersAlike [e] [f] := by
  rw [MembersAlike,live,live,List.filter_singleton,List.filter_singleton,same.isEmpty]
  cases f.isEmpty with
  | true => exact .nil
  | false => exact .cons same .nil

/-- A member that contributes nothing does not count. -/
theorem absent {x : Expr} (empty : x.isEmpty) : MembersAlike [] [x] := by
  rw [MembersAlike,live,live,List.filter_singleton,empty]
  exact .nil

end MembersAlike

namespace Interchangeable

variable {es fs : List Expr}

theorem and (alike : MembersAlike es fs) : (Expr.and es).Interchangeable (.and fs) where
  isEmpty := alike.allEmpty
  isCompound := rfl
  writeTo d out := by
    rw [Expr.writeTo,Expr.writeTo]
    exact alike.writeJoined d " AND " out

theorem or (alike : MembersAlike es fs) : (Expr.or es).Interchangeable (.or fs) where
  isEmpty := alike.allEmpty
  isCompound := rfl
  writeTo d out := by
    rw [Expr.writeTo,Expr.writeTo]
    exact alike.writeJoined d " OR " out

theorem not {e f : Expr} (same : e.Interchangeable f) : (Expr.not e).Interchangeable (.not f) where
  isEmpty := same.isEmpty
  isCompound := rfl
  writeTo d out := by
    rw [Expr.writeTo,Expr.writeTo,same.isEmpty,same.writeTo]

end Interchangeable

/-- `x` put among the members of an AND or OR, here or further inside. -/
inductive Inserted (x : Expr) : Expr → Expr → Prop
  | and (before after : List Expr) : Inserted x (.and (before ++ after)) (.and (before ++ x :: after))
  | or (before after : List Expr) : Inserted x (.or (before ++ after)) (.or (before ++ x :: after))
  | insideAnd (before after : List Expr) {e f : Expr} (inside : Inserted x e f) :
    Inserted x (.and (before ++ e :: after)) (.and (before ++ f :: after))
  | insideOr (before after : List Expr) {e f : Expr} (inside : Inserted x e f) :
    Inserted x (.or (before ++ e :: after)) (.or (before ++ f :: after))
  | insideNot {e f : Expr} (inside : Inserted x e f) : Inserted x (.not e) (.not f)

theorem Inserted.interchangeable {x e f : Expr} (empty : x.isEmpty) (inserted : Inserted x e f) :
    e.Interchangeable f := by
  have added (before after : List Expr) : MembersAlike (before ++ after) (before ++ x :: after) :=
    (MembersAlike.refl before).append ((MembersAlike.absent empty).append (.refl after))
  have changed (before after : List Expr) {e f : Expr} (same : e.Interchangeable f) :
      MembersAlike (before ++ e :: after) (before ++ f :: after) :=
    (MembersAlike.refl before).append ((MembersAlike.single same).append (.refl after))
  induction inserted with
  | and before after => exact .and (added before after)
  | or before after => exact .or (added before after)
  | insideAnd before after _ same => exact .and (changed before after same)
  | insideOr before after _ same => exact .or (changed before after same)
  | insideNot _ same => exact same.not

end Expr

/-! ## Groups of conditions -/

/-- No writer tells two groups apart. -/
structure ConditionGroup.Interchangeable (g h : ConditionGroup) : Prop where
  isEmpty : g.isEmpty = h.isEmpty
  writeTo : ∀ d out, g.writeTo d out = h.writeTo d out

def Condition.MembersAlike (cs ds : List Condition) : Prop :=
  Expr.MembersAlike (cs.map (·.toExpr)) (ds.map (·.toExpr))

namespace Condition.MembersAlike

variable {cs ds : List Condition}

theorem refl (cs : List Condition) : Condition.MembersAlike cs cs := Expr.MembersAlike.refl _

theorem append {cs' ds' : List Condition} (alike : Condition.MembersAlike cs ds)
    (more : Condition.MembersAlike cs' ds') : Condition.MembersAlike (cs ++ cs') (ds ++ ds') := by
  rw [Condition.MembersAlike,List.map_append,List.map_append]
  exact Expr.MembersAlike.append alike more

theorem added (cs : List Condition) {x : Expr} (empty : x.isEmpty) :
    Condition.MembersAlike cs (cs ++ [.expr x]) := by
  have absent : Condition.MembersAlike [] [.expr x] := Expr.MembersAlike.absent empty
  simpa using (refl cs).append absent

theorem interchangeable (alike : Condition.MembersAlike cs ds) :
    (ConditionGroup.mk cs).Interchangeable ⟨ds⟩ := by
  have joined : (ConditionGroup.mk cs).toExpr.Interchangeable (ConditionGroup.mk ds).toExpr :=
    .and alike
  refine ⟨?_,fun d out => ?_⟩
  · rw [← ConditionGroup.isEmpty_toExpr,joined.isEmpty,ConditionGroup.isEmpty_toExpr]
  · rw [← ConditionGroup.writeTo_toExpr,joined.writeTo,ConditionGroup.writeTo_toExpr]

end Condition.MembersAlike

theorem ConditionGroup.Interchangeable.writeClause {g h : ConditionGroup} (alike : g.Interchangeable h)
    (keyword : String) (d : Dialect) (out : Fragment) :
    g.writeClause keyword d out = h.writeClause keyword d out := by
  rw [ConditionGroup.writeClause,ConditionGroup.writeClause,alike.isEmpty,alike.writeTo]

end ParamSql
