import ParamSql.Proofs.Supplied

/-! A condition as an expression, and a group as the AND of its members. Main statement: group and
expression are empty together, compile to the same and write the same. -/
namespace ParamSql

def Condition.toExpr : Condition → Expr
  | .raw sql args => .template sql args
  | .expr e => e

def ConditionGroup.toExpr (g : ConditionGroup) : Expr := .and (g.members.map (·.toExpr))

namespace Condition

theorem isEmpty_toExpr (c : Condition) : c.toExpr.isEmpty = c.isEmpty := by
  cases c <;> rfl

theorem isCompound_toExpr (c : Condition) : c.toExpr.isCompound = c.isCompound := by
  cases c <;> rfl

theorem writeTo_toExpr (d : Dialect) (c : Condition) (out : Fragment) :
    c.toExpr.writeTo d out = c.writeTo d out := by
  cases c <;> rfl

theorem supplied_toExpr (c : Condition) : c.toExpr.supplied = c.supplied := by
  cases c <;> rfl

theorem mapValues_toExpr (φ : Value → Value) (c : Condition) :
    (c.mapValues φ).toExpr = c.toExpr.mapValues φ := by
  cases c <;> rfl

end Condition

namespace ConditionGroup

theorem allEmpty_map_toExpr (cs : List Condition) :
    Expr.allEmpty (cs.map (·.toExpr)) = cs.all (·.isEmpty) := by
  induction cs with
  | nil => rfl
  | cons c cs ih => rw [List.map_cons,Expr.allEmpty,c.isEmpty_toExpr,ih,List.all_cons]

theorem isEmpty_toExpr (g : ConditionGroup) : g.toExpr.isEmpty = g.isEmpty := by
  rw [toExpr,Expr.isEmpty,allEmpty_map_toExpr,isEmpty]

theorem hasSiblings_map_toExpr (cs : List Condition) :
    Expr.hasSiblings (cs.map (·.toExpr)) = decide (1 < (cs.filter (!·.isEmpty)).length) := by
  rw [Expr.hasSiblings,List.filter_map,List.length_map]
  congr 4
  funext c
  rw [Function.comp_apply,c.isEmpty_toExpr]

theorem writeJoined_map_toExpr (d : Dialect) (wrap first : Bool) (cs : List Condition)
    (out : Fragment) :
    Expr.writeJoined d " AND " wrap first (cs.map (·.toExpr)) out = writeJoined d wrap first cs out := by
  induction cs generalizing first out with
  | nil => rfl
  | cons c cs ih =>
    rw [List.map_cons,Expr.writeJoined,writeJoined,c.isEmpty_toExpr,c.isCompound_toExpr]
    simp only [c.writeTo_toExpr,ih]

theorem writeTo_toExpr (d : Dialect) (g : ConditionGroup) (out : Fragment) :
    g.toExpr.writeTo d out = g.writeTo d out := by
  rw [toExpr,Expr.writeTo,hasSiblings_map_toExpr,writeJoined_map_toExpr,writeTo]

theorem suppliedAll_map_toExpr (cs : List Condition) :
    Expr.suppliedAll (cs.map (·.toExpr)) = cs.flatMap (·.supplied) := by
  induction cs with
  | nil => rfl
  | cons c cs ih => rw [List.map_cons,Expr.suppliedAll,c.supplied_toExpr,ih,List.flatMap_cons]

theorem supplied_toExpr (g : ConditionGroup) : g.toExpr.supplied = g.supplied := by
  rw [toExpr,Expr.supplied,suppliedAll_map_toExpr,supplied]

theorem mapValues_toExpr (φ : Value → Value) (g : ConditionGroup) :
    (g.mapValues φ).toExpr = g.toExpr.mapValues φ := by
  have mapped (cs : List Condition) : (cs.map (·.mapValues φ)).map (·.toExpr) =
      Expr.mapAll φ (cs.map (·.toExpr)) := by
    induction cs with
    | nil => rfl
    | cons c cs ih =>
      rw [List.map_cons,List.map_cons,ih,c.mapValues_toExpr,List.map_cons,Expr.mapAll]
  rw [toExpr,mapValues,mapped,toExpr,Expr.mapValues]

theorem foldl_push (g : ConditionGroup) (conditions : List Condition) :
    conditions.foldl push g = ⟨g.members ++ conditions⟩ := by
  induction conditions generalizing g with
  | nil => simp
  | cons c conditions ih => rw [List.foldl_cons,ih,push,List.append_assoc,List.singleton_append]

/-- Whatever conditions are pushed, the group is the AND of them, alone and behind other text. -/
theorem pushed_compile_as_and (conditions : List Condition) (d : Dialect) :
    let group := conditions.foldl push empty
    let joined := Expr.and (conditions.map (·.toExpr))
    group.isEmpty = joined.isEmpty ∧ group.compile d = joined.compile d ∧
      ∀ out, group.writeTo d out = joined.writeTo d out := by
  intro group joined
  have same : joined = group.toExpr := by
    rw [toExpr,show group = ⟨[] ++ conditions⟩ from foldl_push empty conditions,List.nil_append]
  rw [same,isEmpty_toExpr,compile,Expr.compile,writeTo_toExpr]
  exact ⟨rfl,rfl,fun out => (writeTo_toExpr d group out).symm⟩

end ConditionGroup

end ParamSql
