import ParamSql.Expr

/-! Conditions of WHERE, HAVING and ON: a template with its arguments, or an expression. A group
of conditions is joined by AND, with parentheses as in an AND of expressions. -/
namespace ParamSql

inductive Condition where
  | raw (sql : String) (args : List Value)
  | expr (e : Expr)
  deriving Inhabited

namespace Condition

def isEmpty : Condition → Bool
  | .raw sql _ => Text.isBlankText sql
  | .expr e => e.isEmpty

/-- What is wrong with a template. Expressions are looked at only when they are written. -/
def misuse? : Condition → Option Misuse
  | .raw sql args => (Fragment.mismatch? sql args).map .markers
  | .expr _ => none

def isCompound : Condition → Bool
  | .raw .. => true
  | .expr e => e.isCompound

def writeTo (d : Dialect) : Condition → Fragment → Fragment
  | .raw sql args, out => out.fill sql args
  | .expr e, out => e.writeTo d out

end Condition

structure ConditionGroup where
  members : List Condition
  deriving Inhabited

namespace ConditionGroup

def empty : ConditionGroup := ⟨[]⟩

def isEmpty (g : ConditionGroup) : Bool := g.members.all (·.isEmpty)

def push (g : ConditionGroup) (c : Condition) : ConditionGroup := ⟨g.members ++ [c]⟩

def push? (c : Condition) : Change ConditionGroup Unit := do
  if let some misuse := c.misuse? then throw (.validation misuse)
  modify (·.push c)

def writeJoined (d : Dialect) (wrap : Bool) : (first : Bool) → List Condition → Fragment → Fragment
  | _, [], out => out
  | first, c :: cs, out =>
    if c.isEmpty then writeJoined d wrap first cs out
    else
      let out := if first then out else out.text " AND "
      let out :=
        if wrap && c.isCompound then (c.writeTo d (out.text "(")).text ")" else c.writeTo d out
      writeJoined d wrap false cs out

def writeTo (d : Dialect) (g : ConditionGroup) (out : Fragment) : Fragment :=
  writeJoined d (1 < (g.members.filter (!·.isEmpty)).length) true g.members out

def writeClause (keyword : String) (d : Dialect) (g : ConditionGroup) (out : Fragment) : Fragment :=
  if g.isEmpty then out else g.writeTo d (out.text keyword)

def compile (g : ConditionGroup) (d : Dialect) : Except Error Statement :=
  (g.writeTo d .empty).build d

end ConditionGroup

/-- Builders with a WHERE clause. They keep the conditions that they are given, and what is wrong with
those that they refused. -/
class Filterable (β : Type) where
  conditions : β → ConditionGroup
  misuse : β → Option Misuse
  keep : β → ConditionGroup → Option Misuse → β
  keep_self : ∀ b, keep b (conditions b) (misuse b) = b

namespace Filterable

variable {β : Type} [Filterable β]

/-- A condition is checked. One whose markers do not match is left out and reported by the build. -/
def filter (b : β) (c : Condition) : β :=
  match c.misuse? with
  | some refused => keep b (conditions b) ((misuse b).or (some (.deferred refused)))
  | none => keep b ((conditions b).push c) (misuse b)

def filterExpr (b : β) (e : Expr) : β := keep b ((conditions b).push (.expr e)) (misuse b)

def filterRaw (b : β) (sql : String) (args : List Value) : β := filter b (.raw sql args)

def whereEq (b : β) (column : String) (value : Value) : β := filterExpr b (.eq column value)

def whereEqIfGiven (b : β) (column : String) (value : Option Value) : β :=
  match value with
  | some v => whereEq b column v
  | none => b

end Filterable

end ParamSql
