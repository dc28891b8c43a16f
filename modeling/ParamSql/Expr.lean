import ParamSql.Fragment.Template
import ParamSql.Identifier

/-! Boolean expressions. AND and OR leave out members that contribute nothing; of two or more
members that remain, those that hold free text or another AND or OR stand in parentheses. -/
namespace ParamSql

inductive Expr where
  | and (members : List Expr)
  | or (members : List Expr)
  | not (inner : Expr)
  | compare (column op : String) (value : Value)
  | nullCheck (column : String) (isNull : Bool)
  | inList (column : String) (values : List Value) (negated : Bool)
  | between (column : String) (low high : Value) (negated : Bool)
  | template (sql : String) (args : List Value)
  | raw (sql : String)
  | always
  | never
  deriving Inhabited

namespace Expr

def eq (column : String) (value : Value) : Expr := .compare column "=" value

def ne (column : String) (value : Value) : Expr := .compare column "<>" value

def gt (column : String) (value : Value) : Expr := .compare column ">" value

def gte (column : String) (value : Value) : Expr := .compare column ">=" value

def lt (column : String) (value : Value) : Expr := .compare column "<" value

def lte (column : String) (value : Value) : Expr := .compare column "<=" value

def like (column : String) (pattern : Value) : Expr := .compare column "LIKE" pattern

def notLike (column : String) (pattern : Value) : Expr := .compare column "NOT LIKE" pattern

/-- Nothing is in an empty list. -/
def isIn (column : String) (values : List Value) : Expr :=
  if values.isEmpty then .never else .inList column values false

def isNotIn (column : String) (values : List Value) : Expr :=
  if values.isEmpty then .always else .inList column values true

def template? (sql : String) (args : List Value) : Except Error Expr :=
  match Fragment.mismatch? sql args with
  | some mismatch => .error (.validation (.markers mismatch))
  | none => .ok (.template sql args)

mutual
/-- Whether an expression contributes nothing. -/
def isEmpty : Expr → Bool
  | .and members | .or members => allEmpty members
  | .not inner => inner.isEmpty
  | .template sql _ | .raw sql => Text.isBlankText sql
  | _ => false

def allEmpty : List Expr → Bool
  | [] => true
  | e :: es => e.isEmpty && allEmpty es
end

/-- Whether an expression needs parentheses beside others. -/
def isCompound : Expr → Bool
  | .and _ | .or _ | .template .. | .raw _ => true
  | _ => false

def hasSiblings (members : List Expr) : Bool := 1 < (members.filter (!·.isEmpty)).length

mutual
def writeTo (d : Dialect) : Expr → Fragment → Fragment
  | .and members, out => writeJoined d " AND " (hasSiblings members) true members out
  | .or members, out => writeJoined d " OR " (hasSiblings members) true members out
  | .not inner, out =>
    if inner.isEmpty then out else (inner.writeTo d (out.text "NOT (")).text ")"
  | .compare column op value, out =>
    ((((out.text (Identifier.column d column)).text " ").text op).text " ").bind value
  | .nullCheck column isNull, out =>
    (out.text (Identifier.column d column)).text (if isNull then " IS NULL" else " IS NOT NULL")
  | .inList column values negated, out =>
    if values.isEmpty then out.text (if negated then "1=1" else "1=0")
    else
      (((out.text (Identifier.column d column)).text
        (if negated then " NOT IN (" else " IN (")).bindList values).text ")"
  | .between column low high negated, out =>
    ((((out.text (Identifier.column d column)).text
      (if negated then " NOT BETWEEN " else " BETWEEN ")).bind low).text " AND ").bind high
  | .template sql args, out => out.fill sql args
  | .raw sql, out => out.text sql
  | .always, out => out.text "1=1"
  | .never, out => out.text "1=0"

/-- Writes the members that contribute, with a keyword between them. -/
def writeJoined (d : Dialect) (keyword : String) (wrap : Bool) : (first : Bool) → List Expr →
    Fragment → Fragment
  | _, [], out => out
  | first, e :: es, out =>
    if e.isEmpty then writeJoined d keyword wrap first es out
    else
      let out := if first then out else out.text keyword
      let out :=
        if wrap && e.isCompound then (e.writeTo d (out.text "(")).text ")" else e.writeTo d out
      writeJoined d keyword wrap false es out
end

def compile (e : Expr) (d : Dialect) : Except Error Statement := (e.writeTo d .empty).build d

end Expr

end ParamSql
