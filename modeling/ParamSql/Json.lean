import ParamSql.Double
import ParamSql.KeyMap

/-! JSON documents. The members of an object ascend by name and a repeated name keeps its last
value, so that equal documents are the same value. -/
namespace ParamSql

inductive Json where
  | null
  | bool (b : Bool)
  | int (n : Int)
  | float (x : Double)
  | string (s : String)
  | array (items : List Json)
  | object (members : List (String × Json))
  deriving Inhabited

namespace Json

def ofMembers (members : List (String × Json)) : Json :=
  .object (members.foldl (fun m e => putEntry e.1 e.2 m) [])

/-- The value of a member, `none` also for what is no object. -/
def member? (key : String) : Json → Option Json
  | .object members => valueAt? key members
  | _ => none

mutual
def decEq (a b : Json) : Decidable (a = b) :=
  if h : a.ctorIdx = b.ctorIdx then
    match a,b,h with
    | .null, .null, _ => isTrue rfl
    | .bool a, .bool b, _ => decidable_of_iff (a = b) (by simp)
    | .int a, .int b, _ => decidable_of_iff (a = b) (by simp)
    | .float a, .float b, _ => decidable_of_iff (a = b) (by simp)
    | .string a, .string b, _ => decidable_of_iff (a = b) (by simp)
    | .array a, .array b, _ => have := decEqItems a b; decidable_of_iff (a = b) (by simp)
    | .object a, .object b, _ => have := decEqMembers a b; decidable_of_iff (a = b) (by simp)
  else isFalse fun e => h (e ▸ rfl)

def decEqItems : (a b : List Json) → Decidable (a = b)
  | [], [] => isTrue rfl
  | [], _ :: _ | _ :: _, [] => isFalse nofun
  | a :: as, b :: bs =>
    have := decEq a b
    have := decEqItems as bs
    decidable_of_iff (a = b ∧ as = bs) (by simp)

def decEqMembers : (a b : List (String × Json)) → Decidable (a = b)
  | [], [] => isTrue rfl
  | [], _ :: _ | _ :: _, [] => isFalse nofun
  | (k,a) :: as, (l,b) :: bs =>
    have := decEq a b
    have := decEqMembers as bs
    decidable_of_iff ((k = l ∧ a = b) ∧ as = bs) (by simp)
end

instance : DecidableEq Json := decEq

end Json

end ParamSql
