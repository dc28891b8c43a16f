import ParamSql.Fragment
import ParamSql.KeyMap

/-! SQL with named parameters such as `:id`. A colon starts a name if a letter or an underscore
follows; a double colon does not, and nothing does inside quotes, where a quote is written twice. -/
namespace ParamSql

structure NamedSql where
  sql : String
  params : KeyMap Value
  deriving DecidableEq, Inhabited

namespace NamedSql

inductive Token where
  | char (c : Char)
  | param (name : String)
  deriving DecidableEq, Repr, Inhabited

def isNameStart (c : Char) : Bool := c = '_' || c.isAlpha

def isNameChar (c : Char) : Bool := c = '_' || c.isAlphanum

/-- Reads the text outside quotes, or inside those of a mark. The first `skip` characters belong to
a name that has been read. -/
def scanFrom : (quote : Option Char) → (skip : Nat) → List Char → List Token
  | _, _, [] => []
  | quote, skip + 1, _ :: cs => scanFrom quote skip cs
  | some mark, 0, c :: cs =>
    if c = mark then
      match cs with
      | c' :: cs' =>
        if c' = mark then .char c :: .char c' :: scanFrom (some mark) 0 cs'
        else .char c :: scanFrom none 0 (c' :: cs')
      | [] => [.char c]
    else .char c :: scanFrom (some mark) 0 cs
  | none, 0, c :: cs =>
    if c = '\x27' || c = '\x22' then .char c :: scanFrom (some c) 0 cs
    else if c = ':' then
      match cs with
      | c' :: cs' =>
        if c' = ':' then .char c :: .char c' :: scanFrom none 0 cs'
        else if isNameStart c' then
          let name := c' :: cs'.takeWhile isNameChar
          .param (String.ofList name) :: scanFrom none name.length (c' :: cs')
        else .char c :: scanFrom none 0 (c' :: cs')
      | [] => [.char c]
    else .char c :: scanFrom none 0 cs

def tokens (q : NamedSql) : List Token := scanFrom none 0 q.sql.toList

def ofSql (sql : String) : NamedSql := ⟨sql,.empty⟩

def bind (q : NamedSql) (name : String) (value : Value) : NamedSql :=
  { q with params := q.params.insert name value }

def bindAll (q : NamedSql) (values : KeyMap Value) : NamedSql :=
  { q with params := q.params.union values }

/-- The names in order of appearance, repeats included. -/
def names (q : NamedSql) : List String :=
  q.tokens.filterMap fun token => match token with
    | .char _ => none
    | .param name => some name

/-- Writes the text with a slot for each name; the first name without value is an error. -/
def writeTokens (params : KeyMap Value) : List Token → Fragment → Except Error Fragment
  | [], out => .ok out
  | .char c :: tokens, out => writeTokens params tokens (out.text c.toString)
  | .param name :: tokens, out =>
    match params.get? name with
    | some v => writeTokens params tokens (out.bind v)
    | none => .error (.missingParam name)

def build (q : NamedSql) (d : Dialect) : Except Error Statement := do
  let out ← writeTokens q.params q.tokens .empty
  out.build d

end NamedSql

end ParamSql
