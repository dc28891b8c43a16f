import ParamSql.Text.Blank

/-! The SQL dialects. They differ in the placeholder of a bound argument, in the mark that
encloses an identifier, and in a few clauses.

| dialect  | placeholder  | identifier |
|----------|--------------|------------|
| postgres | `$1`, `$2` … | `"name"`   |
| sqlite   | `?`          | `"name"`   |
| mysql    | `?`          | `` `name` ``| -/
namespace ParamSql

inductive Dialect where
  | postgres
  | sqlite
  | mysql
  deriving DecidableEq, Repr, Inhabited

namespace Dialect

def all : List Dialect := [postgres,sqlite,mysql]

def name : Dialect → String
  | postgres => "postgres"
  | sqlite => "sqlite"
  | mysql => "mysql"

/-- The dialect of a driver name. Blank characters around it and the case of ASCII letters do
not matter. -/
def ofDriver? (driver : String) : Option Dialect :=
  match String.ofList ((Text.trim driver.toList).map Char.toLower) with
  | "postgres" | "postgresql" | "pg" | "pgx" | "tokio-postgres" => some postgres
  | "sqlite" | "sqlite3" => some sqlite
  | "mysql" | "mariadb" => some mysql
  | _ => none

def isNumbered : Dialect → Bool
  | postgres => true
  | sqlite | mysql => false

def placeholder (d : Dialect) (position : Nat) : String :=
  if d.isNumbered then "$" ++ position.repr else "?"

def quoteMark : Dialect → Char
  | postgres | sqlite => '\x22'
  | mysql => '\x60'

/-- An identifier between quote marks; a mark inside it is written twice. -/
def quoteChars (d : Dialect) (name : List Char) : List Char :=
  d.quoteMark :: name.flatMap (fun c => if c = d.quoteMark then [c,c] else [c]) ++ [d.quoteMark]

def quote (d : Dialect) (name : String) : String := String.ofList (d.quoteChars name.toList)

/-- Whether INSERT, UPDATE and DELETE can return columns of the rows they write. -/
def hasReturning : Dialect → Bool
  | postgres | sqlite => true
  | mysql => false

/-- The LIMIT that stands for "all rows" where OFFSET is not accepted alone. -/
def unboundedLimit : Dialect → Option String
  | postgres => none
  | sqlite => some "-1"
  | mysql => some "18446744073709551615"

/-- The keywords before a statement whose plan is asked for; `analyze` also runs it. -/
def planKeywords? : Dialect → (analyze : Bool) → Option String
  | postgres, false | mysql, false => some "EXPLAIN "
  | postgres, true | mysql, true => some "EXPLAIN ANALYZE "
  | sqlite, false => some "EXPLAIN QUERY PLAN "
  | sqlite, true => none

end Dialect

end ParamSql
