import ParamSql.Dialect

/-! Identifiers as callers write them. A plain name is quoted part by part; what already looks
like an expression (it has a parenthesis, a quote mark or a blank inside) is kept as it is.

| written     | column      | table reference  |
|-------------|-------------|------------------|
| `*`         | `*`         |                  |
| `u.id`      | `"u"."id"`  | `"u"."id"`       |
| `u.*`       | `"u".*`     |                  |
| `COUNT(*)`  | `COUNT(*)`  | `COUNT(*)`       |
| `users u`   | `users u`   | `"users" AS "u"` | -/
namespace ParamSql.Identifier
open Text

/-- An opening parenthesis or a quote mark of some dialect. -/
def isExpressionMark (c : Char) : Bool := c = '(' || c = '\x22' || c = '\x60'

/-- The parts of a name between its dots, each quoted unless it is a star. -/
def dotted (d : Dialect) (name : List Char) : List Char :=
  ['.'].intercalate
    ((splitOnChar '.' name).map fun part => if part = ['*'] then part else d.quoteChars part)

def columnChars (d : Dialect) (written : List Char) : List Char :=
  let column := trim written
  if column = ['*'] || column.any (fun c => isExpressionMark c || isBlank c) then column
  else if column.isEmpty then []
  else dotted d column

def aliasedTable (d : Dialect) (name label : List Char) : List Char :=
  dotted d name ++ " AS ".toList ++ d.quoteChars label

/-- A table reference: `users`, `public.users`, `users u` or `users AS u`. Any other shape is
kept as it is. -/
def tableChars (d : Dialect) (written : List Char) : List Char :=
  let table := trim written
  if table.any isExpressionMark then table
  else match words table with
    | [] => []
    | [name] => dotted d name
    | [name,label] => aliasedTable d name label
    | [name,keyword,label] =>
      if sameKeyword keyword ['a','s'] then aliasedTable d name label else table
    | _ => table

def direction? (word : List Char) : Option (List Char) :=
  if sameKeyword word "ASC".toList then some "ASC".toList
  else if sameKeyword word "DESC".toList then some "DESC".toList
  else none

/-- An ORDER BY entry: a column and perhaps a direction, which is written in upper case. Of an
entry with a parenthesis only a final direction is rewritten. A blank entry is no entry. -/
def orderChars? (d : Dialect) (written : List Char) : Option (List Char) :=
  let entry := trim written
  if entry.isEmpty then none
  else if entry.contains '(' then
    match splitAtLastBlank? entry with
    | some (head,tail) =>
      match direction? tail with
      | some direction => some (trimEnd head ++ ' ' :: direction)
      | none => some entry
    | none => some entry
  else match words entry with
    | [] => none
    | [column] => some (columnChars d column)
    | column :: next :: _ =>
      match direction? next with
      | some direction => some (columnChars d column ++ ' ' :: direction)
      | none => some (columnChars d column)

def column (d : Dialect) (written : String) : String := String.ofList (columnChars d written.toList)

def table (d : Dialect) (written : String) : String := String.ofList (tableChars d written.toList)

def orderItem? (d : Dialect) (written : String) : Option String :=
  (orderChars? d written.toList).map String.ofList

end ParamSql.Identifier
