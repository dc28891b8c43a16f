import ParamSql.Select

/-! The text of SELECT statements. All clauses are written at the end of one fragment, in the order
WITH, select list, FROM, joins, WHERE, GROUP BY, HAVING, ORDER BY, LIMIT and OFFSET. With set
operations every member stands in parentheses and the WITH clause comes before all of them. -/
namespace ParamSql

def JoinKind.keyword : JoinKind → String
  | inner => " INNER JOIN "
  | left => " LEFT JOIN "
  | right => " RIGHT JOIN "
  | full => " FULL JOIN "
  | cross => " CROSS JOIN "

def SetOp.keyword : SetOp → String
  | union => " UNION "
  | unionAll => " UNION ALL "
  | intersect => " INTERSECT "
  | except => " EXCEPT "

/-- A cross join has no ON, nor has a join whose condition contributes nothing. -/
def Join.writeTo (d : Dialect) (j : Join) (out : Fragment) : Fragment :=
  let out := (out.text j.kind.keyword).text (Identifier.table d j.table)
  match j.on with
  | some c => if j.kind = .cross || c.isEmpty then out else c.writeTo d (out.text " ON ")
  | none => out

namespace Select

def writeJoins (d : Dialect) : List Join → Fragment → Fragment
  | [], out => out
  | j :: js, out => writeJoins d js (j.writeTo d out)

def writeExprs : (first : Bool) → List (String × List Value) → Fragment → Fragment
  | _, [], out => out
  | first, (sql,args) :: exprs, out =>
    writeExprs false exprs ((if first then out else out.text ", ").fill sql args)

def writeList (d : Dialect) (columns : List String) (exprs : List (String × List Value))
    (out : Fragment) : Fragment :=
  if columns.isEmpty && exprs.isEmpty then out.text "*"
  else
    writeExprs columns.isEmpty exprs
      (out.text (String.intercalate ", " (columns.map (Identifier.column d))))

def writeGrouping (d : Dialect) (columns : List String) (out : Fragment) : Fragment :=
  if columns.isEmpty then out
  else (out.text " GROUP BY ").text (String.intercalate ", " (columns.map (Identifier.column d)))

def writeOrdering (d : Dialect) (entries : List String) (out : Fragment) : Fragment :=
  let items := entries.filterMap (Identifier.orderItem? d)
  if items.isEmpty then out else (out.text " ORDER BY ").text (String.intercalate ", " items)

def writeLimit (d : Dialect) (limit offset : Option UInt64) (out : Fragment) : Fragment :=
  let out := match limit,offset with
    | some n, _ => out.text (" LIMIT " ++ n.toNat.repr)
    | none, some _ =>
      match d.unboundedLimit with
      | some unbounded => (out.text " LIMIT ").text unbounded
      | none => out
    | none, none => out
  match offset with
  | some n => out.text (" OFFSET " ++ n.toNat.repr)
  | none => out

def writeConditions (d : Dialect) (joins : List Join) (conditions : ConditionGroup)
    (grouping : List String) (groupConditions : ConditionGroup) (out : Fragment) : Fragment :=
  groupConditions.writeClause " HAVING " d
    (writeGrouping d grouping (conditions.writeClause " WHERE " d (writeJoins d joins out)))

def writeCteHead (d : Dialect) (name : String) (columns : List String) (out : Fragment) :
    Fragment :=
  let out := out.ident d name
  let out := if columns.isEmpty then out else ((out.text " (").idents d columns).text ")"
  out.text " AS ("

def withKeywords (ctes : List (Cte Select)) : String :=
  if ctes.isEmpty then "" else if ctes.any (·.isRecursive) then "WITH RECURSIVE " else "WITH "

mutual
def writeTo (d : Dialect) : Select → Fragment → Except Error Fragment
  | ⟨ctes,columns,exprs,isDistinct,source,joins,conditions,grouping,groupConditions,ordering,limit,
      offset,combined,misuse⟩, out =>
    match misuse with
    | some misuse => .error (.validation misuse)
    | none => do
      let out ← writeCtes d true ctes (out.text (withKeywords ctes))
      let out := if ctes.isEmpty then out else out.text " "
      let out := if combined.isEmpty then out else out.text "("
      let out := out.text (if isDistinct then "SELECT DISTINCT " else "SELECT ")
      let out ← writeSource d source (writeList d columns exprs out)
      let out := writeConditions d joins conditions grouping groupConditions out
      let out := writeLimit d limit offset (writeOrdering d ordering out)
      let out := if combined.isEmpty then out else out.text ")"
      writeCombined d combined out

def writeCtes (d : Dialect) : (first : Bool) → List (Cte Select) → Fragment → Except Error Fragment
  | _, [], out => .ok out
  | first, ⟨name,columns,query,_⟩ :: ctes, out => do
    let out := writeCteHead d name columns (if first then out else out.text ", ")
    let out ← writeTo d query out
    writeCtes d false ctes (out.text ")")

def writeSource (d : Dialect) : Option (Source Select) → Fragment → Except Error Fragment
  | none, out => .ok out
  | some (.table name), out => .ok ((out.text " FROM ").text (Identifier.table d name))
  | some (.subquery query label), out => do
    let out ← writeTo d query (out.text " FROM (")
    return (out.text ") AS ").ident d label

def writeCombined (d : Dialect) : List (SetOp × Select) → Fragment → Except Error Fragment
  | [], out => .ok out
  | (op,query) :: rest, out => do
    let out ← writeTo d query ((out.text op.keyword).text "(")
    writeCombined d rest (out.text ")")
end

def build (q : Select) (d : Dialect) : Except Error Statement := do
  let out ← q.writeTo d .empty
  out.build d

/-- Whether a count has to count the rows of the whole statement as a subquery. -/
def countsSubquery (q : Select) : Bool :=
  q.isDistinct || !q.grouping.isEmpty || !q.combined.isEmpty

/-- Writes the count of the rows, whatever their order, LIMIT and OFFSET. -/
def writeCount (d : Dialect) (q : Select) (out : Fragment) : Except Error Fragment :=
  match q.misuse with
  | some misuse => .error (.validation misuse)
  | none => do
    let out ← writeCtes d true q.ctes (out.text (withKeywords q.ctes))
    let out := if q.ctes.isEmpty then out else out.text " "
    if q.countsSubquery then
      let rows := { q with ctes := [], ordering := [], limit := none, offset := none }
      let out ← rows.writeTo d (out.text "SELECT COUNT(*) FROM (")
      return (out.text ") AS ").ident d "count_subquery"
    else
      let out ← writeSource d q.source (out.text "SELECT COUNT(*)")
      return writeConditions d q.joins q.conditions q.grouping q.groupConditions out

def buildCount (q : Select) (d : Dialect) : Except Error Statement := do
  let out ← q.writeCount d .empty
  out.build d

end Select

end ParamSql
