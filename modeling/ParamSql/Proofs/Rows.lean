import ParamSql.Select

/-! The rows of a SELECT. A database reads what is free text: tables, joins, conditions, columns and
expressions; the clauses have the meaning that they have in SQL. Bags of rows are lists. A query with
GROUP BY makes one row of each group; with HAVING or an aggregate and no GROUP BY all rows are one
group, even if there are none; else each row stands alone. -/
namespace ParamSql

/-- What stands in a select list. -/
inductive Item where
  | star
  | column (name : String)
  | expr (sql : String) (args : List Value)
  deriving DecidableEq

namespace Item

def countRows : Item := .expr "COUNT(*)" []

def listed (columns : List String) (exprs : List (String × List Value)) : List Item :=
  if columns.isEmpty && exprs.isEmpty then [.star]
  else columns.map .column ++ exprs.map fun e => .expr e.1 e.2

end Item

def Select.items (q : Select) : List Item := Item.listed q.columns q.exprs

abbrev Tuple := List Value

abbrev Bag := List Tuple

/-- The readings of free text over environments `ε`, which say what the names of WITH queries stand
for, and rows `ρ` that clauses see before the select list. -/
structure Database (ε ρ : Type) where
  /-- The row of a SELECT without FROM. -/
  bare : ρ
  table : ε → String → List ρ
  labelled : Select → String → Tuple → ρ
  joined : ε → Join → List ρ → List ρ
  /-- Gives a name to the rows of a query, which may use the name itself if the list of WITH queries
  is recursive. -/
  define : (recursive : Bool) → String → List String → (ε → Bag) → ε → ε
  holds : ε → ConditionGroup → ρ → Bool
  holdsOfGroup : ε → ConditionGroup → List ρ → Bool
  groupKey : ε → String → ρ → Value
  isAggregate : Item → Bool
  isSetReturning : Item → Bool
  /-- The cells of an item for a group of rows, or for a row that stands alone. -/
  cells : ε → Item → List ρ → Tuple
  /-- The tuples of a select list with a set-returning item. -/
  expanded : ε → List Item → List ρ → Bag
  alike : Tuple → Tuple → Bool
  arranged : ε → List String → List (List ρ × Tuple) → List (List ρ × Tuple)
  isAggregate_countRows : isAggregate .countRows
  isSetReturning_countRows : isSetReturning .countRows = false
  cells_countRows : ∀ env group, cells env .countRows group = [.int (Int64.ofNat group.length)]

namespace Database

variable {ε ρ : Type} (db : Database ε ρ) (env : ε)

def filtered (conditions : ConditionGroup) (rows : List ρ) : List ρ :=
  if conditions.isEmpty then rows else rows.filter (db.holds env conditions)

def having (conditions : ConditionGroup) (groups : List (List ρ)) : List (List ρ) :=
  if conditions.isEmpty then groups else groups.filter (db.holdsOfGroup env conditions)

def partition (columns : List String) (rows : List ρ) : List (List ρ) :=
  let key (row : ρ) := columns.map (db.groupKey env · row)
  (rows.map key).eraseDups.map fun k => rows.filter (key · == k)

def groups (items : List Item) (columns : List String) (conditions : ConditionGroup)
    (rows : List ρ) : List (List ρ) :=
  if !columns.isEmpty then db.having env conditions (db.partition env columns rows)
  else if !conditions.isEmpty || items.any db.isAggregate then db.having env conditions [rows]
  else rows.map ([·])

def tuples (items : List Item) (group : List ρ) : Bag :=
  if items.any db.isSetReturning then db.expanded env items group
  else [items.flatMap (db.cells env · group)]

def selected (items : List Item) (isDistinct : Bool) (ordering : List String)
    (groups : List (List ρ)) : Bag :=
  let pairs := groups.flatMap fun group => (db.tuples env items group).map (group,·)
  let pairs := if isDistinct then pairs.eraseDupsBy (fun a b => db.alike a.2 b.2) else pairs
  (if ordering.isEmpty then pairs else db.arranged env ordering pairs).map (·.2)

def page (limit offset : Option UInt64) (rows : Bag) : Bag :=
  let rows := rows.drop (offset.elim 0 (·.toNat))
  limit.elim rows fun n => rows.take n.toNat

def merged (op : SetOp) (left right : Bag) : Bag :=
  match op with
  | .unionAll => left ++ right
  | .union => (left ++ right).eraseDupsBy db.alike
  | .intersect => (left.eraseDupsBy db.alike).filter fun row => right.any (db.alike row)
  | .except => (left.eraseDupsBy db.alike).filter fun row => !right.any (db.alike row)

/-- Combines members from left to right, except that INTERSECT binds closer: `pending` waits for the
end of a chain of them. -/
def combinedFrom (pending : Option (SetOp × Bag)) (chain : Bag) : List (SetOp × Bag) → Bag
  | [] => pending.elim chain fun p => db.merged p.1 p.2 chain
  | (.intersect,rows) :: rest => combinedFrom pending (db.merged .intersect chain rows) rest
  | (op,rows) :: rest =>
    combinedFrom (some (op,pending.elim chain fun p => db.merged p.1 p.2 chain)) rows rest

mutual
def rows : Select → ε → Bag
  | ⟨ctes,columns,exprs,isDistinct,source,joins,conditions,grouping,groupConditions,ordering,limit,
      offset,combined,_⟩, env =>
    let env := defined (ctes.any (·.isRecursive)) ctes env
    let items := Item.listed columns exprs
    let table := joins.foldl (fun rows j => db.joined env j rows) (sourceRows source env)
    let groups := db.groups env items grouping groupConditions (db.filtered env conditions table)
    let first := page limit offset (db.selected env items isDistinct ordering groups)
    db.combinedFrom none first (combinedRows combined env)

def defined (recursive : Bool) : List (Cte Select) → ε → ε
  | [], env => env
  | ⟨name,columns,query,_⟩ :: ctes, env =>
    defined recursive ctes (db.define recursive name columns (fun env => rows query env) env)

def sourceRows : Option (Source Select) → ε → List ρ
  | none, _ => [db.bare]
  | some (.table name), env => db.table env name
  | some (.subquery query label), env => (rows query env).map (db.labelled query label)

def combinedRows : List (SetOp × Select) → ε → List (SetOp × Bag)
  | [], _ => []
  | (op,query) :: rest, env => (op,rows query env) :: combinedRows rest env
end

end Database

end ParamSql
