import ParamSql.Condition

/-! SELECT statements under construction. The calls that add a clause return the changed
statement; those that can refuse at once return an error. Template mismatches in conditions and
select expressions are kept, the first of them, and reported by the build. -/
namespace ParamSql

inductive JoinKind where
  | inner
  | left
  | right
  | full
  | cross
  deriving DecidableEq, Repr, Inhabited

/-- The ways to combine the rows of two SELECTs. -/
inductive SetOp where
  | union
  | unionAll
  | intersect
  | except
  deriving DecidableEq, Repr, Inhabited

def SetOp.isUnion : SetOp → Bool
  | union | unionAll => true
  | intersect | except => false

structure Join where
  kind : JoinKind
  table : String
  on : Option Condition
  deriving Inhabited

/-- A common table expression over queries of type `σ`. -/
structure Cte (σ : Type) where
  name : String
  columns : List String
  query : σ
  isRecursive : Bool

inductive Source (σ : Type) where
  | table (name : String)
  | subquery (query : σ) (label : String)

structure Select where
  ctes : List (Cte Select)
  columns : List String
  exprs : List (String × List Value)
  isDistinct : Bool
  source : Option (Source Select)
  joins : List Join
  conditions : ConditionGroup
  grouping : List String
  groupConditions : ConditionGroup
  ordering : List String
  limit : Option UInt64
  offset : Option UInt64
  combined : List (SetOp × Select)
  misuse : Option Misuse

namespace Select

/-- A SELECT of all columns, with no FROM yet. -/
def star : Select where
  ctes := []
  columns := []
  exprs := []
  isDistinct := false
  source := none
  joins := []
  conditions := .empty
  grouping := []
  groupConditions := .empty
  ordering := []
  limit := none
  offset := none
  combined := []
  misuse := none

instance : Inhabited Select := ⟨star⟩

/-- Keeps what a call refused, unless an earlier call was refused. -/
def refuse (q : Select) (misuse : Misuse) : Select := { q with misuse := q.misuse.or (some misuse) }

/-- Blank columns are left out. -/
def addColumns (q : Select) (columns : List String) : Select :=
  { q with columns := q.columns ++ columns.filter (!Text.isBlankText ·) }

def ofColumns (columns : List String) : Select := star.addColumns columns

def addExpr (q : Select) (sql : String) (args : List Value) : Select :=
  match Fragment.mismatch? sql args with
  | some mismatch => q.refuse (.selectMarkers mismatch)
  | none => { q with exprs := q.exprs ++ [(sql,args)] }

def setDistinct (q : Select) (distinct : Bool) : Select := { q with isDistinct := distinct }

def fromTable (q : Select) (table : String) : Select := { q with source := some (.table table) }

def fromTableAs (q : Select) (table label : String) : Select := q.fromTable (table ++ " " ++ label)

def fromSubquery (q : Select) (query : Select) (label : String) : Except Error Select :=
  if Text.isBlankText label then .error (.validation .unnamedSubquery)
  else .ok { q with source := some (.subquery query (Text.trimmed label)) }

def join (q : Select) (kind : JoinKind) (table : String) (on : Option Condition) : Select :=
  let q := { q with joins := q.joins ++ [⟨kind,table,on⟩] }
  match on.bind (·.misuse?) with
  | some misuse => q.refuse (.deferred misuse)
  | none => q

instance : Filterable Select where
  conditions := conditions
  misuse := misuse
  keep q conditions misuse := { q with conditions := conditions, misuse := misuse }
  keep_self q := by cases q; rfl

def groupBy (q : Select) (columns : List String) : Select :=
  { q with grouping := q.grouping ++ columns.filter (!Text.isBlankText ·) }

def having (q : Select) (sql : String) (args : List Value) : Select :=
  match Fragment.mismatch? sql args with
  | some mismatch => q.refuse (.deferred (.markers mismatch))
  | none => { q with groupConditions := q.groupConditions.push (.raw sql args) }

def havingExpr (q : Select) (e : Expr) : Select :=
  { q with groupConditions := q.groupConditions.push (.expr e) }

/-- A blank entry is left out. -/
def orderBy (q : Select) (entry : String) : Select :=
  if Text.isBlankText entry then q else { q with ordering := q.ordering ++ [entry] }

def setLimit (q : Select) (n : UInt64) : Select := { q with limit := some n }

def setOffset (q : Select) (n : UInt64) : Select := { q with offset := some n }

/-- The rows of a page. Pages count from one and page zero is page one; an offset beyond 64 bits
is the largest one. -/
def paginate (q : Select) (page perPage : UInt64) : Select :=
  let offset := (page.toNat - 1) * perPage.toNat
  (q.setLimit perPage).setOffset (UInt64.ofNat (min offset (UInt64.size - 1)))

def addCte (q : Select) (name : String) (columns : List String) (query : Select)
    (isRecursive : Bool) : Except Error Select :=
  if Text.isBlankText name then .error (.validation .unnamedCte)
  else .ok { q with ctes := q.ctes ++ [⟨Text.trimmed name,columns,query,isRecursive⟩] }

/-- A WITH query. -/
def withQuery (q : Select) (name : String) (columns : List String) (query : Select) :
    Except Error Select := q.addCte name columns query false

/-- A recursive WITH query, which has to combine its parts by UNION or UNION ALL. -/
def withRecursive (q : Select) (name : String) (columns : List String) (query : Select) :
    Except Error Select :=
  if query.combined.isEmpty || !query.combined.all (·.1.isUnion) then
    .error (.validation (.recursiveWithoutUnion name))
  else q.addCte name columns query true

/-- Combines with another query; without one, nothing changes. -/
def combine (q : Select) (op : SetOp) (other : Option Select) : Select :=
  match other with
  | some other => { q with combined := q.combined ++ [(op,other)] }
  | none => q

end Select

end ParamSql
