import ParamSql.Select.Compile
import ParamSql.Proofs.Fragment

/-! A reference compiler for SELECT statements. It compiles every condition, select expression and
query on its own, with placeholders numbered from one, and joins what it has compiled: numbers that
come second are shifted by the count of the arguments that come first. -/
namespace ParamSql

/-- A character of compiled text, or a placeholder with its number. -/
inductive Mark where
  | char (c : Char)
  | placeholder (number : Nat)
  deriving DecidableEq

namespace Mark

def shift (count : Nat) : Mark → Mark
  | char c => char c
  | placeholder number => placeholder (count + number)

def render (d : Dialect) : Mark → List Char
  | char c => [c]
  | placeholder number => (d.placeholder number).toList

/-- Slots are numbered from left to right, after `count` of them. -/
def number : (count : Nat) → List Symbol → List Mark
  | _, [] => []
  | count, .char c :: word => char c :: number count word
  | count, .slot _ :: word => placeholder (count + 1) :: number (count + 1) word

end Mark

structure Compiled where
  marks : List Mark
  args : List Value
  mismatch : Option MarkerMismatch
  deriving DecidableEq

namespace Compiled

def empty : Compiled := ⟨[],[],none⟩

def text (s : String) : Compiled := ⟨s.toList.map .char,[],none⟩

def ofFragment (f : Fragment) : Compiled := ⟨Mark.number 0 f.word,f.args,f.mismatch⟩

def join (first second : Compiled) : Compiled :=
  ⟨first.marks ++ second.marks.map (·.shift first.args.length),first.args ++ second.args,
    first.mismatch.or second.mismatch⟩

instance : Append Compiled := ⟨join⟩

def concat : List Compiled → Compiled
  | [] => empty
  | part :: parts => part ++ concat parts

def separated (sep : String) : List Compiled → Compiled
  | [] => empty
  | part :: parts => part ++ concat (parts.map (text sep ++ ·))

def build (c : Compiled) (d : Dialect) : Except Error Statement :=
  match c.mismatch with
  | some mismatch => .error (.validation (.markers mismatch))
  | none => .ok ⟨String.ofList (c.marks.flatMap (·.render d)),c.args,none,none⟩

end Compiled

/-! ## Clauses -/

def Condition.compiled (d : Dialect) (c : Condition) : Compiled := .ofFragment (c.writeTo d .empty)

def ConditionGroup.compiled (d : Dialect) (g : ConditionGroup) : Compiled :=
  .ofFragment (g.writeTo d .empty)

def ConditionGroup.compiledClause (keyword : String) (d : Dialect) (g : ConditionGroup) : Compiled :=
  if g.isEmpty then .empty else .text keyword ++ g.compiled d

def Join.compiled (d : Dialect) (j : Join) : Compiled :=
  let on := match j.on with
    | some c => if j.kind = .cross || c.isEmpty then .empty else .text " ON " ++ c.compiled d
    | none => .empty
  .text j.kind.keyword ++ .text (Identifier.table d j.table) ++ on

namespace Select

def compiledList (d : Dialect) (columns : List String) (exprs : List (String × List Value)) :
    Compiled :=
  if columns.isEmpty && exprs.isEmpty then .text "*"
  else .separated ", " (columns.map (fun column => .text (Identifier.column d column)) ++
    exprs.map fun e => .ofFragment (Fragment.empty.fill e.1 e.2))

def compiledGrouping (d : Dialect) (columns : List String) : Compiled :=
  if columns.isEmpty then .empty
  else .text " GROUP BY " ++
    .separated ", " (columns.map fun column => .text (Identifier.column d column))

def compiledOrdering (d : Dialect) (entries : List String) : Compiled :=
  let items := entries.filterMap (Identifier.orderItem? d)
  if items.isEmpty then .empty else .text " ORDER BY " ++ .separated ", " (items.map .text)

def compiledLimit (d : Dialect) (limit offset : Option UInt64) : Compiled :=
  let limited := match limit,offset,d.unboundedLimit with
    | some n,_,_ => .text (" LIMIT " ++ n.toNat.repr)
    | none,some _,some unbounded => .text " LIMIT " ++ .text unbounded
    | none,_,_ => .empty
  limited ++ offset.elim .empty fun n => .text (" OFFSET " ++ n.toNat.repr)

def compiledCteHead (d : Dialect) (name : String) (columns : List String) : Compiled :=
  let listed := if columns.isEmpty then .empty
    else .text " (" ++ .separated ", " (columns.map fun column => .text (d.quote column)) ++ .text ")"
  .text (d.quote name) ++ listed ++ .text " AS ("

/-! ## Queries -/

mutual
def compiled (d : Dialect) : Select → Except Error Compiled
  | ⟨ctes,columns,exprs,isDistinct,source,joins,conditions,grouping,groupConditions,ordering,limit,
      offset,combined,misuse⟩ =>
    match misuse with
    | some misuse => .error (.validation misuse)
    | none => do
      let queries ← compiledCtes d ctes
      let source ← compiledSource d source
      let others ← compiledCombined d combined
      let withClause := .text (withKeywords ctes) ++ .separated ", " queries ++
        if ctes.isEmpty then .empty else .text " "
      let member := .text (if isDistinct then "SELECT DISTINCT " else "SELECT ") ++
        compiledList d columns exprs ++ source ++ .concat (joins.map (·.compiled d)) ++
        conditions.compiledClause " WHERE " d ++ compiledGrouping d grouping ++
        groupConditions.compiledClause " HAVING " d ++ compiledOrdering d ordering ++
        compiledLimit d limit offset
      return withClause ++
        (if combined.isEmpty then member else .text "(" ++ member ++ .text ")") ++ others

def compiledCtes (d : Dialect) : List (Cte Select) → Except Error (List Compiled)
  | [] => .ok []
  | ⟨name,columns,query,_⟩ :: ctes => do
    let query ← compiled d query
    let queries ← compiledCtes d ctes
    return (compiledCteHead d name columns ++ query ++ .text ")") :: queries

def compiledSource (d : Dialect) : Option (Source Select) → Except Error Compiled
  | none => .ok .empty
  | some (.table name) => .ok (.text " FROM " ++ .text (Identifier.table d name))
  | some (.subquery query label) => do
    let query ← compiled d query
    return .text " FROM (" ++ query ++ .text ") AS " ++ .text (d.quote label)

def compiledCombined (d : Dialect) : List (SetOp × Select) → Except Error Compiled
  | [] => .ok .empty
  | (op,query) :: rest => do
    let query ← compiled d query
    let others ← compiledCombined d rest
    return .text op.keyword ++ .text "(" ++ query ++ .text ")" ++ others
end

end Select

end ParamSql
