import ParamSql.Query

/-! What callers put into a builder: texts and values. `supplied` lists the texts of a tree, `mapValues`
replaces the values at its slots and keeps everything else. -/
namespace ParamSql

/-- A text from a caller: a template, whose question marks are markers, or any other text. -/
inductive Supplied where
  | free (s : String)
  | template (s : String)

def Supplied.ofFree (texts : List String) : List Supplied := texts.map .free

/-! ## Texts -/

mutual
def Expr.supplied : Expr → List Supplied
  | .and members | .or members => suppliedAll members
  | .not inner => inner.supplied
  | .compare column op _ => [.free column,.free op]
  | .nullCheck column _ | .inList column _ _ | .between column _ _ _ => [.free column]
  | .template sql _ => [.template sql]
  | .raw sql => [.free sql]
  | .always | .never => []

def Expr.suppliedAll : List Expr → List Supplied
  | [] => []
  | e :: es => e.supplied ++ suppliedAll es
end

def Condition.supplied : Condition → List Supplied
  | .raw sql _ => [.template sql]
  | .expr e => e.supplied

def ConditionGroup.supplied (g : ConditionGroup) : List Supplied := g.members.flatMap (·.supplied)

def Join.supplied (j : Join) : List Supplied :=
  .free j.table :: j.on.elim [] (·.supplied)

mutual
def Select.supplied : Select → List Supplied
  | ⟨ctes,columns,exprs,_,source,joins,conditions,grouping,groupConditions,ordering,_,_,combined,_⟩ =>
    suppliedCtes ctes ++ Supplied.ofFree columns ++ exprs.map (.template ·.1) ++
      suppliedSource source ++ joins.flatMap (·.supplied) ++ conditions.supplied ++
      Supplied.ofFree grouping ++ groupConditions.supplied ++ Supplied.ofFree ordering ++
      suppliedCombined combined

def Select.suppliedCtes : List (Cte Select) → List Supplied
  | [] => []
  | ⟨name,columns,query,_⟩ :: ctes =>
    .free name :: Supplied.ofFree columns ++ query.supplied ++ suppliedCtes ctes

def Select.suppliedSource : Option (Source Select) → List Supplied
  | none => []
  | some (.table name) => [.free name]
  | some (.subquery query label) => .free label :: query.supplied

def Select.suppliedCombined : List (SetOp × Select) → List Supplied
  | [] => []
  | (_,query) :: rest => query.supplied ++ suppliedCombined rest
end

def Assignment.supplied : Assignment → List Supplied
  | value _ => []
  | raw sql => [.free sql]

def KeyMap.supplied (fields : Assignments) : List Supplied :=
  fields.entries.flatMap fun e => .free e.1 :: e.2.supplied

def Insert.supplied (q : Insert) : List Supplied :=
  .free q.table :: q.fields.supplied ++ Supplied.ofFree q.returning

def Update.supplied (q : Update) : List Supplied :=
  .free q.table :: q.fields.supplied ++ q.conditions.supplied ++ Supplied.ofFree q.returning

def Delete.supplied (q : Delete) : List Supplied :=
  .free q.table :: q.conditions.supplied ++ Supplied.ofFree q.returning

def Upsert.supplied (q : Upsert) : List Supplied :=
  q.insert.supplied ++ Supplied.ofFree q.target ++ Supplied.ofFree q.overwritten

def BatchInsert.supplied (q : BatchInsert) : List Supplied :=
  .free q.table :: Supplied.ofFree q.columns.keys ++ Supplied.ofFree q.returning

def BatchUpdate.supplied (q : BatchUpdate) : List Supplied :=
  .free q.table :: .free q.key :: q.rows.flatMap fun row => Supplied.ofFree row.2.keys

/-- The texts of a query. Of SQL with named parameters and of a fragment, the text is free. -/
def Query.supplied : Query → List Supplied
  | select q => q.supplied
  | insert q => q.supplied
  | update q => q.supplied
  | delete q => q.supplied
  | upsert q => q.supplied
  | batchInsert q => q.supplied
  | batchUpdate q => q.supplied
  | named q => [.free q.sql]
  | fragment f => f.pieces.flatMap fun piece => match piece with
    | .text s => [.free s]
    | .slot _ => []

/-! ## Values -/

mutual
def Expr.mapValues (φ : Value → Value) : Expr → Expr
  | .and members => .and (mapAll φ members)
  | .or members => .or (mapAll φ members)
  | .not inner => .not (inner.mapValues φ)
  | .compare column op value => .compare column op (φ value)
  | .nullCheck column isNull => .nullCheck column isNull
  | .inList column values negated => .inList column (values.map φ) negated
  | .between column low high negated => .between column (φ low) (φ high) negated
  | .template sql args => .template sql (args.map φ)
  | .raw sql => .raw sql
  | .always => .always
  | .never => .never

def Expr.mapAll (φ : Value → Value) : List Expr → List Expr
  | [] => []
  | e :: es => e.mapValues φ :: mapAll φ es
end

def Condition.mapValues (φ : Value → Value) : Condition → Condition
  | .raw sql args => .raw sql (args.map φ)
  | .expr e => .expr (e.mapValues φ)

def ConditionGroup.mapValues (φ : Value → Value) (g : ConditionGroup) : ConditionGroup :=
  ⟨g.members.map (·.mapValues φ)⟩

def Join.mapValues (φ : Value → Value) (j : Join) : Join :=
  { j with on := j.on.map (·.mapValues φ) }

mutual
def Select.mapValues (φ : Value → Value) : Select → Select
  | ⟨ctes,columns,exprs,isDistinct,source,joins,conditions,grouping,groupConditions,ordering,limit,
      offset,combined,misuse⟩ =>
    ⟨mapCtes φ ctes,columns,exprs.map fun e => (e.1,e.2.map φ),isDistinct,mapSource φ source,
      joins.map (·.mapValues φ),conditions.mapValues φ,grouping,groupConditions.mapValues φ,ordering,
      limit,offset,mapCombined φ combined,misuse⟩

def Select.mapCtes (φ : Value → Value) : List (Cte Select) → List (Cte Select)
  | [] => []
  | ⟨name,columns,query,isRecursive⟩ :: ctes =>
    ⟨name,columns,query.mapValues φ,isRecursive⟩ :: mapCtes φ ctes

def Select.mapSource (φ : Value → Value) : Option (Source Select) → Option (Source Select)
  | none => none
  | some (.table name) => some (.table name)
  | some (.subquery query label) => some (.subquery (query.mapValues φ) label)

def Select.mapCombined (φ : Value → Value) : List (SetOp × Select) → List (SetOp × Select)
  | [] => []
  | (op,query) :: rest => (op,query.mapValues φ) :: mapCombined φ rest
end

def Assignment.mapValues (φ : Value → Value) : Assignment → Assignment
  | value v => value (φ v)
  | raw sql => raw sql

def Insert.mapValues (φ : Value → Value) (q : Insert) : Insert :=
  { q with fields := q.fields.map (·.mapValues φ) }

def Scope.mapValues (φ : Value → Value) (s : Scope) : Scope :=
  { s with conditions := s.conditions.mapValues φ }

def Update.mapValues (φ : Value → Value) (q : Update) : Update :=
  ⟨q.toScope.mapValues φ,q.table,q.fields.map (·.mapValues φ)⟩

def Delete.mapValues (φ : Value → Value) (q : Delete) : Delete := ⟨q.toScope.mapValues φ,q.table⟩

def Upsert.mapValues (φ : Value → Value) (q : Upsert) : Upsert :=
  { q with insert := q.insert.mapValues φ }

def BatchInsert.mapValues (φ : Value → Value) (q : BatchInsert) : BatchInsert :=
  { q with rows := q.rows.map (·.map φ) }

def BatchUpdate.mapValues (φ : Value → Value) (q : BatchUpdate) : BatchUpdate :=
  { q with rows := q.rows.map fun row => (φ row.1,row.2.map φ) }

def NamedSql.mapValues (φ : Value → Value) (q : NamedSql) : NamedSql :=
  { q with params := q.params.map φ }

def Piece.mapValue (φ : Value → Value) : Piece → Piece
  | text s => text s
  | slot v => slot (φ v)

def Fragment.mapValues (φ : Value → Value) (f : Fragment) : Fragment :=
  { f with pieces := f.pieces.map (·.mapValue φ) }

def Query.mapValues (φ : Value → Value) : Query → Query
  | select q => .select (q.mapValues φ)
  | insert q => .insert (q.mapValues φ)
  | update q => .update (q.mapValues φ)
  | delete q => .delete (q.mapValues φ)
  | upsert q => .upsert (q.mapValues φ)
  | batchInsert q => .batchInsert (q.mapValues φ)
  | batchUpdate q => .batchUpdate (q.mapValues φ)
  | named q => .named (q.mapValues φ)
  | fragment f => .fragment (f.mapValues φ)

def Statement.mapArgs (φ : Value → Value) (s : Statement) : Statement :=
  { s with args := s.args.map φ }

/-! Keeping the values keeps the tree. -/

mutual
theorem Expr.mapValues_id : ∀ e : Expr, e.mapValues id = e
  | .and members | .or members => by rw [mapValues,mapAll_id members]
  | .not inner => by rw [mapValues,mapValues_id inner]
  | .inList column values negated => by rw [mapValues,List.map_id]
  | .template sql args => by rw [mapValues,List.map_id]
  | .compare .. | .nullCheck .. | .between .. | .raw _ | .always | .never => rfl

theorem Expr.mapAll_id : ∀ es : List Expr, mapAll id es = es
  | [] => rfl
  | e :: es => by rw [mapAll,mapValues_id e,mapAll_id es]
end

theorem Condition.mapValues_id (c : Condition) : c.mapValues id = c := by
  cases c with
  | raw sql args => rw [mapValues,List.map_id]
  | expr e => rw [mapValues,e.mapValues_id]

theorem ConditionGroup.mapValues_id (g : ConditionGroup) : g.mapValues id = g := by
  simp only [mapValues,Condition.mapValues_id,List.map_id']

theorem Join.mapValues_id (j : Join) : j.mapValues id = j := by
  obtain ⟨kind,table,on⟩ := j
  cases on with
  | none => rfl
  | some c => simp only [mapValues,Option.map_some,c.mapValues_id]

mutual
theorem Select.mapValues_id : ∀ q : Select, q.mapValues id = q
  | ⟨ctes,columns,exprs,isDistinct,source,joins,conditions,grouping,groupConditions,ordering,limit,
      offset,combined,misuse⟩ => by
    simp only [mapValues,mapCtes_id ctes,mapSource_id source,mapCombined_id combined,
      ConditionGroup.mapValues_id,Join.mapValues_id,List.map_id,List.map_id']

theorem Select.mapCtes_id : ∀ ctes : List (Cte Select), mapCtes id ctes = ctes
  | [] => rfl
  | ⟨name,columns,query,isRecursive⟩ :: ctes => by
    rw [mapCtes,mapValues_id query,mapCtes_id ctes]

theorem Select.mapSource_id : ∀ source : Option (Source Select), mapSource id source = source
  | none | some (.table _) => rfl
  | some (.subquery query label) => by rw [mapSource,mapValues_id query]

theorem Select.mapCombined_id : ∀ combined : List (SetOp × Select), mapCombined id combined = combined
  | [] => rfl
  | (op,query) :: rest => by rw [mapCombined,mapValues_id query,mapCombined_id rest]
end

end ParamSql
