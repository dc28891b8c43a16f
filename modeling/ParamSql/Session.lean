import ParamSql.Config
import ParamSql.Exchange
import ParamSql.Record

/-! Sessions: a dialect and a configuration with which statements are built, run and reported. -/
namespace ParamSql

structure Session where
  dialect : Dialect
  config : Config
  deriving DecidableEq

namespace Session

def ofConfig (c : Config) : Except Error Session := do
  let d ← c.dialect
  return ⟨d,c⟩

def ofDialect (d : Dialect) : Session := ⟨d,Config.default.withDriver d.name⟩

def log (s : Session) : SqlLog := s.config.sqlLog s.dialect

def send (s : Session) (statement : Statement) (via : Via) : ExchangeM Response :=
  statement.send via s.config.timeout s.log

def query (s : Session) (statement : Statement) : ExchangeM (List Row) := do
  let response ← s.send statement .query
  return response.rows

def exec (s : Session) (statement : Statement) : ExchangeM ExecResult := do
  let response ← s.send statement .execute
  return response.result

def build (s : Session) (q : Query) : ExchangeM Statement := ofExcept (q.build s.dialect)

def fetchAll {α : Type} (s : Session) (q : Query) (read : RowReader α) : ExchangeM (List α) := do
  let rows ← s.query (← s.build q)
  ofExcept (rows.mapM read)

def fetchFirst? {α : Type} (s : Session) (q : Query) (read : RowReader α) :
    ExchangeM (Option α) := do
  match (← s.query (← s.build q)).head? with
  | some row => some <$> ofExcept (read row)
  | none => return none

def fetchOne {α : Type} (s : Session) (q : Query) (read : RowReader α) : ExchangeM α := do
  match ← s.fetchFirst? q read with
  | some a => return a
  | none => throw (.notFound "query returned no rows")

def execute (s : Session) (q : Query) : ExchangeM ExecResult := do s.exec (← s.build q)

/-- The number of rows of a SELECT: the first cell of the answer. -/
def count (s : Session) (q : Select) : ExchangeM Int64 := do
  let statement ← ofExcept (q.buildCount s.dialect)
  match (← s.query statement).head? with
  | some row => ofExcept (Row.scalar Decoder.int row)
  | none => return 0

def explain (s : Session) (q : Query) (analyze : Bool) : ExchangeM (List Row) := do
  let statement ← s.build q
  s.query (← ofExcept (statement.explain s.dialect analyze))

variable {ρ : Type}

/-- Inserts a row and reads the key that the database generated for a column: the first cell that
RETURNING gives or, without RETURNING, the last inserted key. The key may be missing or unreadable
although the row is written. -/
def insertKeyed (s : Session) (q : Insert) (column : String) :
    ExchangeM (ExecResult × Except Error (Option Int64)) := do
  if s.dialect.hasReturning then
    let rows ← s.query (← s.build (.insert (q.addReturning [column])))
    let key := match rows.head? with
      | some row => (Row.scalar Decoder.int row).map some
      | none => .ok none
    return (⟨UInt64.ofNat rows.length,none⟩,key)
  else
    let result ← s.execute (.insert q)
    return (result,.ok result.lastId)

/-- Hands a generated key to a record. The row is written already, so a key that is missing or
refused is no error: it is reported. -/
def storeKey (t : RecordType ρ) (r : ρ) (column : String) (result : ExecResult)
    (key : Except Error (Option Int64)) : StateM Exchange (ExecResult × ρ) := do
  match key with
  | .ok (some key) =>
    match t.storeKey r key with
    | (.ok (),r) => return ({ result with lastId := some key },r)
    | (.error e,r) =>
      modify (·.report [.keyNotStored t.table column e])
      return (result,r)
  | .ok none =>
    modify (·.report [.keyNotReported t.table column])
    return (result,r)
  | .error e =>
    modify (·.report [.keyNotStored t.table column e])
    return (result,r)

/-- Inserts a record and hands it the key that the database generated for it. The result stands
beside the record as it is afterwards; an error leaves the record alone. -/
def create (s : Session) (t : RecordType ρ) (r : ρ) :
    StateM Exchange (Except Error ExecResult × ρ) := do
  let q := t.insert r
  match t.generatedKey? (t.values r) with
  | none => return (← (s.execute (.insert q)).run,r)
  | some column =>
    match ← (s.insertKeyed q column).run with
    | .error e => return (.error e,r)
    | .ok (result,key) =>
      let (result,r) ← storeKey t r column result key
      return (.ok result,r)

def update (s : Session) (t : RecordType ρ) (r : ρ) : ExchangeM ExecResult := do
  s.execute (.update (← ofExcept (t.update r)))

def delete (s : Session) (t : RecordType ρ) (r : ρ) : ExchangeM ExecResult := do
  s.execute (.delete (← ofExcept (t.delete r)))

def find {α : Type} (s : Session) (t : RecordType ρ) (key : List Value) (read : RowReader α) :
    ExchangeM (Option α) := do
  s.fetchFirst? (.select (← ofExcept (t.find key))) read

end Session

end ParamSql
