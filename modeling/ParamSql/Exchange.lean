import ParamSql.Log
import ParamSql.Query
import ParamSql.Row

/-! The exchange between a session and its database. What the database answers is given beforehand,
one response for each call; the calls made and the events reported are kept in order. -/
namespace ParamSql

structure ExecResult where
  affected : UInt64
  /-- The key generated by an insert, if the database reports it. -/
  lastId : Option Int64
  deriving DecidableEq, Inhabited

/-- When an answer comes. One that comes at once meets every time limit, even none at all. -/
inductive Latency where
  | immediate
  | after (d : Duration)
  | never
  deriving DecidableEq, Inhabited

def Latency.exceeds (l : Latency) (limit : Duration) : Bool :=
  match l with
  | immediate => false
  | after d => limit.nanos < d.nanos
  | never => true

structure Response where
  rows : List Row
  result : ExecResult
  failure : Option Error
  latency : Latency
  /-- The time that a clock beside the call shows. -/
  elapsed : Duration
  deriving DecidableEq

def Response.empty : Response := ⟨[],⟨0,none⟩,none,.immediate,⟨1⟩⟩

instance : Inhabited Response := ⟨.empty⟩

inductive Via where
  | query
  | execute
  deriving DecidableEq, Inhabited

structure Call where
  via : Via
  sql : String
  args : List Value
  deriving DecidableEq, Inhabited

structure Exchange where
  pending : List Response
  sent : List Call
  log : List LogEvent
  deriving DecidableEq, Inhabited

namespace Exchange

def ofResponses (responses : List Response) : Exchange := ⟨responses,[],[]⟩

def next (x : Exchange) : Response := x.pending.headD .empty

def call (x : Exchange) (c : Call) : Exchange :=
  { x with pending := x.pending.tail, sent := x.sent ++ [c] }

def report (x : Exchange) (events : List LogEvent) : Exchange := { x with log := x.log ++ events }

end Exchange

/-- Work on an exchange. What was sent and reported stays after an error. -/
abbrev ExchangeM := ExceptT Error (StateM Exchange)

namespace Statement

/-- Makes one call and waits for its answer within a limit: the statement's own or else the
default. -/
def send (s : Statement) (via : Via) (defaultLimit : Option Duration) (log : SqlLog) :
    ExchangeM Response := do
  let x ← get
  let response := x.next
  set (((x.report (log.before s)).call ⟨via,s.sql,s.args⟩).report (log.after s response.elapsed))
  match s.timeout.or defaultLimit with
  | some limit => if response.latency.exceeds limit then throw (.timeout limit)
  | none => pure ()
  match response.failure with
  | some error => throw error
  | none => return response

def fetchAll (s : Statement) : ExchangeM (List Row) := do
  let response ← s.send .query none .default
  return response.rows

def fetchAllAs {α : Type} (s : Statement) (read : RowReader α) : ExchangeM (List α) := do
  let rows ← s.fetchAll
  ofExcept (rows.mapM read)

def fetchFirst? (s : Statement) : ExchangeM (Option Row) := do
  let rows ← s.fetchAll
  return rows.head?

def fetchFirstAs? {α : Type} (s : Statement) (read : RowReader α) : ExchangeM (Option α) := do
  match ← s.fetchFirst? with
  | some row => some <$> ofExcept (read row)
  | none => return none

def fetchOne (s : Statement) : ExchangeM Row := do
  match ← s.fetchFirst? with
  | some row => return row
  | none => throw (.notFound "query returned no rows")

def fetchOneAs {α : Type} (s : Statement) (read : RowReader α) : ExchangeM α := do
  let row ← s.fetchOne
  ofExcept (read row)

def execute (s : Statement) : ExchangeM ExecResult := do
  let response ← s.send .execute none .default
  return response.result

end Statement

namespace Query

def fetchAll {α : Type} (q : Query) (d : Dialect) (read : RowReader α) : ExchangeM (List α) := do
  let statement ← ofExcept (q.build d)
  let rows ← statement.fetchAll
  ofExcept (rows.mapM read)

def fetchFirst? {α : Type} (q : Query) (d : Dialect) (read : RowReader α) :
    ExchangeM (Option α) := do
  let statement ← ofExcept (q.build d)
  match ← statement.fetchFirst? with
  | some row => some <$> ofExcept (read row)
  | none => return none

def fetchOne {α : Type} (q : Query) (d : Dialect) (read : RowReader α) : ExchangeM α := do
  let statement ← ofExcept (q.build d)
  let row ← statement.fetchOne
  ofExcept (read row)

def execute (q : Query) (d : Dialect) : ExchangeM ExecResult := do
  let statement ← ofExcept (q.build d)
  statement.execute

end Query

end ParamSql
