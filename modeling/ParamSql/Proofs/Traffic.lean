import ParamSql.Proofs.Creation

/-! The calls that a session makes. Each operation constructs one statement; if that fails the operation
fails for that reason and nothing is sent, and else the call of the statement is sent, once, whatever
is answered. Main statement: what a run of operations sends is the calls of the statements that could
be constructed, in order, also when the operations depend on earlier answers. -/
namespace ParamSql

/-! ## Work that sends one statement -/

/-- Work with one statement to construct: without it the exchange stays as it was, and with it its call
and no other is made. -/
def Sends {α : Type} (construction : Except Error Statement) (via : Via) (refused : Error → α)
    (work : StateM Exchange α) : Prop :=
  match construction with
  | .error e => ∀ x, work.run x = (refused e,x)
  | .ok statement => ∀ x, (work.run x).2.sent = x.sent ++ [⟨via,statement.sql,statement.args⟩]

namespace Sends

variable {α β : Type} {via : Via} {construction : Except Error Statement}

/-- What is done with the answer makes no call. -/
theorem bind {work : ExchangeM α} (h : Sends construction via .error work.run) {next : α → ExchangeM β}
    (quiet : ∀ a x, ((next a).run.run x).2.sent = x.sent) :
    Sends construction via .error (work >>= next).run := by
  cases construction with
  | error e =>
    intro x
    rw [ExceptT.run_bind,StateT.run_bind,h x]
    rfl
  | ok statement =>
    intro x
    rw [ExceptT.run_bind,StateT.run_bind,← h x]
    obtain ⟨answer,after⟩ := work.run.run x
    cases answer with
    | error e => rfl
    | ok a => exact quiet a after

theorem construct {γ : Type} {first : Except Error γ} {rest : γ → Except Error Statement}
    {next : γ → ExchangeM α} (h : ∀ q, Sends (rest q) via .error (next q).run) :
    Sends (first >>= rest) via .error (ofExcept first >>= next).run := by
  cases first with
  | error e => exact fun x => rfl
  | ok q => exact h q

theorem build {first : Except Error Statement} {next : Statement → ExchangeM α}
    (h : ∀ statement, Sends (.ok statement) via .error (next statement).run) :
    Sends first via .error (ofExcept first >>= next).run := by
  cases first with
  | error e => exact fun x => rfl
  | ok statement => exact h statement

variable (s : Session)

theorem send (statement : Statement) (via : Via) :
    Sends (.ok statement) via .error (s.send statement via).run := by
  intro x
  rw [s.run_send]
  rfl

theorem query (statement : Statement) : Sends (.ok statement) .query .error (s.query statement).run :=
  (send s statement .query).bind fun _ _ => rfl

theorem exec (statement : Statement) : Sends (.ok statement) .execute .error (s.exec statement).run :=
  (send s statement .execute).bind fun _ _ => rfl

theorem execute (q : Query) : Sends (q.build s.dialect) .execute .error (s.execute q).run :=
  build (exec s)

theorem quiet_ofExcept (result : Except Error α) (x : Exchange) :
    ((ofExcept result : ExchangeM α).run.run x).2.sent = x.sent := by
  cases result <;> rfl

theorem fetchAll (q : Query) (read : RowReader α) :
    Sends (q.build s.dialect) .query .error (s.fetchAll q read).run :=
  build fun statement => (query s statement).bind fun _ => quiet_ofExcept _

theorem fetchFirst (q : Query) (read : RowReader α) :
    Sends (q.build s.dialect) .query .error (s.fetchFirst? q read).run := by
  refine build fun statement => (query s statement).bind fun rows x => ?_
  cases rows with
  | nil => rfl
  | cons row rows => cases read : read row <;> simp [read] <;> rfl

theorem fetchOne (q : Query) (read : RowReader α) :
    Sends (q.build s.dialect) .query .error (s.fetchOne q read).run := by
  refine (fetchFirst s q read).bind fun found x => ?_
  cases found <;> rfl

theorem count (q : Select) : Sends (q.buildCount s.dialect) .query .error (s.count q).run := by
  refine build fun statement => (query s statement).bind fun rows x => ?_
  cases rows with
  | nil => rfl
  | cons row rows => exact quiet_ofExcept _ x

theorem explain (q : Query) (analyze : Bool) :
    Sends (q.build s.dialect >>= (·.explain s.dialect analyze)) .query .error
      (s.explain q analyze).run :=
  construct fun _ => build (query s)

theorem create {ρ : Type} (t : RecordType ρ) (r : ρ) :
    Sends ((t.creating s.dialect r).build s.dialect) (t.creatingVia s.dialect r) (.error ·,r)
      (s.create t r) := by
  -- The INSERT of a creation always builds, so that nothing can be refused.
  obtain ⟨statement,built,-⟩ := t.exists_creating s.dialect r
  rw [built]
  intro x
  rw [Session.run_create built]
  cases x.next.outcome (statement.timeout.or s.config.timeout) <;> rfl

end Sends

/-! ## Operations -/

inductive Operation : Type 1 where
  | query (statement : Statement)
  | exec (statement : Statement)
  | fetchAll {α : Type} (q : Query) (read : RowReader α)
  | fetchFirst {α : Type} (q : Query) (read : RowReader α)
  | fetchOne {α : Type} (q : Query) (read : RowReader α)
  | execute (q : Query)
  | count (q : Select)
  | explain (q : Query) (analyze : Bool)
  | create {ρ : Type} (t : RecordType ρ) (r : ρ)
  | update {ρ : Type} (t : RecordType ρ) (r : ρ)
  | delete {ρ : Type} (t : RecordType ρ) (r : ρ)
  | find {ρ α : Type} (t : RecordType ρ) (key : List Value) (read : RowReader α)

namespace Operation

/-- What an operation gives back; a creation also gives back the record. -/
def Answer : Operation → Type
  | query _ | explain .. => Except Error (List Row)
  | exec _ | execute _ | update .. | delete .. => Except Error ExecResult
  | @fetchAll α .. => Except Error (List α)
  | @fetchFirst α .. | @find _ α .. => Except Error (Option α)
  | @fetchOne α .. => Except Error α
  | count _ => Except Error Int64
  | @create ρ .. => Except Error ExecResult × ρ

def perform (s : Session) : (o : Operation) → StateM Exchange o.Answer
  | query statement => (s.query statement).run
  | exec statement => (s.exec statement).run
  | fetchAll q read => (s.fetchAll q read).run
  | fetchFirst q read => (s.fetchFirst? q read).run
  | fetchOne q read => (s.fetchOne q read).run
  | execute q => (s.execute q).run
  | count q => (s.count q).run
  | explain q analyze => (s.explain q analyze).run
  | create t r => s.create t r
  | update t r => (s.update t r).run
  | delete t r => (s.delete t r).run
  | find t key read => (s.find t key read).run

/-- The statement of an operation, or the reason why there is none. -/
def statement (d : Dialect) : Operation → Except Error Statement
  | query statement | exec statement => .ok statement
  | fetchAll q _ | fetchFirst q _ | fetchOne q _ | execute q => q.build d
  | count q => q.buildCount d
  | explain q analyze => do (← q.build d).explain d analyze
  | create t r => (t.creating d r).build d
  | update t r => do (← t.update r).build d
  | delete t r => do (← t.delete r).build d
  | find t key _ => do (← t.find key).build d

def via (d : Dialect) : Operation → Via
  | exec _ | execute _ | update .. | delete .. => .execute
  | create t r => t.creatingVia d r
  | query _ | fetchAll .. | fetchFirst .. | fetchOne .. | count _ | explain .. | find .. => .query

/-- The answer of an operation that has no statement. -/
def refused (e : Error) : (o : Operation) → o.Answer
  | query _ | exec _ | fetchAll .. | fetchFirst .. | fetchOne .. | execute _ | count _ | explain ..
  | update .. | delete .. | find .. => .error e
  | create _ r => (.error e,r)

def call? (d : Dialect) (o : Operation) : Option Call :=
  (o.statement d).toOption.map fun statement => ⟨o.via d,statement.sql,statement.args⟩

theorem sends (s : Session) (o : Operation) :
    Sends (o.statement s.dialect) (o.via s.dialect) o.refused (o.perform s) := by
  cases o with
  | query statement => exact .query s statement
  | exec statement => exact .exec s statement
  | fetchAll q read => exact .fetchAll s q read
  | fetchFirst q read => exact .fetchFirst s q read
  | fetchOne q read => exact .fetchOne s q read
  | execute q => exact .execute s q
  | count q => exact .count s q
  | explain q analyze => exact .explain s q analyze
  | create t r => exact .create s t r
  | update t r => exact .construct fun q => .execute s (.update q)
  | delete t r => exact .construct fun q => .execute s (.delete q)
  | find t key read => exact .construct fun q => .fetchFirst s (.select q) read

end Operation

/-! ## Runs -/

/-- A client, which chooses each operation by what the earlier ones have given back. -/
inductive Program : Type 1 where
  | finished
  | operation (o : Operation) (next : o.Answer → Program)

structure Event : Type 1 where
  operation : Operation
  answer : operation.Answer

/-- The operations of a client with their answers, and the exchange at the end. -/
def Program.run (s : Session) : Program → Exchange → List Event × Exchange
  | finished, x => ([],x)
  | operation o next, x =>
    let (answer,after) := (o.perform s).run x
    let (events,final) := run s (next answer) after
    (⟨o,answer⟩ :: events,final)

namespace Program

theorem run_operation (s : Session) (o : Operation) (next : o.Answer → Program) (x : Exchange) :
    run s (operation o next) x =
      (⟨o,((o.perform s).run x).1⟩ :: (run s (next ((o.perform s).run x).1) ((o.perform s).run x).2).1,
        (run s (next ((o.perform s).run x).1) ((o.perform s).run x).2).2) := rfl

theorem sent_run (s : Session) (p : Program) (x : Exchange) :
    (p.run s x).2.sent = x.sent ++ (p.run s x).1.filterMap (·.operation.call? s.dialect) := by
  -- The rest of a run starts from the exchange that the operation has left.
  induction p generalizing x with
  | finished => exact (List.append_nil _).symm
  | operation o next ih =>
    have step := o.sends s
    rw [run_operation,ih,List.filterMap_cons,Operation.call?]
    cases made : o.statement s.dialect with
    | error e =>
      rw [made] at step
      rw [step x]
      rfl
    | ok statement =>
      rw [made] at step
      rw [step x,List.append_assoc]
      rfl

theorem refused_run (s : Session) (p : Program) (x : Exchange) : ∀ event ∈ (p.run s x).1,
    ∀ e, event.operation.statement s.dialect = .error e → event.answer = event.operation.refused e := by
  induction p generalizing x with
  | finished => exact fun event member => absurd member List.not_mem_nil
  | operation o next ih =>
    intro event member e failed
    rw [run_operation] at member
    rcases List.mem_cons.mp member with rfl | later
    · have step := o.sends s
      dsimp only at failed ⊢
      rw [failed] at step
      rw [step x]
    · exact ih _ _ event later e failed

end Program

/-- An operation without a statement fails for the reason that there is none and leaves the exchange as
it was; any other makes the call of its statement, once. So a run sends the calls of the statements of its
operations, in order, whatever is answered. -/
theorem traffic_of_statements (s : Session) :
    (∀ o : Operation, match o.statement s.dialect with
      | .error e => ∀ x, (o.perform s).run x = (o.refused e,x)
      | .ok statement => ∀ x, ((o.perform s).run x).2.sent =
          x.sent ++ [⟨o.via s.dialect,statement.sql,statement.args⟩]) ∧
    ∀ (p : Program) (x : Exchange),
      (p.run s x).2.sent = x.sent ++ (p.run s x).1.filterMap (·.operation.call? s.dialect) ∧
      ∀ event ∈ (p.run s x).1, ∀ e, event.operation.statement s.dialect = .error e →
        event.answer = event.operation.refused e :=
  ⟨fun o => o.sends s,fun p x => ⟨p.sent_run s x,p.refused_run s x⟩⟩

/-- The record is deleted by the key that its creation has given it; before that it has none. -/
theorem traffic_of_statements_key :
    let t : RecordType (KeyMap Value) := ⟨"users",["id"],id,fun r key => (.ok (),r.insert "id" (.int key))⟩
    let r : KeyMap Value := .ofList [("name",.text "n")]
    let s := Session.ofDialect .postgres
    let p : Program := .operation (.delete t r) fun _ => .operation (.create t r) fun created =>
      .operation (.delete t created.2) fun _ => .finished
    let x := Exchange.ofResponses [{ Response.empty with rows := [⟨[("id",.int 7)]⟩] }]
    (p.run s x).2.sent =
      [⟨.query,"INSERT INTO \"users\" (\"name\") VALUES ($1) RETURNING \"id\"",[.text "n"]⟩,
        ⟨.execute,"DELETE FROM \"users\" WHERE \"id\" = $1",[.int 7]⟩] ∧
    ∃ event ∈ (p.run s x).1,
      event.answer = event.operation.refused (.validation (.keyColumnWithoutValue "users" "id")) := by
  intro t r s p x
  obtain ⟨sent,refused⟩ := (traffic_of_statements s).2 p x
  refine ⟨sent.trans (by decide +kernel),⟨.delete t r,_⟩,List.mem_cons_self,?_⟩
  exact refused _ List.mem_cons_self _ rfl

end ParamSql
