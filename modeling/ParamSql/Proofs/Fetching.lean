import ParamSql.Proofs.Conflict.Text
import ParamSql.Proofs.Returning
import ParamSql.Proofs.Sending

/-! Fetching rows as values: through a session, from a query, or with a statement that is built already.
Where no time limit is in force, all ways make the same call and give the same result, which is read
from the rows of the answer. Reading all rows fails with the first row that cannot be read, and reading
the first one looks at no other. -/
namespace ParamSql

/-- What the caller and the database see of work on an exchange: its result, and all calls that were
made. -/
def Exchange.seen {α : Type} (x : Exchange) (work : ExchangeM α) : Except Error α × List Call :=
  ((work.run.run x).1,(work.run.run x).2.sent)

/-! ## Readings of the rows -/

namespace RowReader

variable {α : Type} (read : RowReader α) {rows : List Row} {e : Error}

/-- The value of the first row, if there is one. -/
def first? (rows : List Row) : Except Error (Option α) :=
  rows.head?.elim (.ok none) fun row => (read row).map some

/-- The value of the first row, which has to be there. -/
def first (rows : List Row) : Except Error α :=
  rows.head?.elim (.error (.notFound "query returned no rows")) read

theorem mapM_eq_error_iff : rows.mapM read = .error e ↔ ∃ before row after,
    rows = before ++ row :: after ∧ (∀ r ∈ before, ∃ a, read r = .ok a) ∧ read row = .error e := by
  induction rows with
  | nil => simp [pure,Except.pure]
  | cons head rows ih =>
    rw [List.mapM_cons]
    cases value : read head with
    | error e' =>
      constructor
      · rintro ⟨⟩
        exact ⟨[],head,rows,rfl,List.forall_mem_nil _,value⟩
      · rintro ⟨before,row,after,split,readable,fault⟩
        cases before with
        | nil =>
          cases split
          rw [value] at fault
          cases fault
          rfl
        | cons r before =>
          cases split
          obtain ⟨a,read⟩ := readable head List.mem_cons_self
          rw [value] at read
          cases read
    | ok a =>
      have rest : (do let values ← rows.mapM read; return a :: values) = .error e ↔
          rows.mapM read = .error e := by
        cases rows.mapM read <;> simp [bind,Except.bind,pure,Except.pure]
      show (do let values ← rows.mapM read; return a :: values) = .error e ↔ _
      rw [rest,ih]
      constructor
      · rintro ⟨before,row,after,rfl,readable,fault⟩
        exact ⟨head :: before,row,after,rfl,List.forall_mem_cons.mpr ⟨⟨a,value⟩,readable⟩,fault⟩
      · rintro ⟨before,row,after,split,readable,fault⟩
        cases before with
        | nil => cases split; rw [value] at fault; cases fault
        | cons r before =>
          cases split
          exact ⟨before,row,after,rfl,fun r member => readable r (List.mem_cons_of_mem _ member),fault⟩

theorem first?_eq_error_iff : read.first? rows = .error e ↔
    ∃ row after, rows = row :: after ∧ read row = .error e := by
  cases rows with
  | nil => simp [first?]
  | cons row rows => cases value : read row <;> simp [first?,value,Except.map]

theorem first_eq_error_iff : read.first rows = .error e ↔
    (∃ row after, rows = row :: after ∧ read row = .error e) ∨
      rows = [] ∧ e = .notFound "query returned no rows" := by
  cases rows <;> simp [first,eq_comm]

/-- Values of all rows begin with the value of the first one. -/
theorem first_of_mapM_eq_ok {values : List α} (all : rows.mapM read = .ok values) :
    read.first? rows = .ok values.head? ∧
      read.first rows = values.head?.elim (.error (.notFound "query returned no rows")) .ok := by
  cases rows with
  | nil => cases all; exact ⟨rfl,rfl⟩
  | cons row rows =>
    rw [List.mapM_cons] at all
    cases value : read row with
    | error e => rw [value] at all; cases all
    | ok a =>
      rw [value] at all
      cases rest : rows.mapM read with
      | error e => rw [rest] at all; cases all
      | ok values =>
        rw [rest] at all
        cases all
        simp [first?,first,value,Except.map]

end RowReader

/-! ## What is seen of a fetch -/

namespace Query

theorem timeout_of_build {q : Query} {d : Dialect} {statement : Statement}
    (built : q.build d = .ok statement) : statement.timeout = none := by
  have written {x : Except Error Fragment} (built : (x >>= fun f => f.build d) = .ok statement) :
      statement.timeout = none := by
    cases x with
    | error e => cases built
    | ok f => rw [f.eq_of_build built]
  have returned {f : Fragment} {refusal? : Option Misuse} {columns : List String}
      (built : f.buildReturning d refusal? columns = .ok statement) : statement.timeout = none := by
    rw [Fragment.eq_of_buildReturning built]
  have refused {p : Prop} [Decidable p] {e : Error} {x : Except Error Statement}
      (built : (if p then .error e else x) = .ok statement) : x = .ok statement := by
    split at built
    · cases built
    · exact built
  cases q with
  | select q => exact written built
  | insert q =>
    rw [build,Insert.build] at built
    exact returned built
  | update q =>
    rw [build,Update.build] at built
    exact returned built
  | delete q =>
    rw [build,Delete.build] at built
    exact returned built
  | upsert q =>
    rw [build,q.build_eq] at built
    exact returned built
  | batchInsert q =>
    rw [build,BatchInsert.build] at built
    exact returned built
  | batchUpdate q => exact written (x := .ok _) (refused (refused built))
  | named q => exact written built
  | fragment f => exact written (x := .ok f) built

end Query

theorem run_ofExcept {β : Type} (result : Except Error β) (x : Exchange) :
    (ofExcept result : ExchangeM β).run.run x = (result,x) := by
  cases result <;> rfl

theorem run_some_ofExcept {β : Type} (result : Except Error β) (x : Exchange) :
    (some <$> ofExcept result : ExchangeM (Option β)).run.run x = (result.map some,x) := by
  cases result <;> rfl

/-- Work that sends a query, without a limit, and makes something of the rows of the answer. -/
def Statement.Reads {β : Type} (statement : Statement) (x : Exchange) (work : ExchangeM β)
    (reading : List Row → Except Error β) : Prop :=
  x.seen work =
    (x.next.content >>= fun answer => reading answer.rows,
      x.sent ++ [⟨.query,statement.sql,statement.args⟩])

namespace Statement

variable {α β γ : Type} {statement : Statement} {x : Exchange}

/-- What follows an answer makes no call. -/
theorem Reads.andThen {work : ExchangeM β} {reading : List Row → Except Error β} {next : β → ExchangeM γ}
    {whole : List Row → Except Error γ} (h : statement.Reads x work reading)
    (further : β → Except Error γ) (settles : ∀ b y, (next b).run.run y = (further b,y))
    (same : ∀ rows, (reading rows >>= further) = whole rows) :
    statement.Reads x (work >>= next) whole := by
  obtain ⟨result,sent⟩ := Prod.mk.inj h
  have rest : (x.next.content >>= fun answer => whole answer.rows) = (work.run.run x).1 >>= further := by
    rw [result,bind_assoc]
    simp only [same]
  unfold Reads Exchange.seen
  rw [rest,← sent,ExceptT.run_bind,StateT.run_bind]
  obtain ⟨answer,after⟩ := work.run.run x
  cases answer with
  | error e => rfl
  | ok b =>
    show (((next b).run.run after).1,((next b).run.run after).2.sent) = _
    rw [settles]
    rfl

theorem reads_send {limit : Option Duration} {log : SqlLog} (unlimited : statement.timeout.or limit = none) :
    statement.Reads x (do return (← statement.send .query limit log).rows) .ok := by
  unfold Reads Exchange.seen
  rw [ExceptT.run_bind,StateT.run_bind,run_send,unlimited]
  show _ = (x.next.content >>= _,_)
  rw [Response.outcome]
  cases x.next.content <;> rfl

variable (unlimited : statement.timeout = none) (read : RowReader α) (x : Exchange)
include unlimited

theorem reads_fetchAll : statement.Reads x statement.fetchAll .ok :=
  reads_send (by rw [unlimited,Option.none_or])

theorem reads_fetchAllAs : statement.Reads x (statement.fetchAllAs read) (·.mapM read) :=
  (reads_fetchAll unlimited x).andThen (·.mapM read) (fun _ y => run_ofExcept _ y) fun _ => rfl

theorem reads_fetchFirst : statement.Reads x statement.fetchFirst? (.ok ·.head?) :=
  (reads_fetchAll unlimited x).andThen (.ok ·.head?) (fun _ _ => rfl) fun _ => rfl

theorem reads_fetchOne : statement.Reads x statement.fetchOne (RowReader.first .ok) :=
  (reads_fetchFirst unlimited x).andThen (fun row => row.elim (RowReader.first .ok []) .ok)
    (fun row _ => by cases row <;> rfl) fun rows => by cases rows <;> rfl

theorem reads_fetchFirstAs : statement.Reads x (statement.fetchFirstAs? read) read.first? :=
  (reads_fetchFirst unlimited x).andThen (fun row => row.elim (.ok none) fun row => (read row).map some)
    (fun row y => by cases row with
      | none => rfl
      | some row => exact run_some_ofExcept (read row) y) fun _ => rfl

theorem reads_fetchOneAs : statement.Reads x (statement.fetchOneAs read) read.first :=
  (reads_fetchOne unlimited x).andThen read (fun row y => run_ofExcept (read row) y)
    fun rows => by cases rows <;> rfl

end Statement

/-! ## Fetches of a query -/

/-- What is seen of a fetch that makes something of the rows. -/
def Query.fetching {β : Type} (q : Query) (d : Dialect) (x : Exchange)
    (reading : List Row → Except Error β) : Except Error β × List Call :=
  match q.build d with
  | .error e => (.error e,x.sent)
  | .ok statement =>
    (x.next.content >>= fun answer => reading answer.rows,
      x.sent ++ [⟨.query,statement.sql,statement.args⟩])

theorem seen_build {β : Type} {q : Query} {d : Dialect} {x : Exchange} {next : Statement → ExchangeM β}
    {reading : List Row → Except Error β}
    (reads : ∀ statement : Statement, statement.timeout = none → statement.Reads x (next statement) reading) :
    x.seen (ofExcept (q.build d) >>= next) = q.fetching d x reading := by
  rw [Query.fetching]
  cases built : q.build d with
  | error e => rfl
  | ok statement => exact reads statement (Query.timeout_of_build built)

section
variable {α : Type} (q : Query) (read : RowReader α) (x : Exchange)

namespace Query

variable (d : Dialect)

theorem seen_fetchAll : x.seen (q.fetchAll d read) = q.fetching d x (·.mapM read) :=
  seen_build fun _ unlimited => Statement.reads_fetchAllAs unlimited read x

theorem seen_fetchFirst : x.seen (q.fetchFirst? d read) = q.fetching d x read.first? :=
  seen_build fun _ unlimited => Statement.reads_fetchFirstAs unlimited read x

theorem seen_fetchOne : x.seen (q.fetchOne d read) = q.fetching d x read.first :=
  seen_build fun _ unlimited => Statement.reads_fetchOneAs unlimited read x

end Query

namespace Session

variable {s : Session} (unlimited : s.config.timeout = none)
include unlimited

theorem reads_query {statement : Statement} (untimed : statement.timeout = none) :
    statement.Reads x (s.query statement) .ok :=
  Statement.reads_send (by rw [untimed,unlimited]; rfl)

theorem seen_fetchAll : x.seen (s.fetchAll q read) = q.fetching s.dialect x (·.mapM read) :=
  seen_build fun _ untimed =>
    (reads_query x unlimited untimed).andThen (·.mapM read) (fun _ y => run_ofExcept _ y) fun _ => rfl

theorem seen_fetchFirst : x.seen (s.fetchFirst? q read) = q.fetching s.dialect x read.first? :=
  seen_build fun _ untimed =>
    (reads_query x unlimited untimed).andThen read.first? (fun rows y => by cases rows with
      | nil => rfl
      | cons row rows => exact run_some_ofExcept (read row) y) fun _ => rfl

/-- The session reads the first row before it looks whether there is one. -/
theorem seen_fetchOne : x.seen (s.fetchOne q read) = q.fetching s.dialect x read.first := by
  have missing (rows : List Row) : (read.first? rows >>= fun found =>
      found.elim (.error (.notFound "query returned no rows")) .ok) = read.first rows := by
    cases rows with
    | nil => rfl
    | cons row rows =>
      show ((read row).map some >>= _) = read row
      cases read row <;> rfl
  have first := seen_fetchFirst q read x unlimited
  rw [Query.fetching] at first ⊢
  cases built : q.build s.dialect with
  | error e =>
    rw [fetchOne,fetchFirst?,build,built]
    rfl
  | ok statement =>
    rw [built] at first
    have reads : statement.Reads x (s.fetchFirst? q read) read.first? := first
    exact reads.andThen _ (fun found y => by cases found <;> rfl) missing

end Session

namespace Query

variable (d : Dialect)

/-- No row is read: the query cannot be built, or the call of what was built fails. -/
inductive Unanswered (e : Error) : Prop
  | build (refused : q.build d = .error e)
  | call {statement : Statement} (built : q.build d = .ok statement) (failed : x.next.failure = some e)

/-- The query is built and these rows come back. -/
structure Answered (rows : List Row) : Prop where
  built : ∃ statement, q.build d = .ok statement
  arrived : x.next.failure = none
  rows_eq : x.next.rows = rows

variable {q x d} {β : Type} {reading : List Row → Except Error β}

theorem fetching_eq_ok {b : β} (fetched : (q.fetching d x reading).1 = .ok b) :
    ∃ rows, q.Answered x d rows ∧ reading rows = .ok b := by
  rw [fetching] at fetched
  cases built : q.build d with
  | error e => rw [built] at fetched; cases fetched
  | ok statement =>
    rw [built,Response.content] at fetched
    cases failure : x.next.failure with
    | some e => rw [failure] at fetched; cases fetched
    | none =>
      rw [failure] at fetched
      exact ⟨_,⟨⟨statement,built⟩,failure,rfl⟩,fetched⟩

theorem Answered.fetching_eq {rows : List Row} (h : q.Answered x d rows) :
    (q.fetching d x reading).1 = reading rows := by
  obtain ⟨statement,built⟩ := h.built
  rw [fetching,built,Response.content,h.arrived,← h.rows_eq]
  rfl

theorem fetching_eq_error_iff {e : Error} : (q.fetching d x reading).1 = .error e ↔
    q.Unanswered x d e ∨ ∃ rows, q.Answered x d rows ∧ reading rows = .error e := by
  constructor
  · intro refused
    rw [fetching] at refused
    cases built : q.build d with
    | error e' =>
      rw [built] at refused
      cases refused
      exact .inl (.build built)
    | ok statement =>
      rw [built,Response.content] at refused
      cases failure : x.next.failure with
      | some e' =>
        rw [failure] at refused
        cases refused
        exact .inl (.call built failure)
      | none =>
        rw [failure] at refused
        exact .inr ⟨_,⟨⟨statement,built⟩,failure,rfl⟩,refused⟩
  · rintro ((refused | ⟨built,failed⟩) | ⟨rows,answered,fault⟩)
    · rw [fetching,refused]
    · rw [fetching,built,Response.content,failed]
      rfl
    · rw [answered.fetching_eq,fault]

variable {read} {e : Error}

theorem fetching_all_eq_error_iff : (q.fetching d x (·.mapM read)).1 = .error e ↔
    q.Unanswered x d e ∨ ∃ before row after, q.Answered x d (before ++ row :: after) ∧
      (∀ r ∈ before, ∃ a, read r = .ok a) ∧ read row = .error e := by
  rw [fetching_eq_error_iff]
  simp only [read.mapM_eq_error_iff]
  refine or_congr_right ⟨?_,?_⟩
  · rintro ⟨_,answered,before,row,after,rfl,fault⟩
    exact ⟨before,row,after,answered,fault⟩
  · rintro ⟨before,row,after,answered,fault⟩
    exact ⟨_,answered,before,row,after,rfl,fault⟩

theorem fetching_first?_eq_error_iff : (q.fetching d x read.first?).1 = .error e ↔
    q.Unanswered x d e ∨ ∃ row after, q.Answered x d (row :: after) ∧ read row = .error e := by
  rw [fetching_eq_error_iff]
  simp only [read.first?_eq_error_iff]
  refine or_congr_right ⟨?_,?_⟩
  · rintro ⟨_,answered,row,after,rfl,fault⟩
    exact ⟨row,after,answered,fault⟩
  · rintro ⟨row,after,answered,fault⟩
    exact ⟨_,answered,row,after,rfl,fault⟩

theorem fetching_first_eq_error_iff : (q.fetching d x read.first).1 = .error e ↔
    q.Unanswered x d e ∨ (∃ row after, q.Answered x d (row :: after) ∧ read row = .error e) ∨
      q.Answered x d [] ∧ e = .notFound "query returned no rows" := by
  rw [fetching_eq_error_iff]
  simp only [read.first_eq_error_iff]
  refine or_congr_right ⟨?_,?_⟩
  · rintro ⟨_,answered,⟨row,after,rfl,fault⟩ | ⟨rfl,missing⟩⟩
    · exact .inl ⟨row,after,answered,fault⟩
    · exact .inr ⟨answered,missing⟩
  · rintro (⟨row,after,answered,fault⟩ | ⟨answered,missing⟩)
    · exact ⟨_,answered,.inl ⟨row,after,rfl,fault⟩⟩
    · exact ⟨_,answered,.inr ⟨rfl,missing⟩⟩

end Query

/-- **Fetching.** Without a time limit, a session, a query and the built statement fetch alike. Of all
rows, of the first one if there is one, and of one that has to be there, the results agree with each
other; an error comes from the query that cannot be built, from its call, or from the first row that
cannot be read among those that are looked at. -/
theorem fetches_agree {s : Session} (unlimited : s.config.timeout = none) :
    let all := x.seen (s.fetchAll q read)
    let first := x.seen (s.fetchFirst? q read)
    let one := x.seen (s.fetchOne q read)
    (x.seen (q.fetchAll s.dialect read) = all ∧ x.seen (q.fetchFirst? s.dialect read) = first ∧
      x.seen (q.fetchOne s.dialect read) = one) ∧
    (∀ statement, q.build s.dialect = .ok statement →
      x.seen (statement.fetchAllAs read) = all ∧ x.seen (statement.fetchFirstAs? read) = first ∧
        x.seen (statement.fetchOneAs read) = one) ∧
    (∀ values, all.1 = .ok values → first.1 = .ok values.head? ∧
      one.1 = values.head?.elim (.error (.notFound "query returned no rows")) .ok) ∧
    (∀ e, all.1 = .error e ↔ q.Unanswered x s.dialect e ∨ ∃ before row after,
      q.Answered x s.dialect (before ++ row :: after) ∧ (∀ r ∈ before, ∃ a, read r = .ok a) ∧
        read row = .error e) ∧
    (∀ e, first.1 = .error e ↔ q.Unanswered x s.dialect e ∨ ∃ row after,
      q.Answered x s.dialect (row :: after) ∧ read row = .error e) ∧
    (∀ e, one.1 = .error e ↔ q.Unanswered x s.dialect e ∨
      (∃ row after, q.Answered x s.dialect (row :: after) ∧ read row = .error e) ∨
        q.Answered x s.dialect [] ∧ e = .notFound "query returned no rows") := by
  intro all first one
  have all_eq : all = q.fetching s.dialect x (·.mapM read) := s.seen_fetchAll q read x unlimited
  have first_eq : first = q.fetching s.dialect x read.first? := s.seen_fetchFirst q read x unlimited
  have one_eq : one = q.fetching s.dialect x read.first := s.seen_fetchOne q read x unlimited
  rw [all_eq,first_eq,one_eq]
  refine ⟨?queries,?statements,?values,fun e => Query.fetching_all_eq_error_iff,
    fun e => Query.fetching_first?_eq_error_iff,fun e => Query.fetching_first_eq_error_iff⟩
  case queries =>
    exact ⟨q.seen_fetchAll read x _,q.seen_fetchFirst read x _,q.seen_fetchOne read x _⟩
  case statements =>
    intro statement built
    have untimed := Query.timeout_of_build built
    simp only [Query.fetching,built]
    exact ⟨statement.reads_fetchAllAs untimed read x,statement.reads_fetchFirstAs untimed read x,
      statement.reads_fetchOneAs untimed read x⟩
  case values =>
    intro values fetched
    obtain ⟨rows,answered,readable⟩ := Query.fetching_eq_ok fetched
    rw [answered.fetching_eq,answered.fetching_eq]
    exact read.first_of_mapM_eq_ok readable

/-- Of two rows the second one cannot be read: reading all of them fails, the first one is read. -/
theorem fetches_agree_unreadable :
    let s := Session.ofDialect .postgres
    let q := Query.select ((Select.ofColumns ["id"]).fromTable "t")
    let rows : List Row := [⟨[("id",.int 1)]⟩,⟨[("id",.text "x")]⟩]
    let x := Exchange.ofResponses [{ Response.empty with rows := rows }]
    let read := Row.scalar Decoder.int
    s.config.timeout = none ∧
      (x.seen (q.fetchAll .postgres read)).1 = .error (.decode "id" (.mismatch .int .text)) ∧
      (x.seen (q.fetchOne .postgres read)).1 = .ok 1 := by
  intro s q rows x read
  have unlimited : s.config.timeout = none := rfl
  obtain ⟨⟨all,_,one⟩,_,_,faults,_⟩ := fetches_agree q read x unlimited
  refine ⟨unlimited,?_,?_⟩
  · exact (congrArg Prod.fst all).trans ((faults _).mpr (.inr
      ⟨[⟨[("id",.int 1)]⟩],⟨[("id",.text "x")]⟩,[],⟨⟨_,rfl⟩,rfl,rfl⟩,fun r member => ⟨1,by
        rw [List.mem_singleton.mp member]; rfl⟩,rfl⟩))
  · exact (congrArg Prod.fst one).trans rfl

end

end ParamSql
