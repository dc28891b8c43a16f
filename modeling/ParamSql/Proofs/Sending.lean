import ParamSql.Session

/-! What one call gives and leaves. The answer counts if it comes within the limit and is no failure; in
any case the call is one more that was sent. -/
namespace ParamSql

namespace Response

/-- The answer, unless it is a failure. -/
def content (r : Response) : Except Error Response :=
  match r.failure with
  | some e => .error e
  | none => .ok r

/-- What a caller gets who waits within a limit. -/
def outcome (r : Response) (limit : Option Duration) : Except Error Response :=
  match limit with
  | some limit => if r.latency.exceeds limit then .error (.timeout limit) else r.content
  | none => r.content

theorem eq_of_outcome {r answer : Response} {limit : Option Duration}
    (arrived : r.outcome limit = .ok answer) : answer = r := by
  have given (kept : r.content = .ok answer) : answer = r := by
    rw [content] at kept
    split at kept
    next => cases kept
    next => cases kept; rfl
  unfold outcome at arrived
  split at arrived
  next =>
    split at arrived
    next => cases arrived
    next => exact given arrived
  next => exact given arrived

theorem outcome_prompt {r : Response} (answered : r.failure = none) (prompt : r.latency = .immediate)
    (limit : Option Duration) : r.outcome limit = .ok r := by
  unfold outcome content
  rw [answered,prompt]
  cases limit <;> rfl

end Response

/-- The exchange after the call of a statement. -/
def Exchange.calling (x : Exchange) (s : Statement) (via : Via) (log : SqlLog) : Exchange :=
  ((x.report (log.before s)).call ⟨via,s.sql,s.args⟩).report (log.after s x.next.elapsed)

theorem Statement.run_send (s : Statement) (via : Via) (limit : Option Duration) (log : SqlLog)
    (x : Exchange) : (s.send via limit log).run.run x =
      (x.next.outcome (s.timeout.or limit),x.calling s via log) := by
  -- What is left to do once the call is made.
  let answer : ExchangeM Response := match x.next.failure with
    | some error => throw error
    | none => pure x.next
  have answered : answer.run.run (x.calling s via log) = (x.next.content,x.calling s via log) := by
    unfold answer Response.content
    cases x.next.failure <;> rfl
  unfold send Response.outcome
  cases s.timeout.or limit with
  | none => exact answered
  | some limit =>
    change (if x.next.latency.exceeds limit then throw (.timeout limit) else answer).run.run
      (x.calling s via log) =
        (if x.next.latency.exceeds limit then .error (.timeout limit) else x.next.content,_)
    cases x.next.latency.exceeds limit with
    | true => rfl
    | false => exact answered

namespace Session

theorem run_send (s : Session) (statement : Statement) (via : Via) (x : Exchange) :
    (s.send statement via).run.run x =
      (x.next.outcome (statement.timeout.or s.config.timeout),x.calling statement via s.log) :=
  statement.run_send via _ _ x

theorem run_query (s : Session) (statement : Statement) (x : Exchange) :
    (s.query statement).run.run x =
      ((x.next.outcome (statement.timeout.or s.config.timeout)).map (·.rows),
        x.calling statement .query s.log) := by
  rw [query,ExceptT.run_bind,StateT.run_bind,run_send]
  cases x.next.outcome _ <;> rfl

theorem run_exec (s : Session) (statement : Statement) (x : Exchange) :
    (s.exec statement).run.run x =
      ((x.next.outcome (statement.timeout.or s.config.timeout)).map (·.result),
        x.calling statement .execute s.log) := by
  rw [exec,ExceptT.run_bind,StateT.run_bind,run_send]
  cases x.next.outcome _ <;> rfl

end Session

end ParamSql
