import ParamSql.Proofs.Sending

/-! The time limits of a configuration. A span is held as a number of milliseconds in 64 bits, so a
span of 2^64 milliseconds or more is held as what is left of it. Main statement: the limit in force
after any calls is what was held of the span set last; it is that span in whole milliseconds, or the
longest that fits, unless something of it was lost. -/
namespace ParamSql

namespace Duration

/-- What 64 bits hold of a span. -/
def held (d : Duration) : Duration := .ofMillis (d.millis % UInt64.size)

/-- A span in whole milliseconds, or the longest that 64 bits hold. -/
def clamped (d : Duration) : Duration := .ofMillis (min d.millis (UInt64.size - 1))

theorem ofMillis_inj {m n : Nat} : ofMillis m = ofMillis n ↔ m = n := by
  rw [ofMillis,ofMillis,Duration.mk.injEq]
  omega

theorem held_eq_clamped_iff (d : Duration) :
    d.held = d.clamped ↔ d.millis < UInt64.size ∨ d.millis % UInt64.size = UInt64.size - 1 := by
  rw [held,clamped,ofMillis_inj]
  unfold UInt64.size
  omega

theorem millis_mono {d e : Duration} (shorter : d.nanos ≤ e.nanos) : d.millis ≤ e.millis :=
  Nat.div_le_div_right shorter

/-- Spans keep their order where the words count the same number of rounds. -/
theorem held_mono {d e : Duration} (shorter : d.nanos ≤ e.nanos)
    (round : d.millis / UInt64.size = e.millis / UInt64.size) : d.held.nanos ≤ e.held.nanos := by
  have millis := millis_mono shorter
  have words : d.millis % UInt64.size ≤ e.millis % UInt64.size := by
    unfold UInt64.size at round ⊢
    omega
  exact Nat.mul_le_mul_right 1000000 words

theorem ofMillis_word (d : Duration) : ofMillis (UInt64.ofNat d.millis).toNat = d.held := by
  rw [UInt64.toNat_ofNat']
  rfl

theorem held_eq_zero_iff (d : Duration) : d.held.nanos = 0 ↔ UInt64.size ∣ d.millis := by
  change d.millis % UInt64.size * 1000000 = 0 ↔ _
  omega

end Duration

namespace Config

theorem timeout_withTimeout (c : Config) (d : Duration) : (c.withTimeout d).timeout = some d.held :=
  congrArg some d.ofMillis_word

theorem slowThreshold_withSlowThreshold (c : Config) (d : Duration) :
    (c.withSlowThreshold d).slowThreshold = some d.held :=
  congrArg some d.ofMillis_word

/-! ## Calls -/

inductive Call where
  | driver (name : String)
  | timeout (d : Duration)
  | slowThreshold (d : Duration)
  | logSql (enabled : Bool)

namespace Call

def apply (c : Config) : Call → Config
  | driver name => c.withDriver name
  | timeout d => c.withTimeout d
  | slowThreshold d => c.withSlowThreshold d
  | logSql enabled => c.withLogSql enabled

def timeout? : Call → Option Duration
  | timeout d => some d
  | _ => none

def slowThreshold? : Call → Option Duration
  | slowThreshold d => some d
  | _ => none

theorem timeout_apply (c : Config) (call : Call) :
    (call.apply c).timeout = (call.timeout?.map (·.held)).or c.timeout := by
  cases call with
  | timeout d => exact c.timeout_withTimeout d
  | driver | slowThreshold | logSql => exact Option.none_or.symm

theorem slowThreshold_apply (c : Config) (call : Call) :
    (call.apply c).slowThreshold = (call.slowThreshold?.map (·.held)).or c.slowThreshold := by
  cases call with
  | slowThreshold d => exact c.slowThreshold_withSlowThreshold d
  | driver | timeout | logSql => exact Option.none_or.symm

end Call

/-- A setting that a call may change is in the end what was set last. -/
theorem last_set {α : Type} {setting : Config → Option α} {set? : Call → Option α}
    (step : ∀ c call, setting (Call.apply c call) = (set? call).or (setting c)) (c : Config)
    (calls : List Call) :
    setting (calls.foldl Call.apply c) = (calls.filterMap set?).getLast?.or (setting c) := by
  induction calls generalizing c with
  | nil => exact Option.none_or.symm
  | cons call calls ih =>
    rw [List.foldl_cons,ih,step,← Option.or_assoc]
    congr 1
    cases given : set? call with
    | none => rw [List.filterMap_cons_none given,Option.or_none]
    | some a =>
      rw [List.filterMap_cons_some given,List.getLast?_cons]
      cases (calls.filterMap set?).getLast? <;> rfl

end Config

/-- After any calls a limit is what 64 bits hold of the span set last, and statements without a limit
of their own wait for it. Spans below 2^64 milliseconds are only rounded down; of longer ones the
multiples of 2^64 milliseconds are lost. -/
theorem limits_held (c : Config) (calls : List Config.Call) :
    let made := calls.foldl Config.Call.apply c
    made.timeout = (calls.filterMap fun call => call.timeout?.map (·.held)).getLast?.or c.timeout ∧
    made.slowThreshold =
      (calls.filterMap fun call => call.slowThreshold?.map (·.held)).getLast?.or c.slowThreshold ∧
    (∀ (d : Dialect) (s : Statement) (via : Via) (x : Exchange), s.timeout = none →
      (((⟨d,made⟩ : Session).send s via).run.run x).1 = x.next.outcome made.timeout) ∧
    ∀ d : Duration,
      (d.held = d.clamped ↔ d.millis < UInt64.size ∨ d.millis % UInt64.size = UInt64.size - 1) ∧
      (d.held.nanos = 0 ↔ UInt64.size ∣ d.millis) ∧
      ∀ e : Duration, d.nanos ≤ e.nanos → d.millis / UInt64.size = e.millis / UInt64.size →
        d.held.nanos ≤ e.held.nanos := by
  intro made
  refine ⟨Config.last_set Config.Call.timeout_apply c calls,
    Config.last_set Config.Call.slowThreshold_apply c calls,fun d s via x unlimited => ?_,
    fun d => ⟨d.held_eq_clamped_iff,d.held_eq_zero_iff,fun e shorter round =>
      Duration.held_mono shorter round⟩⟩
  rw [Session.run_send,unlimited]
  rfl

theorem limits_held_hour :
    let made := [Config.Call.timeout (.ofSeconds 9 0),.logSql false,.timeout (.ofSeconds 3600 1)].foldl
      Config.Call.apply .default
    let late : Response := { Response.empty with latency := .never }
    made.timeout = some (.ofSeconds 3600 0) ∧
      (((⟨.postgres,made⟩ : Session).send (.ofSql "SELECT 1" []) .query).run.run
        (.ofResponses [late])).1 = .error (.timeout (.ofSeconds 3600 0)) ∧
      (Duration.ofSeconds 9 0).held.nanos ≤ (Duration.ofSeconds 3600 1).held.nanos := by
  intro made late
  obtain ⟨limit,-,sent,spans⟩ := limits_held .default
    [Config.Call.timeout (.ofSeconds 9 0),.logSql false,.timeout (.ofSeconds 3600 1)]
  have kept : made.timeout = some (.ofSeconds 3600 0) := limit
  refine ⟨kept,?_,(spans (.ofSeconds 9 0)).2.2 (.ofSeconds 3600 1) (by decide) (by decide)⟩
  have answered := sent .postgres (.ofSql "SELECT 1" []) .query (.ofResponses [late]) rfl
  change _ = Response.outcome _ made.timeout at answered
  rw [answered,kept]
  rfl

/-- A span of 2^64 milliseconds is held as no time at all, and so a call that answers after one
millisecond is too late. -/
theorem long_limit_lost :
    let d := Duration.ofSeconds 18446744073709551 616000000
    let made := Config.default.withTimeout d
    let late : Response := { Response.empty with latency := .after (.ofMillis 1) }
    d.nanos < UInt64.size * 1000000000 ∧ 1 ≤ d.millis ∧ d.held.nanos < (Duration.ofMillis 1).held.nanos ∧
      made.timeout = some (.ofMillis 0) ∧ made.timeout ≠ some d.clamped ∧
      (Config.default.withSlowThreshold d).slowThreshold = some (.ofMillis 0) ∧
      (((⟨.postgres,made⟩ : Session).send (.ofSql "SELECT 1" []) .query).run.run
        (.ofResponses [late])).1 = .error (.timeout (.ofMillis 0)) := by
  intro d made late
  have lost : made.timeout = some (.ofMillis 0) := by decide
  refine ⟨by decide,by decide,by decide,lost,by decide,by decide,?_⟩
  rw [Session.run_send]
  change late.outcome made.timeout = _
  rw [lost]
  rfl

end ParamSql
