import ParamSql.Proofs.Creation.Insert
import ParamSql.Proofs.Sending

/-! What the creation of a record does. One call is made. After an error the record has not been touched;
otherwise it is handed the key that the answer reports, if its key was left to the database, and the
creation succeeds whatever becomes of the key. Main statement: a creation is this, whatever is
answered. The keys that a record is handed are noted by the record itself. -/
namespace ParamSql

/-! ## Reported keys -/

namespace Response

/-- The key that an answer reports: the integer in the first cell of the first row where columns can
be returned, or else the last inserted key. -/
def key? (r : Response) (d : Dialect) : Option Int64 :=
  if d.hasReturning then
    match r.rows with
    | ⟨(_,.int key) :: _⟩ :: _ => some key
    | _ => none
  else r.result.lastId

/-- What is read from the answer to an INSERT: its result, and a key that may be missing. -/
def inserted (r : Response) (d : Dialect) : ExecResult × Except Error (Option Int64) :=
  if d.hasReturning then
    (⟨UInt64.ofNat r.rows.length,none⟩,match r.rows.head? with
      | some row => (Row.scalar Decoder.int row).map some
      | none => .ok none)
  else (r.result,.ok r.result.lastId)

theorem key?_inserted (r : Response) (d : Dialect) : (r.inserted d).2.toOption.join = r.key? d := by
  unfold inserted key?
  cases d.hasReturning with
  | false => rfl
  | true =>
    simp only [if_true]
    cases r.rows with
    | nil => rfl
    | cons row rows =>
      obtain ⟨cells⟩ := row
      cases cells with
      | nil => rfl
      | cons cell cells =>
        obtain ⟨name,v⟩ := cell
        cases v <;> rfl

end Response

namespace RecordType

variable {ρ : Type} (t : RecordType ρ) (r : ρ)

/-- The key that a record is handed after an answer. -/
def handed? (d : Dialect) (response : Response) : Option Int64 :=
  (t.generatedKey? (t.values r)).bind fun _ => response.key? d

/-- What a record makes of the key that was reported, and of the result that stands beside it. -/
def taking (result : ExecResult) : Option Int64 → ExecResult × ρ
  | some key =>
    (if (t.storeKey r key).1.isOk then { result with lastId := some key } else result,
      (t.storeKey r key).2)
  | none => (result,r)

def keyEvents (column : String) : Except Error (Option Int64) → List LogEvent
  | .ok (some key) =>
    match (t.storeKey r key).1 with
    | .ok _ => []
    | .error e => [.keyNotStored t.table column e]
  | .ok none => [.keyNotReported t.table column]
  | .error e => [.keyNotStored t.table column e]

/-- The result of a creation and the record after an answer. -/
def created (d : Dialect) (response : Response) : ExecResult × ρ :=
  match t.generatedKey? (t.values r) with
  | none => (response.result,r)
  | some _ => t.taking r (response.inserted d).1 (response.key? d)

def createdEvents (d : Dialect) (response : Response) : List LogEvent :=
  match t.generatedKey? (t.values r) with
  | none => []
  | some column => t.keyEvents r column (response.inserted d).2

theorem mem_handed?_iff {t : RecordType ρ} {r : ρ} {d : Dialect} {key : Int64} {response : Response} :
    key ∈ (t.handed? r d response).toList ↔
      (∃ column, t.primaryKey = [column] ∧ ∀ v, (t.values r).get? column = some v → v = .null) ∧
        response.key? d = some key := by
  rw [Option.mem_toList,handed?,Option.bind_eq_some_iff,exists_and_right]
  simp only [generatedKey?_eq_some_iff]

theorem created_snd (d : Dialect) (response : Response) : (t.created r d response).2 =
    (t.handed? r d response).toList.foldl (fun r key => (t.storeKey r key).2) r := by
  unfold created handed? taking
  cases t.generatedKey? (t.values r) with
  | none => rfl
  | some column => cases response.key? d <;> rfl

end RecordType

/-- A record with the keys that it was handed so far. -/
structure Noted (ρ : Type) where
  record : ρ
  keys : List Int64

namespace RecordType

variable {ρ : Type}

/-- Records that note the keys that they are handed. -/
def noting (t : RecordType ρ) : RecordType (Noted ρ) where
  table := t.table
  primaryKey := t.primaryKey
  values r := t.values r.record
  storeKey r key := ((t.storeKey r.record key).1,⟨(t.storeKey r.record key).2,r.keys ++ [key]⟩)

theorem created_noting (t : RecordType ρ) (r : ρ) (d : Dialect) (response : Response) :
    t.noting.created ⟨r,[]⟩ d response = ((t.created r d response).1,
      ⟨(t.created r d response).2,(t.handed? r d response).toList⟩) := by
  have same : t.noting.generatedKey? (t.noting.values ⟨r,[]⟩) = t.generatedKey? (t.values r) := rfl
  unfold created handed? taking
  rw [same]
  cases t.generatedKey? (t.values r) with
  | none => rfl
  | some column => cases response.key? d <;> rfl

end RecordType

theorem Exchange.report_nil (x : Exchange) : x.report [] = x := by rw [report,List.append_nil]

namespace Session

variable {ρ : Type} {s : Session} {t : RecordType ρ} {r : ρ} {x : Exchange} {statement : Statement}

theorem build_eq {q : Query} (built : q.build s.dialect = .ok statement) :
    s.build q = pure statement := by
  rw [build,built]
  rfl

theorem run_storeKey (t : RecordType ρ) (r : ρ) (column : String) (result : ExecResult)
    (key : Except Error (Option Int64)) (x : Exchange) : (storeKey t r column result key).run x =
      (t.taking r result key.toOption.join,x.report (t.keyEvents r column key)) := by
  cases key with
  | error e => rfl
  | ok key =>
    cases key with
    | none => rfl
    | some key =>
      unfold storeKey RecordType.taking RecordType.keyEvents
      dsimp only [Except.toOption,Option.join,Option.bind,id]
      cases taken : t.storeKey r key with
      | mk outcome left =>
        cases outcome with
        | error e => rfl
        | ok _ => rw [x.report_nil]; rfl

theorem run_execute {q : Query} (built : q.build s.dialect = .ok statement) (x : Exchange) :
    (s.execute q).run.run x =
      ((x.next.outcome (statement.timeout.or s.config.timeout)).map (·.result),
        x.calling statement .execute s.log) := by
  rw [execute,build_eq built,pure_bind,run_exec]

theorem run_insertKeyed {q : Insert} {column : String}
    (built : (if s.dialect.hasReturning then q.addReturning [column] else q).build s.dialect =
      .ok statement) (x : Exchange) : (s.insertKeyed q column).run.run x =
      ((x.next.outcome (statement.timeout.or s.config.timeout)).map (·.inserted s.dialect),
        x.calling statement (if s.dialect.hasReturning then .query else .execute) s.log) := by
  unfold insertKeyed Response.inserted
  cases returning : s.dialect.hasReturning with
  | true =>
    rw [returning,if_pos rfl] at built
    have built : (Query.insert (q.addReturning [column])).build s.dialect = .ok statement := built
    rw [if_pos rfl,build_eq built,pure_bind,ExceptT.run_bind,StateT.run_bind,run_query]
    cases x.next.outcome _ <;> rfl
  | false =>
    rw [returning,if_neg nofun] at built
    have built : (Query.insert q).build s.dialect = .ok statement := built
    rw [if_neg nofun,ExceptT.run_bind,StateT.run_bind,run_execute built]
    cases x.next.outcome _ <;> rfl

theorem run_create (built : (t.creating s.dialect r).build s.dialect = .ok statement) (x : Exchange) :
    (s.create t r).run x =
      match x.next.outcome (statement.timeout.or s.config.timeout) with
      | .error e => ((.error e,r),x.calling statement (t.creatingVia s.dialect r) s.log)
      | .ok response =>
        ((.ok (t.created r s.dialect response).1,(t.created r s.dialect response).2),
          (x.calling statement (t.creatingVia s.dialect r) s.log).report
            (t.createdEvents r s.dialect response)) := by
  unfold create RecordType.created RecordType.createdEvents RecordType.creatingVia
  unfold RecordType.creating at built
  cases generated : t.generatedKey? (t.values r) with
  | none =>
    rw [generated] at built
    have built : (Query.insert (t.insert r)).build s.dialect = .ok statement := built
    dsimp only
    rw [StateT.run_bind,run_execute built]
    cases x.next.outcome _ with
    | error e => rfl
    | ok response => dsimp only; rw [Exchange.report_nil]; rfl
  | some column =>
    rw [generated] at built
    dsimp only at built ⊢
    rw [StateT.run_bind,run_insertKeyed built,Option.isSome_some,Bool.true_and]
    cases x.next.outcome _ with
    | error e => rfl
    | ok response =>
      have ran := run_storeKey t r column (response.inserted s.dialect).1
        (response.inserted s.dialect).2
        (x.calling statement (if s.dialect.hasReturning then .query else .execute) s.log)
      rw [response.key?_inserted] at ran
      exact congrArg (fun run : (ExecResult × ρ) × Exchange =>
        (((.ok run.1.1,run.1.2),run.2) : (Except Error ExecResult × ρ) × Exchange)) ran

/-- What a creation does: its outcome, what is left of the record with the keys that it was handed,
and the exchange afterwards. -/
structure Creation (s : Session) (t : RecordType ρ) (r : ρ) (x : Exchange)
    (outcome : Except Error ExecResult) (left : Noted ρ) (after : Exchange) : Prop where
  plain : (s.create t r).run x = ((outcome,left.record),after)
  /-- Only the INSERT and its call can fail. -/
  failed (e : Error) : outcome = .error e ↔ (t.creating s.dialect r).build s.dialect = .error e ∨
    ∃ statement, (t.creating s.dialect r).build s.dialect = .ok statement ∧
      ((s.send statement (t.creatingVia s.dialect r)).run.run x).1 = .error e
  untouched {e : Error} : outcome = .error e → left = ⟨r,[]⟩
  once : left.keys.length ≤ 1
  handed (key : Int64) : key ∈ left.keys ↔ (∃ result, outcome = .ok result) ∧
    (∃ column, t.primaryKey = [column] ∧ ∀ v, (t.values r).get? column = some v → v = .null) ∧
    x.next.key? s.dialect = some key
  stored : left.record = left.keys.foldl (fun r key => (t.storeKey r key).2) r
  /-- The one call names the columns of the record and binds their values, but for a generated key. -/
  sent : ∃ statement, (t.creating s.dialect r).build s.dialect = .ok statement ∧
    after.sent = x.sent ++ [⟨t.creatingVia s.dialect r,statement.sql,statement.args⟩] ∧
    statement.namesAt? s.dialect ((t.creating s.dialect r).outline s.dialect) =
      some ((t.given r).map (·.1)) ∧
    statement.args = (t.given r).map (·.2)

theorem call_failed_iff {q : Insert} {via : Via} (built : q.build s.dialect = .ok statement)
    (x : Exchange) (e : Error) : (q.build s.dialect = .error e ∨
      ∃ statement, q.build s.dialect = .ok statement ∧ ((s.send statement via).run.run x).1 = .error e) ↔
        x.next.outcome (statement.timeout.or s.config.timeout) = .error e := by
  rw [built]
  constructor
  · rintro (refused | ⟨other,same,called⟩)
    · cases refused
    · cases same
      rwa [run_send] at called
  · exact fun called => .inr ⟨statement,rfl,by rw [run_send]; exact called⟩

/-- A creation is this, whatever the record is and whatever is answered. -/
theorem create_atomic (s : Session) (t : RecordType ρ) (r : ρ) (x : Exchange) :
    ∃ outcome left after, (s.create t.noting ⟨r,[]⟩).run x = ((outcome,left),after) ∧
      s.Creation t r x outcome left after := by
  obtain ⟨statement,built,-,names,args⟩ := t.exists_creating s.dialect r
  -- Records that note their keys are inserted by the same statement.
  have noted : (t.noting.creating s.dialect ⟨r,[]⟩).build s.dialect = .ok statement := built
  have ran := run_create built x
  have notedRun := run_create noted x
  cases called : x.next.outcome (statement.timeout.or s.config.timeout) with
  | error e =>
    rw [called] at ran notedRun
    exact ⟨.error e,⟨r,[]⟩,_,notedRun,{
      plain := ran
      failed := fun f => by rw [call_failed_iff built,called,Except.error.injEq,Except.error.injEq]
      untouched := fun _ => rfl
      once := Nat.zero_le 1
      handed := fun key => ⟨nofun,fun h => nomatch h.1.choose_spec⟩
      stored := rfl
      sent := ⟨statement,built,rfl,names,args⟩ }⟩
  | ok response =>
    obtain rfl := Response.eq_of_outcome called
    rw [called] at ran notedRun
    dsimp only at notedRun
    rw [t.created_noting] at notedRun
    exact ⟨_,_,_,notedRun,{
      plain := ran
      failed := fun f => by
        rw [call_failed_iff built,called]
        exact ⟨nofun,nofun⟩
      untouched := nofun
      once := Option.length_toList_le
      handed := fun key => RecordType.mem_handed?_iff.trans ⟨fun h => ⟨⟨_,rfl⟩,h⟩,fun h => h.2⟩
      stored := t.created_snd r s.dialect x.next
      sent := ⟨statement,built,rfl,names,args⟩ }⟩

end Session

end ParamSql
