import ParamSql.Proofs.Creation

/-! The two ways in which a generated key is reported: in the row that RETURNING gives, or as the last
inserted key. Main statement: both leave the same record, and both give the same result if the record
takes the key. If it refuses, only a last inserted key stays in the result. -/
namespace ParamSql.Session

variable {ρ : Type} {s : Session} {t : RecordType ρ} {r : ρ} {x : Exchange} {column : String} {key : Int64}

theorem create_keyed (generated : t.generatedKey? (t.values r) = some column)
    (arrived : x.next.outcome s.config.timeout = .ok x.next)
    (reported : x.next.key? s.dialect = some key) : ((s.create t r).run x).1 =
      (.ok (t.taking r (x.next.inserted s.dialect).1 (some key)).1,(t.storeKey r key).2) := by
  obtain ⟨statement,built,timeout,-⟩ := t.exists_creating s.dialect r
  have created : t.created r s.dialect x.next =
      t.taking r (x.next.inserted s.dialect).1 (some key) := by
    rw [RecordType.created,generated,reported]
  rw [run_create built,timeout,Option.none_or,arrived]
  dsimp only
  rw [created]
  rfl

theorem create_returned (returning : s.dialect.hasReturning)
    (generated : t.generatedKey? (t.values r) = some column)
    (arrived : x.next.outcome s.config.timeout = .ok x.next) {name : String}
    {cells : List (String × Value)} (rows : x.next.rows = [⟨(name,.int key) :: cells⟩]) :
    ((s.create t r).run x).1 =
      (.ok ⟨1,if (t.storeKey r key).1.isOk then some key else none⟩,(t.storeKey r key).2) := by
  have reported : x.next.key? s.dialect = some key := by
    unfold Response.key?
    rw [returning,rows]
    rfl
  have inserted : (x.next.inserted s.dialect).1 = ⟨1,none⟩ := by
    unfold Response.inserted
    rw [returning,rows]
    rfl
  rw [create_keyed generated arrived reported,inserted,RecordType.taking]
  cases (t.storeKey r key).1.isOk <;> rfl

theorem create_reported (plain : s.dialect.hasReturning = false)
    (generated : t.generatedKey? (t.values r) = some column)
    (arrived : x.next.outcome s.config.timeout = .ok x.next)
    (result : x.next.result = ⟨1,some key⟩) :
    ((s.create t r).run x).1 = (.ok ⟨1,some key⟩,(t.storeKey r key).2) := by
  have reported : x.next.key? s.dialect = some key := by
    unfold Response.key?
    rw [plain,result]
    rfl
  have inserted : (x.next.inserted s.dialect).1 = ⟨1,some key⟩ := by
    unfold Response.inserted
    rw [plain,result]
    rfl
  rw [create_keyed generated arrived reported,inserted,RecordType.taking]
  cases (t.storeKey r key).1.isOk <;> rfl

/-- Whatever the record does with the key, it is left the same. The creations agree if it takes the key;
if it refuses, the result has no key after RETURNING and keeps a last inserted key. -/
theorem generated_keys_agree {m : Session} {y : Exchange} {name : String}
    {cells : List (String × Value)} (generated : t.generatedKey? (t.values r) = some column)
    (returning : s.dialect.hasReturning) (arrived : x.next.outcome s.config.timeout = .ok x.next)
    (rows : x.next.rows = [⟨(name,.int key) :: cells⟩])
    (mysql : m.dialect = .mysql) (inTime : y.next.outcome m.config.timeout = .ok y.next)
    (result : y.next.result = ⟨1,some key⟩) :
    ((s.create t r).run x).1 =
      (.ok ⟨1,if (t.storeKey r key).1.isOk then some key else none⟩,(t.storeKey r key).2) ∧
    ((m.create t r).run y).1 = (.ok ⟨1,some key⟩,(t.storeKey r key).2) ∧
    (((s.create t r).run x).1 = ((m.create t r).run y).1 ↔ (t.storeKey r key).1.isOk) := by
  have plain : m.dialect.hasReturning = false := by rw [mysql]; rfl
  have returned := create_returned returning generated arrived rows
  have reported := create_reported plain generated inTime result
  refine ⟨returned,reported,?_⟩
  rw [returned,reported]
  cases (t.storeKey r key).1.isOk <;> simp

/-- Records that refuse negative keys. -/
theorem generated_keys_agree_signs :
    let t : RecordType (KeyMap Value) := ⟨"events",["id"],id,fun r key =>
      if key < 0 then RecordType.refuseKey "events" r key else (.ok (),r.insert "id" (.int key))⟩
    let r : KeyMap Value := .ofList [("id",.null),("name",.text "n")]
    let returned (key : Int64) := ((ofDialect .postgres).create t r).run
      (.ofResponses [{ Response.empty with rows := [⟨[("id",.int key)]⟩] }])
    let reported (key : Int64) := ((ofDialect .mysql).create t r).run
      (.ofResponses [{ Response.empty with result := ⟨1,some key⟩ }])
    (returned 7).1 = (reported 7).1 ∧ (returned (-7)).1 ≠ (reported (-7)).1 := by
  intro t r returned reported
  have agree (key : Int64) : (returned key).1 = (reported key).1 ↔ (t.storeKey r key).1.isOk :=
    (generated_keys_agree rfl rfl rfl rfl rfl rfl rfl).2.2
  exact ⟨(agree 7).mpr (by decide),fun same => absurd ((agree (-7)).mp same) (by decide)⟩

/-- A record that refuses every key. -/
theorem refused_key_kept :
    let t : RecordType (KeyMap Value) := ⟨"tags",["id"],id,RecordType.refuseKey "tags"⟩
    let r : KeyMap Value := .ofList [("id",.null)]
    let returned := ((ofDialect .sqlite).create t r).run
      (.ofResponses [{ Response.empty with rows := [⟨[("id",.int 5)]⟩] }])
    let reported := ((ofDialect .mysql).create t r).run
      (.ofResponses [{ Response.empty with result := ⟨1,some 5⟩ }])
    returned.1 ≠ reported.1 ∧ returned.1 = (.ok ⟨1,none⟩,r) ∧ reported.1 = (.ok ⟨1,some 5⟩,r) := by
  intro t r returned reported
  have left : returned.1 = (.ok ⟨1,none⟩,r) := rfl
  have right : reported.1 = (.ok ⟨1,some 5⟩,r) := rfl
  refine ⟨?_,left,right⟩
  rw [left,right]
  simp

end ParamSql.Session
