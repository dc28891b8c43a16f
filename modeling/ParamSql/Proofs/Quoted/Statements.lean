import ParamSql.Proofs.Conflict.Text
import ParamSql.Proofs.Quoted
import ParamSql.Proofs.Returning

/-! Where names stand in INSERT, UPDATE and their batches. Each statement has an outline, which its
writer follows step by step; a list of parts is followed by one induction. -/
namespace ParamSql

/-! ## Writers -/

/-- A writer of nothing, or of text that begins with a blank. -/
structure Trails (w : Fragment → Fragment) : Prop where
  append : ∀ f, w f = f.append (w .empty)
  spaced : ∀ symbol, (w .empty).word.head? = some symbol → symbol = .char ' '

namespace Trails

variable {v w : Fragment → Fragment}

theorem skip : Trails id := ⟨fun f => f.append_empty.symm,fun _ head => by cases head⟩

theorem comp (first : Trails w) (second : Trails v) : Trails fun f => v (w f) := by
  constructor
  · intro f
    rw [second.append (w f),first.append f,second.append (w .empty),Fragment.append_assoc]
  · intro symbol head
    rw [second.append,Fragment.word_append,List.head?_append,Option.or_eq_some_iff] at head
    rcases head with head | ⟨-,head⟩
    · exact first.spaced symbol head
    · exact second.spaced symbol head

/-- A keyword behind a blank, and anything after it. -/
theorem headed (keyword : String) (blank : keyword.toList.head? = some ' ')
    (append : ∀ f, v f = f.append (v .empty)) : Trails fun f => v (f.text keyword) := by
  constructor
  · intro f
    rw [append,append (Fragment.empty.text keyword),Fragment.append_assoc,Fragment.append_text,
      Fragment.append_empty]
  · intro symbol head
    rw [append,Fragment.word_append,Fragment.word_text,Fragment.word_empty,List.nil_append,
      Symbol.ofText,List.head?_append,List.head?_map,blank] at head
    exact (Option.some_inj.mp head).symm

theorem text (s : String) (blank : s.toList.head? = some ' ') : Trails (Fragment.text · s) :=
  headed s blank fun f => f.append_empty.symm

theorem clause (keyword : String) (blank : keyword.toList.head? = some ' ') (d : Dialect)
    (g : ConditionGroup) : Trails (g.writeClause keyword d) := by
  unfold ConditionGroup.writeClause
  split
  · exact skip
  · exact headed keyword blank (g.writeTo_append d)

theorem arms (column : String) (rows : List (Value × KeyMap Value)) :
    Trails (BatchUpdate.writeArms column rows) := by
  induction rows with
  | nil => exact skip
  | cons row rows ih =>
    obtain ⟨key,values⟩ := row
    cases given : values.get? column with
    | none =>
      have same : BatchUpdate.writeArms column ((key,values) :: rows) =
          BatchUpdate.writeArms column rows := by
        funext f
        rw [BatchUpdate.writeArms,given]
      rw [same]
      exact ih
    | some v =>
      have same : BatchUpdate.writeArms column ((key,values) :: rows) = fun f =>
          BatchUpdate.writeArms column rows ((((f.text " WHEN ").bind key).text " THEN ").bind v) := by
        funext f
        rw [BatchUpdate.writeArms,given]
      have arm : Trails fun f => (((f.text " WHEN ").bind key).text " THEN ").bind v :=
        headed " WHEN " rfl (v := fun f => ((f.bind key).text " THEN ").bind v) fun f => by simp
      rw [same]
      exact arm.comp ih

end Trails

theorem Fragment.bindList_append (f : Fragment) (values : List Value) :
    f.bindList values = f.append (empty.bindList values) := by
  have rest (values : List Value) (f g : Fragment) :
      (f.append g).bindRest values = f.append (g.bindRest values) := by
    induction values generalizing g with
    | nil => rfl
    | cons v values ih => rw [bindRest,bindRest,← ih,append_bind,append_text]
  cases values with
  | nil => simp [bindList]
  | cons v values => rw [bindList,bindList,← rest,append_bind,append_empty]

theorem Assignment.writeTo_append (a : Assignment) (f : Fragment) :
    a.writeTo f = f.append (a.writeTo .empty) := by
  cases a <;> simp [writeTo]

/-! ## Outlines -/

namespace Outline

def returned (d : Dialect) (columns : List String) : Outline :=
  if columns.isEmpty then []
  else text " RETURNING " ++ text (String.intercalate ", " (columns.map (Identifier.column d)))

end Outline

open Outline

/-- An INSERT without what it returns. -/
def Insert.base (d : Dialect) (q : Insert) : Outline :=
  text "INSERT INTO " ++ text (Identifier.table d q.table) ++
    if q.fields.isEmpty then
      text (match d with
        | .mysql => " () VALUES ()"
        | .postgres | .sqlite => " DEFAULT VALUES")
    else
      text " (" ++ quoted q.columns ++ text ") VALUES (" ++
        listed true (q.fields.entries.map fun e => written (e.2.writeTo .empty)) ++ text ")"

def Insert.outline (d : Dialect) (q : Insert) : Outline := q.base d ++ returned d q.returning

namespace Upsert

def proposal (d : Dialect) (column : String) : Outline :=
  match d with
  | .postgres | .sqlite => [.name column] ++ text " = EXCLUDED." ++ [.name column]
  | .mysql => [.name column] ++ text " = VALUES(" ++ [.name column] ++ text ")"

/-- What a conflict does. -/
def resolution (d : Dialect) (q : Upsert) : Outline :=
  let columns := q.overwritten
  match d with
  | .postgres | .sqlite =>
    text " ON CONFLICT (" ++ quoted q.target ++ text ")" ++
      if columns.isEmpty then text " DO NOTHING"
      else text " DO UPDATE SET " ++ listed true (columns.map (proposal d))
  | .mysql =>
    text " ON DUPLICATE KEY UPDATE " ++
      if columns.isEmpty then
        match q.target with
        | key :: _ => [.name key] ++ text " = " ++ [.name key]
        | [] => []
      else listed true (columns.map (proposal d))

def outline (d : Dialect) (q : Upsert) : Outline :=
  q.insert.base d ++ q.resolution d ++ returned d q.insert.returning

end Upsert

namespace Update

def target (e : String × Assignment) : Outline :=
  [.name e.1] ++ text " = " ++ written (e.2.writeTo .empty)

def outline (d : Dialect) (q : Update) : Outline :=
  text "UPDATE " ++ text (Identifier.table d q.table) ++ text " SET " ++
    listed true (q.fields.entries.map target) ++
    written (q.conditions.writeClause " WHERE " d .empty) ++ returned d q.returning

end Update

namespace BatchInsert

def row (values : List Value) : Outline :=
  text "(" ++ written (Fragment.empty.bindList values) ++ text ")"

def outline (d : Dialect) (q : BatchInsert) : Outline :=
  text "INSERT INTO " ++ text (Identifier.table d q.table) ++ text " (" ++ quoted q.columns.keys ++
    text ") VALUES " ++ listed true (q.rows.map row) ++ returned d q.returning

end BatchInsert

namespace BatchUpdate

def target (q : BatchUpdate) (column : String) : Outline :=
  [.name column] ++ text " = CASE " ++ [.name q.key] ++ written (writeArms column q.rows .empty) ++
    text " ELSE " ++ [.name column] ++ text " END"

def outline (d : Dialect) (q : BatchUpdate) : Outline :=
  text "UPDATE " ++ text (Identifier.table d q.table) ++ text " SET " ++
    listed true (q.columns.map q.target) ++ text " WHERE " ++ [.name q.key] ++ text " IN (" ++
    written (Fragment.empty.bindList (q.rows.map (·.1))) ++ text ")"

end BatchUpdate

/-! ## Steps -/

/-- The writer refuses, or it writes as the outline has it. -/
def Drawn (d : Dialect) (o : Outline) (x : Except Error Fragment) : Prop :=
  ∀ f, x = .ok f → Outlined d false o f

namespace Drawn

variable {d : Dialect} {o p : Outline} {x : Except Error Fragment}

theorem refused (e : Error) : Drawn d o (.error e) := nofun

theorem written {f : Fragment} (h : Outlined d false o f) : Drawn d o (.ok f) := by
  rintro g ⟨⟩
  exact h

theorem andThen {next : Fragment → Except Error Fragment} (h : Drawn d o x)
    (rest : ∀ {f : Fragment}, Outlined d false o f → Drawn d p (next f)) : Drawn d p (x >>= next) := by
  cases x with
  | error e => exact refused e
  | ok f => exact rest (h f rfl)

theorem namesAt? {s : Statement} (h : Drawn d o x)
    (built : (x >>= fun out => out.build d) = .ok s) : s.namesAt? d o = some (names o) := by
  cases x with
  | error e => cases built
  | ok f => exact (h f rfl).namesAt? built

end Drawn

namespace Outlined

variable {d : Dialect} {closed first : Bool} {o : Outline} {f : Fragment} {w : Fragment → Fragment}

theorem free (h : Outlined d true o f) (append : w f = f.append (w .empty)) :
    Outlined d true (o ++ written (w .empty)) (w f) :=
  append ▸ h.append (w .empty)

theorem bindList (h : Outlined d true o f) (values : List Value) :
    Outlined d true (o ++ written (Fragment.empty.bindList values)) (f.bindList values) :=
  h.free (w := (Fragment.bindList · values)) (f.bindList_append values)

theorem trail (h : Outlined d closed o f) (trails : Trails w) :
    Outlined d false (o ++ written (w .empty)) (w f) := by
  have more : (w f).word = f.word ++ (w .empty).word := by rw [trails.append,Fragment.word_append]
  refine h.spell more (.inr fun symbol head => ?_) nofun
  rw [trails.spaced symbol head]
  cases d <;> simp [Dialect.quoteMark]

theorem returning (h : Outlined d closed o f) (columns : List String) :
    Drawn d (o ++ returned d columns) (f.returning d columns) := by
  rw [Fragment.returning,returned]
  split
  · rw [List.append_nil]
    exact .written h.loosen
  · rw [← List.append_assoc]
    split
    · exact .written ((h.keyword " RETURNING " rfl).text _).loosen
    · exact .refused _

/-- A comma stands before every part but the first. -/
theorem separate (h : Outlined d first o f) :
    Outlined d true (o ++ if first then [] else Outline.text ", ") (if first then f else f.text ", ") := by
  cases first with
  | true => exact (List.append_nil o).symm ▸ h
  | false => exact h.keyword ", " rfl

theorem list {α : Type} {outline : α → Outline} {item : α → Fragment → Fragment}
    {w : Bool → List α → Fragment → Fragment} (stop : ∀ first f, w first [] f = f)
    (step : ∀ first x xs f, w first (x :: xs) f = w false xs (item x (if first then f else f.text ", ")))
    (each : ∀ x {o : Outline} {f : Fragment}, Outlined d true o f →
      Outlined d false (o ++ outline x) (item x f)) (xs : List α) (h : Outlined d first o f) :
    Outlined d false (o ++ listed first (xs.map outline)) (w first xs f) := by
  induction xs generalizing first o f with
  | nil =>
    rw [stop,List.map_nil,listed,List.append_nil]
    exact h.loosen
  | cons x xs ih =>
    rw [step,List.map_cons,listed,← List.append_assoc,← List.append_assoc]
    exact ih (each x h.separate)

theorem texts {α : Type} {outline : α → Outline} {render : α → String}
    (each : ∀ x {o : Outline} {f : Fragment}, Outlined d true o f →
      Outlined d false (o ++ outline x) (f.text (render x))) (xs : List α) (h : Outlined d true o f) :
    Outlined d false (o ++ listed true (xs.map outline))
      (f.text (String.intercalate ", " (xs.map render))) := by
  -- Text that is joined at once is what a writer of one item after the other gives.
  let joined (first : Bool) (xs : List α) (f : Fragment) : Fragment :=
    f.text (if first then String.intercalate ", " (xs.map render)
      else String.join (xs.map (", " ++ render ·)))
  have stop (first : Bool) (f : Fragment) : joined first [] f = f := by cases first <;> simp [joined]
  have step (first : Bool) (x : α) (xs : List α) (f : Fragment) : joined first (x :: xs) f =
      joined false xs ((if first then f else f.text ", ").text (render x)) := by
    cases first <;>
      simp [joined,Fragment.text_text,intercalate_cons,Function.comp_def,String.append_assoc]
  exact list stop step each xs h

theorem idents (h : Outlined d true o f) (names : List String) :
    Outlined d false (o ++ quoted names) (f.idents d names) :=
  texts (fun n _ _ h => h.name n) names h

theorem proposals (h : Outlined d true o f) (columns : List String) :
    Outlined d false (o ++ listed true (columns.map (Upsert.proposal d)))
      (f.text (Upsert.proposals d columns)) := by
  refine texts (fun column o f h => ?_) columns h
  have target := h.name column
  cases d with
  | postgres | sqlite =>
    have proposed := (target.keyword " = EXCLUDED." rfl).name column
    simpa [Upsert.proposal,Fragment.ident,Fragment.text_text,List.append_assoc] using proposed
  | mysql =>
    have proposed := ((target.keyword " = VALUES(" rfl).name column).keyword ")" rfl
    simpa [Upsert.proposal,Fragment.ident,Fragment.text_text,List.append_assoc] using proposed.loosen

/-! ## Statements -/

theorem insert (q : Insert) : Outlined d true (q.base d) (q.writeTo d .empty) := by
  have headed := (start.text "INSERT INTO ").text (Identifier.table d q.table) (d := d)
  unfold Insert.writeTo Insert.base
  split
  · exact headed.text _
  · have columns := (headed.text " (").idents q.columns
    have values := list (fun _ _ => rfl) (fun _ _ _ _ => rfl)
      (fun (e : String × Assignment) _ _ h => (h.free (e.2.writeTo_append _)).loosen) q.fields.entries
      (columns.keyword ") VALUES (" rfl) (w := Insert.writeAssignments)
    simpa only [List.append_assoc,List.nil_append] using values.keyword ")" rfl

theorem resolve (q : Upsert) (targeted : q.target ≠ []) (h : Outlined d closed o f) :
    Outlined d false (o ++ q.resolution d) (f.text (q.conflictText d)) := by
  have aimed := (h.keyword " ON CONFLICT (" rfl).idents q.target
  have listed := aimed.keyword ")" rfl
  have written := Upsert.writeConflict?_eq d targeted f
  -- The writer takes the steps of the outline; all of them together write one text.
  unfold Upsert.writeConflict? at written
  unfold Upsert.resolution
  cases d with
  | postgres | sqlite =>
    dsimp only at written ⊢
    by_cases kept : q.overwritten.isEmpty
    · rw [if_pos kept] at written ⊢
      rw [← Option.some_inj.mp written]
      simpa only [List.append_assoc] using (listed.keyword " DO NOTHING" rfl).loosen
    · rw [if_neg kept] at written ⊢
      rw [← Option.some_inj.mp written]
      have proposed := (listed.keyword " DO UPDATE SET " rfl).proposals q.overwritten
      simpa only [List.append_assoc] using proposed
  | mysql =>
    have opened := h.keyword " ON DUPLICATE KEY UPDATE " rfl
    dsimp only at written ⊢
    by_cases kept : q.overwritten.isEmpty
    · obtain ⟨key,rest,target⟩ := List.exists_cons_of_ne_nil targeted
      rw [if_pos kept,target] at written
      rw [if_pos kept,target,← Option.some_inj.mp written]
      have named := ((opened.name key).keyword " = " rfl).name key
      simpa only [List.append_assoc] using named
    · rw [if_neg kept] at written ⊢
      rw [← Option.some_inj.mp written]
      simpa only [List.append_assoc] using opened.proposals q.overwritten

theorem upsert (q : Upsert) (targeted : q.target ≠ []) : Drawn d (q.outline d)
    (((q.insert.writeTo d .empty).text (q.conflictText d)).returning d q.insert.returning) :=
  ((insert q.insert).resolve q targeted).returning q.insert.returning

theorem target (e : String × Assignment) (h : Outlined d true o f) :
    Outlined d false (o ++ Update.target e) (e.2.writeTo ((f.ident d e.1).text " = ")) := by
  have assigned := (h.name e.1).keyword " = " rfl
  have valued := (assigned.free (e.2.writeTo_append _)).loosen
  simpa only [Update.target,List.append_assoc] using valued

theorem update (q : Update) :
    Drawn d (q.outline d) ((q.writeTo d .empty).returning d q.returning) := by
  have headed := (start.text "UPDATE ").text (Identifier.table d q.table) (d := d)
  have assigned := list (fun _ _ => rfl) (fun _ _ _ _ => rfl) (fun e _ _ h => h.target e)
    q.fields.entries (headed.text " SET ") (w := Update.writeAssignments d)
  have filtered := assigned.trail (.clause " WHERE " rfl d q.conditions)
  have ended : Drawn d _ ((q.writeTo d .empty).returning d q.returning) :=
    filtered.returning q.returning
  simpa only [Update.outline,List.append_assoc,List.nil_append] using ended

theorem row (values : List Value) (h : Outlined d true o f) :
    Outlined d false (o ++ BatchInsert.row values) (((f.text "(").bindList values).text ")") := by
  have valued := ((h.text "(").bindList values).text ")"
  simpa only [BatchInsert.row,List.append_assoc] using valued.loosen

theorem batchInsert (q : BatchInsert) :
    Drawn d (q.outline d) ((q.writeTo d .empty).returning d q.returning) := by
  have headed := (start.text "INSERT INTO ").text (Identifier.table d q.table) (d := d)
  have columns := (headed.text " (").idents q.columns.keys
  have valued := list (fun _ _ => rfl) (fun _ _ _ _ => rfl) (fun values _ _ h => h.row values)
    q.rows (columns.keyword ") VALUES " rfl) (w := BatchInsert.writeRows)
  have ended : Drawn d _ ((q.writeTo d .empty).returning d q.returning) :=
    valued.returning q.returning
  simpa only [BatchInsert.outline,List.append_assoc,List.nil_append] using ended

theorem caseTarget (q : BatchUpdate) (column : String) (h : Outlined d true o f) :
    Outlined d false (o ++ q.target column)
      ((((BatchUpdate.writeArms column q.rows (((f.ident d column).text " = CASE ").ident d q.key)).text
        " ELSE ").ident d column).text " END") := by
  have keyed := ((h.name column).keyword " = CASE " rfl).name q.key
  have arms := keyed.trail (.arms column q.rows)
  have default := ((arms.keyword " ELSE " rfl).name column).keyword " END" rfl
  simpa only [BatchUpdate.target,List.append_assoc] using default.loosen

theorem batchUpdate (q : BatchUpdate) : Outlined d true (q.outline d) (q.writeTo d .empty) := by
  have headed := (start.text "UPDATE ").text (Identifier.table d q.table) (d := d)
  have assigned := list (fun _ _ => rfl) (fun _ _ _ _ => rfl) (fun column _ _ h => h.caseTarget q column)
    q.columns (headed.text " SET ") (w := BatchUpdate.writeColumns d q)
  have keyed := (assigned.keyword " WHERE " rfl).name q.key
  have listed := (keyed.keyword " IN (" rfl).bindList (q.rows.map (·.1))
  have closed : Outlined d true _ (q.writeTo d .empty) := listed.text ")"
  simpa only [BatchUpdate.outline,List.append_assoc,List.nil_append] using closed

end Outlined

end ParamSql
