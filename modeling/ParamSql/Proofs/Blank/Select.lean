import ParamSql.Proofs.Blank
import ParamSql.Proofs.Calls.Insert
import ParamSql.Proofs.Calls.Select
import ParamSql.Proofs.Counting.Clauses

/-! Blank entries in the calls that construct a SELECT. A blank column, GROUP BY column or ORDER BY entry
is left out by its call, wherever it stands; a blank select expression is kept. Main statement: what a
blank entry changes in the build of each statement. -/
namespace ParamSql

namespace Select

variable {s : String}

/-! ## Entries that are left out -/

/-- `s` put into a list of calls, in the columns, the GROUP BY columns or as an ORDER BY entry. -/
inductive Blanked (s : String) : List Call → List Call → Prop
  | columns (before after : List Call) (first rest : List String) :
    Blanked s (before ++ .columns (first ++ rest) :: after)
      (before ++ .columns (first ++ s :: rest) :: after)
  | column (before after : List Call) : Blanked s (before ++ after) (before ++ .columns [s] :: after)
  | grouping (before after : List Call) (first rest : List String) :
    Blanked s (before ++ .groupBy (first ++ rest) :: after)
      (before ++ .groupBy (first ++ s :: rest) :: after)
  | ordering (before after : List Call) : Blanked s (before ++ after) (before ++ .orderBy s :: after)

theorem Blanked.made? (blank : Text.isBlankText s) {calls others : List Call}
    (blanked : Blanked s calls others) : made? others = made? calls := by
  have left (first rest : List String) : (first ++ s :: rest).filter (!Text.isBlankText ·) =
      (first ++ rest).filter (!Text.isBlankText ·) := by
    rw [List.filter_append,List.filter_cons_of_neg (by simp [blank]),List.filter_append]
  cases blanked with
  | columns before after first rest =>
    exact made?_changed before after fun q => by rw [Call.apply,Call.apply,addColumns,addColumns,left]
  | column before after =>
    refine made?_skip before after fun q => ?_
    rw [Call.apply,addColumns,List.filter_cons_of_neg (by simp [blank])]
    cases q
    simp
  | grouping before after first rest =>
    exact made?_changed before after fun q => by rw [Call.apply,Call.apply,groupBy,groupBy,left]
  | ordering before after => exact made?_skip before after (apply_orderBy_of_blank blank)

/-- No item of the query is written as blank text, except for blank select expressions. -/
structure Inked (d : Dialect) (q : Select) : Prop where
  columns : ∀ column ∈ q.columns ++ q.grouping, Text.isBlankText (Identifier.column d column) = false
  ordering : ∀ entry ∈ q.ordering,
    ∃ item, Identifier.orderItem? d entry = some item ∧ Text.isBlankText item = false
  exprs : ∀ e ∈ q.exprs, Text.isBlankText e.1 = false → (Fragment.empty.fill e.1 e.2).isVisible

theorem Call.inked_additions (call : Call) {name : String} (member : name ∈ call.additions.columns ∨
    name ∈ call.additions.grouping ∨ name ∈ call.additions.ordering) : Text.isBlankText name = false := by
  have kept {names : List String} (member : name ∈ names.filter (!Text.isBlankText ·)) :
      Text.isBlankText name = false := by
    simpa using (List.mem_filter.mp member).2
  cases call <;> rcases member with member | member | member <;> first | exact kept member | cases member

theorem inked_of_made (d : Dialect) {calls : List Call} {q : Select} (made : made? calls = .ok q) :
    q.Inked d := by
  obtain rfl := eq_gathered made
  refine ⟨fun column member => ?_,fun entry member => ?_,
    fun e _ inked => Fragment.empty.isVisible_fill e.2 inked⟩
  · rw [Identifier.isBlankText_column]
    rcases List.mem_append.mp member with member | member
    · obtain ⟨call,-,member⟩ := List.mem_flatMap.mp member
      exact call.inked_additions (.inl member)
    · obtain ⟨call,-,member⟩ := List.mem_flatMap.mp member
      exact call.inked_additions (.inr (.inl member))
  · obtain ⟨call,-,member⟩ := List.mem_flatMap.mp member
    exact Identifier.exists_orderItem (call.inked_additions (.inr (.inr member)))

/-! ## Select expressions -/

open Compiled

theorem listItems_append (d : Dialect) (columns : List String)
    (before after : List (String × List Value)) :
    listItems d columns (before ++ after) = listItems d columns before ++ listItems d [] after := by
  rw [listItems,List.map_append,← List.append_assoc]
  rfl

theorem sqlsAfter_listItems (d : Dialect) (count : Nat) (columns : List String)
    (exprs : List (String × List Value)) : sqlsAfter d count (listItems d columns exprs) =
      columns.map (Identifier.column d) ++ sqlsAfter d count (listItems d [] exprs) := by
  induction columns with
  | nil => rfl
  | cons column columns ih =>
    rw [List.map_cons,List.cons_append,← ih]
    show (text (Identifier.column d column)).sqlAfter d count :: _ = _
    rw [sqlAfter_text]
    rfl

theorem listItems_blank (blank : Text.isBlankText s) (d : Dialect) (after : List (String × List Value)) :
    listItems d [] ((s,[]) :: after) = .text s :: listItems d [] after := by
  have alone : ofFragment (Fragment.empty.fill s []) = .text s := by
    rw [Fragment.fill_of_blank blank,ofFragment_text,ofFragment_empty,empty_append]
  exact congrArg (· :: listItems d [] after) alone

theorem sqlAfter_compiledList (d : Dialect) (columns : List String) (exprs : List (String × List Value))
    (count : Nat) : (compiledList d columns exprs).sqlAfter d count =
      Listing.selected.text (sqlsAfter d count (listItems d columns exprs)) := by
  have none : (sqlsAfter d count (listItems d columns exprs)).isEmpty =
      (listItems d columns exprs).isEmpty := by
    cases listItems d columns exprs <;> rfl
  rw [compiledList_eq,Listing.text,none]
  split
  · rw [sqlAfter_text]; rfl
  · rw [sqlAfter_separated]
    exact String.empty_append.symm

/-- The select list stands between two parts that do not depend on it. -/
theorem Clauses.whole_around (c : Clauses) (d : Dialect) (q : Select) : ∃ first last : Compiled,
    c.whole d q = first ++ compiledList d q.columns q.exprs ++ last ∧
    ∀ exprs, c.whole d { q with exprs := exprs } = first ++ compiledList d q.columns exprs ++ last := by
  let opened := Compiled.text (if q.isDistinct then "SELECT DISTINCT " else "SELECT ")
  let tail := c.filters ++ q.compiledTail d
  cases alone : q.combined.isEmpty with
  | true =>
    refine ⟨c.header ++ opened,tail ++ c.others,?_,fun exprs => ?_⟩
    · simp only [whole,member,alone,if_true,append_assoc,opened,tail]
    · simp only [whole,member,alone,if_true,append_assoc,opened,tail]
      rfl
  | false =>
    refine ⟨c.header ++ .text "(" ++ opened,tail ++ .text ")" ++ c.others,?_,fun exprs => ?_⟩
    · simp only [whole,member,alone,Bool.false_eq_true,if_false,append_assoc,opened,tail]
    · simp only [whole,member,alone,Bool.false_eq_true,if_false,append_assoc,opened,tail]
      rfl

/-- A blank expression has neither arguments nor a mismatch, so what stands behind it stays as it is. -/
theorem itemWritten_between (blank : Text.isBlankText s) (d : Dialect) (columns : List String)
    (before after : List (String × List Value)) (first last : Compiled) :
    ItemWritten .selected (sqlsAfter d first.args.length (listItems d columns before)) s
      (sqlsAfter d (first.args.length + ((listItems d columns before).flatMap (·.args)).length)
        (listItems d [] after))
      ((first ++ compiledList d columns (before ++ after) ++ last).build d)
      ((first ++ compiledList d columns (before ++ (s,[]) :: after) ++ last).build d) := by
  have shown : Listing.selected.bare ≠ Listing.selected.keyword ++ s := by
    intro star
    have star : "*" = s := star.trans String.empty_append
    rw [← star] at blank
    revert blank
    decide
  have items : listItems d columns (before ++ (s,[]) :: after) =
      listItems d columns before ++ .text s :: listItems d [] after := by
    rw [listItems_append,listItems_blank blank]
  have args : (first ++ compiledList d columns (before ++ (s,[]) :: after)).args =
      (first ++ compiledList d columns (before ++ after)).args := by
    rw [args_append,args_append,args_compiledList,args_compiledList,items,listItems_append,
      List.flatMap_append,List.flatMap_append,List.flatMap_cons]
    rfl
  have mismatch : (first ++ compiledList d columns (before ++ (s,[]) :: after) ++ last).mismatch =
      (first ++ compiledList d columns (before ++ after) ++ last).mismatch := by
    simp only [mismatch_append,mismatch_compiledList,items,listItems_append,List.findSome?_append,
      List.findSome?_cons,mismatch_text]
  cases clean : (first ++ compiledList d columns (before ++ after) ++ last).mismatch with
  | some m =>
    rw [build_error_iff.mpr ⟨m,clean,rfl⟩,build_error_iff.mpr ⟨m,mismatch.trans clean,rfl⟩]
    exact .of_refused ..
  | none =>
    rw [build_of_clean clean,build_of_clean (mismatch.trans clean)]
    refine .of_written shown (fun _ failed => nomatch failed) fun t built => ?_
    cases built
    refine ⟨first.sqlAfter d 0,
      last.sqlAfter d (first ++ compiledList d columns (before ++ after)).args.length,?_,?_⟩
    · rw [sqlAfter_append,sqlAfter_append,Nat.zero_add,Nat.zero_add,sqlAfter_compiledList,
        listItems_append,sqlsAfter_append]
    · rw [sqlAfter_append,sqlAfter_append,Nat.zero_add,Nat.zero_add,sqlAfter_compiledList,items,
        sqlsAfter_append,sqlsAfter,sqlAfter_text,args_append _ last,args]
      rfl

/-- A blank select expression is written as an item, behind the columns and the expressions before it. -/
theorem itemWritten_of_blank (blank : Text.isBlankText s) (d : Dialect) {q : Select}
    {before after : List (String × List Value)} (exprs : q.exprs = before ++ after) :
    ∃ first rest, first.length = before.length ∧ rest.length = after.length ∧
      ItemWritten .selected (q.columns.map (Identifier.column d) ++ first) s rest (q.build d)
        ({ q with exprs := before ++ (s,[]) :: after }.build d) := by
  have texts (count : Nat) (exprs : List (String × List Value)) :
      (sqlsAfter d count (listItems d [] exprs)).length = exprs.length := by
    rw [length_sqlsAfter,listItems,List.map_nil,List.nil_append,List.length_map]
  have same : { q with exprs := before ++ (s,[]) :: after }.clauses d = q.clauses d := rfl
  rw [build_eq_clauses,build_eq_clauses,same]
  cases q.clauses d with
  | error e => exact ⟨_,_,texts 0 before,texts 0 after,.of_refused ..⟩
  | ok c =>
    obtain ⟨first,last,whole,changed⟩ := c.whole_around d q
    have between := itemWritten_between blank d q.columns before after first last
    rw [← exprs,← whole,← changed,sqlsAfter_listItems] at between
    exact ⟨_,_,texts _ before,texts _ after,between⟩

theorem made?_blankExpr (blank : Text.isBlankText s) (before after : List Call) :
    made? (before ++ .expr s [] :: after) = (made? (before ++ after)).map fun q =>
      { q with exprs := (Additions.ofCalls before).exprs ++ (s,[]) :: (Additions.ofCalls after).exprs } := by
  have added : (Call.expr s []).additions = { exprs := [(s,[])] } := by
    simp [Call.additions,Fragment.mismatch?_of_blank blank []]
  have fault : (Call.expr s []).fault? = none := rfl
  have exprs : gathered (before ++ .expr s [] :: after) = { gathered (before ++ after) with
      exprs := (Additions.ofCalls before).exprs ++ (s,[]) :: (Additions.ofCalls after).exprs } := by
    simp [gathered,Additions.ofCalls,Additions.toSelect,added]
  rw [made?_eq,made?_eq,List.findSome?_append,List.findSome?_cons,fault,List.findSome?_append,exprs]
  cases (before.findSome? (·.fault?)).or (after.findSome? (·.fault?)) <;> rfl

end Select

/-- A blank column, GROUP BY column or ORDER BY entry changes nothing, and no item of a SELECT is written
blank unless it is a blank select expression. Such an expression and a blank RETURNING column are kept: the
statement has one item more, or fails where there is no RETURNING. -/
theorem blank_entries_built {s : String} (blank : Text.isBlankText s) (d : Dialect) :
    (∀ calls others, Select.Blanked s calls others → Select.made? others = Select.made? calls) ∧
    (∀ calls q, Select.made? calls = .ok q → q.Inked d) ∧
    (∀ before after e, Select.made? (before ++ after) = .error e →
      Select.made? (before ++ .expr s [] :: after) = .error e) ∧
    (∀ before after q, Select.made? (before ++ after) = .ok q →
      ∃ r first rest, Select.made? (before ++ .expr s [] :: after) = .ok r ∧
        first.length = (Select.gathered before).exprs.length ∧
        rest.length = (Select.gathered after).exprs.length ∧
        ItemWritten .selected (q.columns.map (Identifier.column d) ++ first) s rest (q.build d)
          (r.build d)) ∧
    ∀ before after : List String,
      (∀ q : Insert, BlankReturned d s before after
        fun columns => { q with returning := columns }.build d) ∧
      (∀ q : Update, BlankReturned d s before after
        fun columns => { q with returning := columns }.build d) ∧
      (∀ q : Delete, BlankReturned d s before after
        fun columns => { q with returning := columns }.build d) ∧
      (∀ q : Upsert, BlankReturned d s before after
        fun columns => { q with insert := { q.insert with returning := columns } }.build d) ∧
      ∀ q : BatchInsert, BlankReturned d s before after
        fun columns => { q with returning := columns }.build d := by
  refine ⟨fun calls others blanked => blanked.made? blank,fun calls q made => Select.inked_of_made d made,
    fun before after e failed => ?_,fun before after q made => ?_,fun before after =>
      ⟨(·.blankReturned blank d before after),(·.blankReturned blank d before after),
        (·.blankReturned blank d before after),(·.blankReturned blank d before after),
        (·.blankReturned blank d before after)⟩⟩
  · rw [Select.made?_blankExpr blank,failed]
    rfl
  · have exprs : q.exprs =
        (Select.Additions.ofCalls before).exprs ++ (Select.Additions.ofCalls after).exprs := by
      rw [Select.eq_gathered made]
      exact List.flatMap_append
    obtain ⟨first,rest,behind,ahead,written⟩ := Select.itemWritten_of_blank blank d exprs
    exact ⟨_,first,rest,by rw [Select.made?_blankExpr blank,made]; rfl,behind,ahead,written⟩

theorem blank_entries_built_mixed :
    let kept : List Select.Call := [.columns ["id"],.expr "1" []]
    let q := Insert.made "t" [.set (.set "a" (.int 1))]
    Text.isBlankText "\t " ∧
      Select.made? [.fromTable "t",.columns ["id","\t ","name"],.limit 1] =
        Select.made? [.fromTable "t",.columns ["id","name"],.limit 1] ∧
      Select.made? kept = .ok (Select.gathered kept) ∧
      (∃ r first rest, Select.made? [.columns ["id"],.expr "\t " [],.expr "1" []] = .ok r ∧
        first.length = 0 ∧ rest.length = 1 ∧
        ItemWritten .selected (["id"].map (Identifier.column .mysql) ++ first) "\t " rest
          ((Select.gathered kept).build .mysql) (r.build .mysql)) ∧
      { q with returning := ["\t "] }.build .mysql = .error (.unsupported "RETURNING" .mysql) ∧
      q.build .mysql = .ok ⟨"INSERT INTO `t` (`a`) VALUES (?)",[.int 1],none,none⟩ := by
  intro kept q
  have blank : Text.isBlankText "\t " := by decide
  have made : Select.made? kept = .ok (Select.gathered kept) := rfl
  have alone : q.build .mysql = .ok ⟨"INSERT INTO `t` (`a`) VALUES (?)",[.int 1],none,none⟩ := by decide
  obtain ⟨left,-,-,written,returned⟩ := blank_entries_built blank .mysql
  refine ⟨blank,left _ _ (.columns [.fromTable "t"] [.limit 1] ["id"] ["name"]),made,
    written [.columns ["id"]] [.expr "1" []] _ made,?_,alone⟩
  exact ((returned [] []).1 q).alone rfl rfl _ alone

/-- Both kinds of entries that are kept, beside the same calls without them. -/
theorem blank_items_written :
    let returned (columns : List String) := Insert.made "t" [.set (.set "a" (.int 1)),.returning columns]
    let selected (calls : List Select.Call) := Select.made? (.fromTable "t" :: calls)
    Text.isBlankText " " ∧ Text.isBlankText "" ∧
      (returned ["id"," "]).build .postgres =
        .ok ⟨"INSERT INTO \"t\" (\"a\") VALUES ($1) RETURNING \"id\", ",[.int 1],none,none⟩ ∧
      (returned ["id"]).build .postgres =
        .ok ⟨"INSERT INTO \"t\" (\"a\") VALUES ($1) RETURNING \"id\"",[.int 1],none,none⟩ ∧
      (selected [.expr "" []] >>= (·.build .postgres)) = .ok ⟨"SELECT  FROM \"t\"",[],none,none⟩ ∧
      (selected [] >>= (·.build .postgres)) = .ok ⟨"SELECT * FROM \"t\"",[],none,none⟩ := by
  intro returned selected
  exact ⟨by decide,by decide,by decide,by decide,by decide,by decide⟩

end ParamSql
