import ParamSql.Proofs.Compiled.Parts
import ParamSql.Proofs.Counting
import ParamSql.Proofs.Reported
import ParamSql.Proofs.Template.Runs

/-! The clauses of a query and of its count. Both are put together from the same compiled clauses: the
count has COUNT(*) in the place of the select list, or it stands over the query as a subquery behind
the WITH clause. So both are refused alike, and the count binds what the query binds outside its
select list. -/
namespace ParamSql

namespace Select
open Compiled

/-- The WITH clause. -/
def header (d : Dialect) (q : Select) : Except Error Compiled := do
  let queries ← compiledCtes d q.ctes
  return .text (withKeywords q.ctes) ++ .separated ", " queries ++
    if q.ctes.isEmpty then .empty else .text " "

/-- The clauses from FROM through HAVING. -/
def filters (d : Dialect) (q : Select) : Except Error Compiled := do
  let source ← compiledSource d q.source
  return source ++ .concat (q.joins.map (·.compiled d)) ++
    q.conditions.compiledClause " WHERE " d ++ compiledGrouping d q.grouping ++
    q.groupConditions.compiledClause " HAVING " d

/-- The clauses that may hold other queries; `others` are the set operations. -/
structure Clauses where
  header : Compiled
  filters : Compiled
  others : Compiled

def clauses (d : Dialect) (q : Select) : Except Error Clauses :=
  match q.misuse with
  | some misuse => .error (.validation misuse)
  | none => do
    let header ← q.header d
    let filters ← q.filters d
    let others ← compiledCombined d q.combined
    return ⟨header,filters,others⟩

/-- The query without its WITH clause and its set operations. -/
def member (d : Dialect) (q : Select) (filters tail : Compiled) : Compiled :=
  let bare := .text (if q.isDistinct then "SELECT DISTINCT " else "SELECT ") ++
    compiledList d q.columns q.exprs ++ filters ++ tail
  if q.combined.isEmpty then bare else .text "(" ++ bare ++ .text ")"

/-- The clauses behind HAVING. -/
def compiledTail (d : Dialect) (q : Select) : Compiled :=
  compiledOrdering d q.ordering ++ compiledLimit d q.limit q.offset

def Clauses.whole (d : Dialect) (q : Select) (c : Clauses) : Compiled :=
  c.header ++ q.member d c.filters (q.compiledTail d) ++ c.others

/-- The count of a query, from the clauses of the query. -/
def Clauses.counted (d : Dialect) (q : Select) (c : Clauses) : Compiled :=
  if q.countsSubquery then
    c.header ++ .text "SELECT COUNT(*) FROM (" ++ (q.member d c.filters .empty ++ c.others) ++
      .text ") AS " ++ .text (d.quote "count_subquery")
  else c.header ++ .text "SELECT COUNT(*)" ++ c.filters

theorem compiled_eq_clauses (d : Dialect) (q : Select) : q.compiled d = (q.clauses d).map (·.whole d q) := by
  obtain ⟨ctes,columns,exprs,isDistinct,source,joins,conditions,grouping,groupConditions,ordering,
    limit,offset,combined,misuse⟩ := q
  cases misuse with
  | some misuse => rw [compiled]; rfl
  | none =>
    rw [compiled,clauses,header,filters]
    dsimp only
    cases compiledCtes d ctes with
    | error e => rfl
    | ok queries =>
      cases compiledSource d source with
      | error e => rfl
      | ok tables =>
        cases compiledCombined d combined with
        | error e => rfl
        | ok others =>
          simp only [bind,Except.bind,pure,Except.pure,Except.map,Clauses.whole,member,compiledTail,
            Compiled.append_assoc]

theorem clauses_eq_ok_iff {d : Dialect} {q : Select} {c : Clauses} : q.clauses d = .ok c ↔
    q.misuse = none ∧ q.header d = .ok c.header ∧ q.filters d = .ok c.filters ∧
      compiledCombined d q.combined = .ok c.others := by
  obtain ⟨header,filters,others⟩ := c
  rw [clauses]
  cases q.misuse with
  | some misuse => simp
  | none =>
    cases q.header d with
    | error e => simp [bind,Except.bind]
    | ok header =>
      cases q.filters d with
      | error e => simp [bind,Except.bind]
      | ok filters => cases compiledCombined d q.combined <;> simp [bind,Except.bind,pure,Except.pure]

/-! What is not given compiles to nothing. -/

@[simp] theorem compiledOrdering_nil (d : Dialect) : compiledOrdering d [] = .empty := rfl

@[simp] theorem compiledLimit_none (d : Dialect) : compiledLimit d none none = .empty := rfl

@[simp] theorem compiledGrouping_nil (d : Dialect) : compiledGrouping d [] = .empty := rfl

@[simp] theorem compiledClause_empty (keyword : String) (d : Dialect) :
    ConditionGroup.empty.compiledClause keyword d = .empty := rfl

theorem compiledList_countRows (d : Dialect) : compiledList d [] [("COUNT(*)",[])] = .text "COUNT(*)" := by
  have filled : Fragment.empty.fill "COUNT(*)" [] = Fragment.empty.text "COUNT(*)" :=
    Fragment.fill_unmarked (by decide) _ (by decide)
  simp [compiledList,separated,concat,filled]

theorem text_countRows : Compiled.text "SELECT COUNT(*)" = .text "SELECT " ++ .text "COUNT(*)" :=
  text_append "SELECT " "COUNT(*)"

/-- The query under a count has no WITH clause, and it is not refused if the query is not. -/
theorem compiled_counted {q : Select} (accepted : q.misuse = none) (d : Dialect) :
    q.counted.compiled d = (do
      let filters ← q.filters d
      let others ← compiledCombined d q.combined
      return q.member d filters .empty ++ others) := by
  have bare : q.counted.header d = .ok .empty := rfl
  have same : q.counted.filters d = q.filters d := rfl
  rw [compiled_eq_clauses,clauses,bare,same]
  simp only [counted,accepted]
  cases q.filters d with
  | error e => rfl
  | ok filters =>
    cases compiledCombined d q.combined with
    | error e => rfl
    | ok others =>
      simp only [bind,Except.bind,pure,Except.pure,Except.map,Clauses.whole,empty_append,compiledTail,
        compiledOrdering_nil,compiledLimit_none]
      rfl

theorem compiled_counting_subquery {q : Select} (subquery : q.countsSubquery) (d : Dialect) :
    q.counting.compiled d = (q.clauses d).map (·.counted d q) := by
  have opened : Compiled.text "SELECT COUNT(*) FROM (" = .text "SELECT COUNT(*)" ++ .text " FROM (" :=
    text_append "SELECT COUNT(*)" " FROM ("
  rw [compiled_eq_clauses,counting,if_pos subquery,clauses,clauses]
  dsimp only [star]
  cases accepted : q.misuse with
  | some misuse => rfl
  | none =>
    rw [filters,compiledSource,compiled_counted accepted,compiledCombined]
    show Except.map _ (q.header d >>= _) = Except.map _ (q.header d >>= _)
    cases q.header d with
    | error e => rfl
    | ok header =>
      cases q.filters d with
      | error e => rfl
      | ok filters =>
        cases compiledCombined d q.combined with
        | error e => rfl
        | ok others =>
          simp [bind,Except.bind,pure,Except.pure,Except.map,Clauses.counted,Clauses.whole,member,
            compiledTail,subquery,opened,text_countRows,compiledList_countRows,append_assoc,concat]

theorem compiled_counting_plain {q : Select} (plain : q.countsSubquery = false) (d : Dialect) :
    q.counting.compiled d = (q.clauses d).map (·.counted d q) := by
  have same : q.counting.clauses d = q.clauses d := by
    rw [counting,plain]
    rfl
  rw [compiled_eq_clauses,same]
  cases compiled : q.clauses d with
  | error e => rfl
  | ok c =>
    have others := (clauses_eq_ok_iff.mp compiled).2.2.2
    simp only [countsSubquery,Bool.or_eq_false_iff,Bool.not_eq_false',List.isEmpty_iff] at plain
    obtain ⟨⟨distinct,grouping⟩,combined⟩ := plain
    rw [combined,compiledCombined] at others
    simp [Except.map,Clauses.counted,Clauses.whole,member,compiledTail,counting,countsSubquery,distinct,
      grouping,combined,text_countRows,compiledList_countRows,append_assoc,← Except.ok.inj others]

/-- A count is built from the clauses of its query. -/
theorem buildCount_eq_clauses (q : Select) (d : Dialect) :
    q.buildCount d = (q.clauses d).map (·.counted d q) >>= (·.build d) := by
  rw [← build_counting,build_eq_compiled]
  cases subquery : q.countsSubquery with
  | true => rw [compiled_counting_subquery subquery]
  | false => rw [compiled_counting_plain subquery]

/-! ## What both bind -/

def listItems (d : Dialect) (columns : List String) (exprs : List (String × List Value)) :
    List Compiled :=
  columns.map (fun column => .text (Identifier.column d column)) ++
    exprs.map fun e => .ofFragment (Fragment.empty.fill e.1 e.2)

/-- Without items, a star is listed. -/
theorem compiledList_eq (d : Dialect) (columns : List String) (exprs : List (String × List Value)) :
    compiledList d columns exprs =
      if (listItems d columns exprs).isEmpty then .text "*"
      else .separated ", " (listItems d columns exprs) := by
  rw [compiledList,listItems]
  cases columns <;> cases exprs <;> rfl

theorem args_compiledList (d : Dialect) (columns : List String) (exprs : List (String × List Value)) :
    (compiledList d columns exprs).args = (listItems d columns exprs).flatMap (·.args) := by
  rw [compiledList_eq]
  split
  next none => rw [List.isEmpty_iff.mp none]; rfl
  next => rw [args_separated]

theorem mismatch_compiledList (d : Dialect) (columns : List String) (exprs : List (String × List Value)) :
    (compiledList d columns exprs).mismatch = (listItems d columns exprs).findSome? (·.mismatch) := by
  rw [compiledList_eq]
  split
  next none => rw [List.isEmpty_iff.mp none]; rfl
  next => rw [mismatch_separated_eq]

theorem compiledList_keeps (d : Dialect) (columns : List String) {exprs : List (String × List Value)}
    (matching : ∀ e ∈ exprs, (Template.mk e.1 e.2).Matches) :
    (compiledList d columns exprs).mismatch = none ∧
      (compiledList d columns exprs).args = exprs.flatMap (·.2) := by
  have filled : ∀ e ∈ exprs, (ofFragment (Fragment.empty.fill e.1 e.2)).mismatch = none ∧
      (ofFragment (Fragment.empty.fill e.1 e.2)).args = e.2 := by
    intro e member
    have counted : Fragment.markerCount e.1.toList = e.2.length := matching e member
    refine ⟨(Fragment.mismatch_fill_eq_none _ ⟨e.1,e.2⟩).mpr ⟨rfl,counted⟩,?_⟩
    rw [ofFragment,Fragment.args_fill,counted,List.take_length]
    rfl
  rw [mismatch_compiledList,args_compiledList,List.findSome?_eq_none_iff,listItems]
  constructor
  · intro part member
    rcases List.mem_append.mp member with named | raw
    · obtain ⟨column,-,rfl⟩ := List.mem_map.mp named
      rfl
    · obtain ⟨e,inside,rfl⟩ := List.mem_map.mp raw
      exact (filled e inside).1
  · rw [List.flatMap_append,List.flatMap_map,List.flatMap_map]
    have bare : columns.flatMap (fun column => (text (Identifier.column d column)).args) = [] :=
      List.flatMap_eq_nil_iff.mpr fun _ _ => rfl
    rw [bare,List.nil_append]
    exact List.flatMap_congr fun e member => (filled e member).2

theorem compiledTail_keeps (d : Dialect) (q : Select) :
    (q.compiledTail d).mismatch = none ∧ (q.compiledTail d).args = [] := by
  have ordered : (compiledOrdering d q.ordering).mismatch = none ∧
      (compiledOrdering d q.ordering).args = [] := by
    simp only [compiledOrdering]
    split
    · exact ⟨rfl,rfl⟩
    · rw [mismatch_append,args_append,args_separated,List.flatMap_map]
      exact ⟨mismatch_separated ", " (List.forall_mem_map.mpr fun _ _ => rfl),
        List.flatMap_eq_nil_iff.mpr fun _ _ => rfl⟩
  have paged : (compiledLimit d q.limit q.offset).mismatch = none ∧
      (compiledLimit d q.limit q.offset).args = [] := by
    cases q.limit <;> cases q.offset <;> cases d <;> exact ⟨rfl,rfl⟩
  rw [compiledTail,mismatch_append,args_append,ordered.1,ordered.2,paged.1,paged.2]
  exact ⟨rfl,rfl⟩

theorem mismatch_member (d : Dialect) (q : Select) (filters tail : Compiled) (clean : tail.mismatch = none) :
    (q.member d filters tail).mismatch =
      (compiledList d q.columns q.exprs).mismatch.or filters.mismatch := by
  rw [member]
  split <;> simp [clean]

theorem args_member (d : Dialect) (q : Select) (filters tail : Compiled) (bare : tail.args = []) :
    (q.member d filters tail).args = (compiledList d q.columns q.exprs).args ++ filters.args := by
  rw [member]
  split <;> simp [bare]

namespace Clauses

variable {d : Dialect} {q : Select} {c : Clauses}

/-- A query without set operations has nothing behind its first member. -/
theorem others_of_alone (compiled : q.clauses d = .ok c) (alone : q.combined = []) : c.others = .empty := by
  have others := (clauses_eq_ok_iff.mp compiled).2.2.2
  rw [alone,compiledCombined] at others
  exact (Except.ok.inj others).symm

theorem mismatch_counted (compiled : q.clauses d = .ok c)
    (matching : ∀ e ∈ q.exprs, (Template.mk e.1 e.2).Matches) :
    (c.counted d q).mismatch = (c.whole d q).mismatch := by
  have tail := (compiledTail_keeps d q).1
  rw [whole,mismatch_append,mismatch_append,mismatch_member d q c.filters _ tail,counted]
  split
  next subquery =>
    simp only [mismatch_append,mismatch_text,mismatch_member d q c.filters .empty rfl,Option.or_none,
      Option.or_assoc]
  next plain =>
    have alone : q.combined = [] := by
      simp only [countsSubquery,Bool.or_eq_true,Bool.not_eq_true',not_or] at plain
      simpa using plain.2
    rw [others_of_alone compiled alone,(compiledList_keeps d q.columns matching).1]
    simp

theorem whole_eq_append (d : Dialect) (q : Select) (c : Clauses) :
    c.whole d q = c.header ++ (q.member d c.filters (q.compiledTail d) ++ c.others) := append_assoc ..

theorem exists_counted_eq_append (d : Dialect) (q : Select) (c : Clauses) :
    ∃ rest, c.counted d q = c.header ++ rest := by
  rw [counted]
  split
  · simp only [append_assoc]
    exact ⟨_,rfl⟩
  · exact ⟨_,append_assoc ..⟩

theorem args_counted_subquery (subquery : q.countsSubquery) : (c.counted d q).args = (c.whole d q).args := by
  rw [counted,if_pos subquery,whole]
  simp only [args_append,args_text,args_member d q c.filters _ (compiledTail_keeps d q).2,
    args_member d q c.filters .empty rfl,List.append_nil,List.append_assoc]

theorem whole_plain (compiled : q.clauses d = .ok c) (distinct : q.isDistinct = false)
    (alone : q.combined = []) : c.whole d q = c.header ++ .text "SELECT " ++
      compiledList d q.columns q.exprs ++ c.filters ++ q.compiledTail d := by
  rw [whole,others_of_alone compiled alone,member,distinct,alone,append_empty]
  simp [append_assoc]

theorem counted_plain (plain : q.countsSubquery = false) :
    c.counted d q = c.header ++ .text "SELECT COUNT(*)" ++ c.filters := by
  rw [counted,plain]
  rfl

/-- What the statement of a query and the statement of its count have in common. -/
structure Shared (d : Dialect) (q : Select) (c : Clauses) (s t : Statement) : Prop where
  header : ∃ rest more, s.sql = c.header.sqlAfter d 0 ++ rest ∧ t.sql = c.header.sqlAfter d 0 ++ more
  headerArgs : c.header.args <+: s.args ∧ c.header.args <+: t.args
  subquery : q.isDistinct ∨ q.grouping ≠ [] ∨ q.combined ≠ [] → t.args = s.args
  plain : q.isDistinct = false → q.grouping = [] → q.combined = [] →
    let selected := q.exprs.flatMap (·.2)
    s.args = c.header.args ++ selected ++ c.filters.args ∧ t.args = c.header.args ++ c.filters.args ∧
    (∃ tail, s.sql = c.header.sqlAfter d 0 ++ "SELECT " ++
      (compiledList d q.columns q.exprs).sqlAfter d c.header.args.length ++
      c.filters.sqlAfter d (c.header.args.length + selected.length) ++ tail) ∧
    t.sql = c.header.sqlAfter d 0 ++ "SELECT COUNT(*)" ++ c.filters.sqlAfter d c.header.args.length

theorem shared (compiled : q.clauses d = .ok c) (matching : ∀ e ∈ q.exprs, (Template.mk e.1 e.2).Matches)
    {s t : Statement} (built : (c.whole d q).build d = .ok s) (counts : (c.counted d q).build d = .ok t) :
    c.Shared d q s t := by
  obtain rfl := eq_of_build built
  obtain rfl := eq_of_build counts
  obtain ⟨rest,countedParts⟩ := exists_counted_eq_append d q c
  refine ⟨?header,?headerArgs,?subquery,?plain⟩
  case header =>
    rw [whole_eq_append,countedParts]
    exact ⟨_,_,sqlAfter_append ..,sqlAfter_append ..⟩
  case headerArgs =>
    rw [whole_eq_append,countedParts]
    exact ⟨List.prefix_append ..,List.prefix_append ..⟩
  case subquery =>
    intro nested
    apply args_counted_subquery
    rw [countsSubquery]
    simpa [or_assoc] using nested
  case plain =>
    intro distinct ungrouped alone selected
    have plain : q.countsSubquery = false := by rw [countsSubquery,distinct,ungrouped,alone]; rfl
    have listed : (compiledList d q.columns q.exprs).args = selected :=
      (compiledList_keeps d q.columns matching).2
    have tail := (compiledTail_keeps d q).2
    rw [whole_plain compiled distinct alone,counted_plain plain]
    simp only [args_append,args_text,sqlAfter_append,sqlAfter_text,listed,tail,List.append_nil,
      List.length_append,Nat.zero_add]
    exact ⟨trivial,trivial,⟨_,rfl⟩,trivial⟩

end Clauses

theorem build_eq_clauses (q : Select) (d : Dialect) :
    q.build d = (q.clauses d).map (·.whole d q) >>= (·.build d) := by
  rw [build_eq_compiled,compiled_eq_clauses]

theorem buildCount_error_iff {q : Select} (matching : ∀ e ∈ q.exprs, (Template.mk e.1 e.2).Matches)
    (d : Dialect) (e : Error) : q.buildCount d = .error e ↔ q.build d = .error e := by
  rw [buildCount_eq_clauses,build_eq_clauses]
  cases compiled : q.clauses d with
  | error e => exact Iff.rfl
  | ok c =>
    show (c.counted d q).build d = .error e ↔ (c.whole d q).build d = .error e
    rw [build_error_iff,build_error_iff,Clauses.mismatch_counted compiled matching]

/-- A count builds exactly when its query does and is refused for the same reason. Under DISTINCT,
GROUP BY and set operations it binds what the query binds; else it leaves out the arguments of the
select expressions alone, and FROM through HAVING is the same text behind fewer arguments. -/
theorem counts_bind_filters {q : Select} {calls : List Call} (made : made? calls = .ok q) (d : Dialect) :
    ((∃ t, q.buildCount d = .ok t) ↔ ∃ s, q.build d = .ok s) ∧
    (∀ e, q.buildCount d = .error e ↔ q.build d = .error e) ∧
    ∀ s t, q.build d = .ok s → q.buildCount d = .ok t → ∃ c, q.clauses d = .ok c ∧ c.Shared d q s t := by
  have matching := exprs_made made
  refine ⟨?_,fun e => buildCount_error_iff matching d e,fun s t built counts => ?_⟩
  · exact (buildCount_ok_iff d matching).trans (build_ok_iff q d).symm
  · rw [build_eq_clauses] at built
    rw [buildCount_eq_clauses] at counts
    cases compiled : q.clauses d with
    | error e => rw [compiled] at built; cases built
    | ok c =>
      rw [compiled] at built counts
      exact ⟨c,rfl,Clauses.shared compiled matching built counts⟩

/-- The select expression takes `$2`, which is the filter's in the count. -/
theorem counts_bind_filters_page :
    let recent : Select := Filterable.whereEq (star.fromTable "orders") "year" (.int 2024)
    let calls : List Call := [.withQuery "recent" [] recent,.expr "? AS page" [.int 7],.fromTable "recent",
      .filter (.filterExpr (.eq "open" (.bool true))),.limit 10]
    let q : Select := { Filterable.whereEq (star.fromTable "recent") "open" (.bool true) with
      ctes := [⟨"recent",[],recent,false⟩]
      exprs := [("? AS page",[.int 7])]
      limit := some 10 }
    let header := "WITH \"recent\" AS (SELECT * FROM \"orders\" WHERE \"year\" = $1) "
    made? calls = .ok q ∧ ∃ s t, q.build .postgres = .ok s ∧ q.buildCount .postgres = .ok t ∧
      s.sql = header ++ "SELECT $2 AS page FROM \"recent\" WHERE \"open\" = $3 LIMIT 10" ∧
      t.sql = header ++ "SELECT COUNT(*) FROM \"recent\" WHERE \"open\" = $2" ∧
      ∃ c, q.clauses .postgres = .ok c ∧ s.args = c.header.args ++ [.int 7] ++ c.filters.args ∧
        t.args = c.header.args ++ c.filters.args := by
  intro recent calls q header
  have made : made? calls = .ok q := rfl
  have built : q.build .postgres = .ok ⟨header ++
    "SELECT $2 AS page FROM \"recent\" WHERE \"open\" = $3 LIMIT 10",[.int 2024,.int 7,.bool true],none,none⟩ := by
    decide
  have counts : q.buildCount .postgres = .ok ⟨header ++
    "SELECT COUNT(*) FROM \"recent\" WHERE \"open\" = $2",[.int 2024,.bool true],none,none⟩ := by decide
  obtain ⟨c,compiled,shared⟩ := (counts_bind_filters made .postgres).2.2 _ _ built counts
  obtain ⟨args,countArgs,-⟩ := shared.plain rfl rfl rfl
  exact ⟨made,_,_,built,counts,rfl,rfl,c,compiled,args,countArgs⟩

end Select

end ParamSql
