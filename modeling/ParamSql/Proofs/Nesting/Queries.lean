import ParamSql.Proofs.Counting.Clauses
import ParamSql.Proofs.Lockstep.Builds
import ParamSql.Proofs.Nesting.Statements

/-! Queries inside queries. The text of a SELECT is balanced, and it is cut into texts of its own and the
texts of the queries in it: WITH queries, the subquery of FROM, and the members of set operations. Each
of those stands in parentheses of its own. -/
namespace ParamSql
open Text

/-- A text that is cut at the queries inside it. Each stands directly between an opening parenthesis and
the one that closes it; what stands before, between and behind them is balanced. -/
inductive Cut (P : Select → List Char → Prop) : List Select → List Char → Prop
  | own {text : List Char} (level : Text.Balanced text) : Cut P [] text
  | pair {q : Select} {queries : List Select} {before inner after : List Char} (level : Text.Balanced before)
      (closed : Text.Balanced inner) (holds : P q inner) (rest : Cut P queries after) :
      Cut P (q :: queries) (before ++ '(' :: inner ++ ')' :: after)

namespace Select

/-- The query writes the text, where some placeholders stand before it. -/
def Contributes (d : Dialect) (q : Select) (text : List Char) : Prop :=
  ∃ f count, q.writeTo d .empty = .ok f ∧ (Piece.renderFrom d count f.pieces).toList = text

def sourceQueries : Option (Source Select) → List Select
  | some (.subquery query _) => [query]
  | some (.table _) | none => []

/-- The first member of the set operations, as a query. -/
def alone (q : Select) : Select := { q with ctes := [], combined := [] }

/-- The queries that stand in parentheses: those of WITH, and behind them the subquery of FROM or, of a
query with set operations, all its members. -/
def enclosed (q : Select) : List Select :=
  q.ctes.map (·.query) ++
    if q.combined.isEmpty then sourceQueries q.source else q.alone :: q.combined.map (·.2)

/-- The queries that stand in parentheses in the count: those of WITH, and behind them the subquery that
is counted or that of FROM. -/
def countEnclosed (q : Select) : List Select :=
  q.ctes.map (·.query) ++ if q.countsSubquery then [q.counted] else sourceQueries q.source

/-- The text is that of the query, and it is cut at the queries inside it, at every level. -/
inductive Nests (d : Dialect) : Select → List Char → Prop
  | intro {q : Select} {text : List Char} (contributed : q.Contributes d text)
      (cut : Cut (Nests d) q.enclosed text) : Nests d q text

end Select

namespace Cut

variable {P : Select → List Char → Prop} {queries others : List Select} {text rest : List Char}

theorem balanced (h : Cut P queries text) : Text.Balanced text := by
  induction h with
  | own level => exact level
  | pair level closed holds rest ih =>
    have opens : depth? 0 ['('] = some 1 := rfl
    have closes : depth? 1 [')'] = some 0 := rfl
    simpa using level.append ((closed.between opens closes).append ih)

theorem append (h : Cut P queries text) (more : Cut P others rest) :
    Cut P (queries ++ others) (text ++ rest) := by
  induction h with
  | own level =>
    cases more with
    | own further => exact .own (level.append further)
    | pair further closed holds rest =>
      have cut := Cut.pair (level.append further) closed holds rest
      simpa using cut
  | pair level closed holds behind ih =>
    have cut := Cut.pair level closed holds ih
    simpa using cut

end Cut

theorem Select.Nests.balanced {d : Dialect} {q : Select} {text : List Char} (h : Nests d q text) :
    Text.Balanced text := by
  cases h with
  | intro contributed cut => exact cut.balanced

namespace Compiled

/-- However many placeholders stand before it, the text is cut at these queries. -/
def Cuts (d : Dialect) (P : Select → List Char → Prop) (queries : List Select) (c : Compiled) : Prop :=
  ∀ count, Cut P queries (c.sqlAfter d count).toList

variable {d : Dialect} {P : Select → List Char → Prop} {queries others : List Select} {c c' : Compiled}

theorem cuts_text {s : String} (level : Text.Balanced s.toList) : Cuts d P [] (.text s) := by
  intro count
  rw [sqlAfter_text]
  exact .own level

theorem cuts_empty : Cuts d P [] .empty := fun _ => .own balanced_nil

theorem Cuts.append (h : Cuts d P queries c) (more : Cuts d P others c') :
    Cuts d P (queries ++ others) (c ++ c') := by
  intro count
  rw [sqlAfter_append,String.toList_append]
  exact (h count).append (more _)

theorem Cuts.level (h : Cuts d P queries c) (more : Cuts d P [] c') : Cuts d P queries (c ++ c') :=
  List.append_nil queries ▸ h.append more

theorem cuts_pair {q : Select} (closed : ∀ count, Text.Balanced (c.sqlAfter d count).toList)
    (holds : ∀ count, P q (c.sqlAfter d count).toList) :
    Cuts d P [q] (.text "(" ++ c ++ .text ")") := by
  intro count
  have cut := Cut.pair balanced_nil (closed count) (holds count) (.own balanced_nil)
  simpa using cut

theorem sqlAfter_ofFragment (d : Dialect) (count : Nat) (f : Fragment) :
    (ofFragment f).sqlAfter d count = Piece.renderFrom d count f.pieces := by
  have numbered := Mark.number_shift count 0 f.word
  rw [Nat.add_zero] at numbered
  rw [← String.toList_inj,Piece.toList_renderFrom,sqlAfter,String.toList_ofList,ofFragment,
    ← List.flatMap_map,← numbered,Mark.render_number]
  rfl

theorem cuts_ofFragment {f : Fragment} (h : f.Deep d 0) : Cuts d P [] (.ofFragment f) := by
  intro count
  rw [sqlAfter_ofFragment,Piece.toList_renderFrom]
  exact .own (balanced_iff.mpr (h count))

/-- A writer that leaves the depth as it is. -/
theorem cuts_writer {w : Fragment → Fragment} (compiles : ∀ out, ofFragment (w out) = ofFragment out ++ c)
    (level : (w .empty).Deep d 0) : Cuts d P [] c := by
  have alone := compiles .empty
  rw [ofFragment_empty,empty_append] at alone
  exact alone ▸ cuts_ofFragment level

/-- Separated parts, each of which is cut at one query. -/
theorem Cuts.separated (sep : String) {parts : List Compiled} (level : Text.Balanced sep.toList)
    (each : List.Forall₂ (fun q part => Cuts d P [q] part) queries parts) :
    Cuts d P queries (Compiled.separated sep parts) := by
  have behind {queries : List Select} {parts : List Compiled}
      (each : List.Forall₂ (fun q part => Cuts d P [q] part) queries parts) :
      Cuts d P queries (concat (parts.map (text sep ++ ·))) := by
    induction each with
    | nil => exact cuts_empty
    | cons part rest ih => exact ((cuts_text level).append part).append ih
  cases each with
  | nil => exact cuts_empty
  | cons part rest => exact part.append (behind rest)

end Compiled

namespace Select
open Compiled

variable {d : Dialect} {c : Compiled}

/-- What the reference compiler makes of a query is what its writer writes. -/
theorem contributes_of_compiled {q : Select} (compiled : q.compiled d = .ok c) (count : Nat) :
    q.Contributes d (c.sqlAfter d count).toList := by
  have compiles := q.compiles d .empty
  rw [compiled] at compiles
  generalize written : q.writeTo d .empty = x at compiles
  cases compiles with
  | @written f _ same =>
    rw [ofFragment_empty,empty_append] at same
    exact ⟨f,count,written,by rw [← same,sqlAfter_ofFragment]⟩

theorem cuts_nested {q : Select} (nests : ∀ count, Nests d q (c.sqlAfter d count).toList) :
    Cuts d (Nests d) [q] (.text "(" ++ c ++ .text ")") :=
  cuts_pair (fun count => (nests count).balanced) nests

/-! ## Clauses -/

theorem cuts_cteHead {P : Select → List Char → Prop} {name : String} {columns : List String}
    (named : Text.Balanced name.toList) (listed : ∀ t ∈ Supplied.ofFree columns, t.Balanced) :
    ∃ head, compiledCteHead d name columns = head ++ .text "(" ∧ Cuts d P [] head := by
  have opened : Compiled.text " AS (" = .text " AS " ++ .text "(" := text_append " AS " "("
  have quoted : Cuts d P [] (.text (d.quote name)) := cuts_text (d.balanced_quote named)
  have as : Cuts d P [] (.text " AS ") := cuts_text (by decide)
  rw [compiledCteHead,opened]
  split
  · rw [← append_assoc]
    exact ⟨_,rfl,(quoted.level cuts_empty).level as⟩
  · have whole : Compiled.text " (" ++
        .separated ", " (columns.map fun column => .text (d.quote column)) ++ .text ")" =
          .text (" (" ++ String.intercalate ", " (columns.map d.quote) ++ ")") := by
      rw [text_append,text_append,text_intercalate,List.map_map]
      rfl
    have opens : depth? 0 " (".toList = some 1 := by decide
    have closes : depth? 1 ")".toList = some 0 := by decide
    have level := (balanced_idents listed (d := d)).between opens closes
    rw [← String.toList_append,← String.toList_append] at level
    rw [whole,← append_assoc]
    exact ⟨_,rfl,(quoted.level (cuts_text level)).level as⟩

/-- The texts that a query has outside the queries inside it are balanced. -/
structure LevelOwn (q : Select) : Prop where
  columns : ∀ t ∈ Supplied.ofFree q.columns, t.Balanced
  exprs : ∀ t ∈ q.exprs.map (Supplied.template ·.1), t.Balanced
  joins : ∀ t ∈ q.joins.flatMap (·.supplied), t.Balanced
  conditions : ∀ t ∈ q.conditions.supplied, t.Balanced
  grouping : ∀ t ∈ Supplied.ofFree q.grouping, t.Balanced
  groupConditions : ∀ t ∈ q.groupConditions.supplied, t.Balanced
  ordering : ∀ t ∈ Supplied.ofFree q.ordering, t.Balanced

theorem cuts_clause {P : Select → List Char → Prop} {g : ConditionGroup} (keyword : String)
    (level : Text.Balanced keyword.toList) (supplied : ∀ t ∈ g.supplied, t.Balanced) :
    Cuts d P [] (g.compiledClause keyword d) :=
  cuts_writer (ofFragment_clause keyword d g) (Fragment.Deep.empty.clause g keyword level supplied)

theorem cuts_withKeywords {P : Select → List Char → Prop} (ctes : List (Cte Select)) :
    Cuts d P [] (.text (withKeywords ctes)) := by
  refine cuts_text ?_
  rw [withKeywords]
  split
  · decide
  · split <;> decide

variable {q : Select}

theorem cuts_header {header : Compiled} (compiled : q.header d = .ok header)
    (ctes : ∀ parts, compiledCtes d q.ctes = .ok parts →
      List.Forall₂ (fun query part => Cuts d (Nests d) [query] part) (q.ctes.map (·.query)) parts) :
    Cuts d (Nests d) (q.ctes.map (·.query)) header := by
  rw [Select.header] at compiled
  cases queries : compiledCtes d q.ctes with
  | error e => rw [queries] at compiled; cases compiled
  | ok parts =>
    rw [queries] at compiled
    cases compiled
    have listed := Cuts.separated ", " (by decide) (ctes parts queries)
    refine ((cuts_withKeywords q.ctes).append listed).level ?_
    split
    · exact cuts_empty
    · exact cuts_text (by decide)

theorem cuts_filters {filters : Compiled} (own : q.LevelOwn) (compiled : q.filters d = .ok filters)
    (source : ∀ tables, compiledSource d q.source = .ok tables →
      Cuts d (Nests d) (sourceQueries q.source) tables) :
    Cuts d (Nests d) (sourceQueries q.source) filters := by
  rw [Select.filters] at compiled
  cases tables : compiledSource d q.source with
  | error e => rw [tables] at compiled; cases compiled
  | ok c =>
    rw [tables] at compiled
    cases compiled
    have joined := (source c tables).level
      (cuts_writer (ofFragment_joins d q.joins) (Fragment.Deep.empty.joins q.joins own.joins))
    have grouped := (joined.level (cuts_clause " WHERE " (by decide) own.conditions)).level
      (cuts_writer (ofFragment_grouping d q.grouping) (Fragment.Deep.empty.grouping q.grouping own.grouping))
    exact grouped.level (cuts_clause " HAVING " (by decide) own.groupConditions)

theorem cuts_tail {P : Select → List Char → Prop} (own : q.LevelOwn) : Cuts d P [] (q.compiledTail d) :=
  (cuts_writer (ofFragment_ordering d q.ordering)
    (Fragment.Deep.empty.ordering q.ordering own.ordering)).level
    (cuts_writer (ofFragment_limit d q.limit q.offset) (Fragment.Deep.empty.limit q.limit q.offset))

theorem cuts_alone {filters tail : Compiled} (own : q.LevelOwn)
    (filtered : Cuts d (Nests d) (sourceQueries q.source) filters) (ended : Cuts d (Nests d) [] tail) :
    Cuts d (Nests d) (sourceQueries q.source) (q.alone.member d filters tail) := by
  have started : Cuts d (Nests d) [] (.text (if q.isDistinct then "SELECT DISTINCT " else "SELECT ")) :=
    cuts_text (by split <;> decide)
  have listed := started.level (cuts_writer (ofFragment_list d q.columns q.exprs)
    (Fragment.Deep.empty.list q.columns q.exprs own.columns own.exprs))
  exact (listed.append filtered).level ended

theorem compiled_alone {filters : Compiled} (accepted : q.misuse = none)
    (filtered : q.filters d = .ok filters) :
    q.alone.compiled d = .ok (q.alone.member d filters (q.compiledTail d)) := by
  have clauses : q.alone.clauses d = .ok ⟨.empty,filters,.empty⟩ := by
    refine clauses_eq_ok_iff.mpr ⟨accepted,rfl,filtered,?_⟩
    rw [alone,compiledCombined]
  rw [compiled_eq_clauses,clauses]
  simp only [Except.map,Clauses.whole,empty_append,append_empty]
  rfl

/-- What the clauses of a query make of it, once the queries inside it nest. -/
theorem nests_of_clauses {clauses : Clauses} (own : q.LevelOwn) (compiled : q.clauses d = .ok clauses)
    (ctes : ∀ parts, compiledCtes d q.ctes = .ok parts →
      List.Forall₂ (fun query part => Cuts d (Nests d) [query] part) (q.ctes.map (·.query)) parts)
    (source : ∀ tables, compiledSource d q.source = .ok tables →
      Cuts d (Nests d) (sourceQueries q.source) tables)
    (combined : ∀ others, compiledCombined d q.combined = .ok others →
      Cuts d (Nests d) (q.combined.map (·.2)) others) (count : Nat) :
    Nests d q ((clauses.whole d q).sqlAfter d count).toList := by
  obtain ⟨accepted,header,filters,others⟩ := clauses_eq_ok_iff.mp compiled
  have whole : q.compiled d = .ok (clauses.whole d q) := by rw [compiled_eq_clauses,compiled]; rfl
  have headed := cuts_header header ctes
  have first := cuts_alone own (cuts_filters own filters source) (cuts_tail own)
  have rest := combined clauses.others others
  have members : Cuts d (Nests d)
      (if q.combined.isEmpty then sourceQueries q.source else q.alone :: q.combined.map (·.2))
      (q.member d clauses.filters (q.compiledTail d) ++ clauses.others) := by
    rw [member]
    split
    next none =>
      rw [List.isEmpty_iff.mp none] at rest
      exact first.level rest
    next =>
      -- What stands in the first parentheses is a query too: this one without WITH and other members.
      have alone := compiled_alone accepted filters
      have nested := cuts_nested fun count => .intro (contributes_of_compiled alone count) (first count)
      exact nested.append rest
  refine .intro (contributes_of_compiled whole count) ?_
  rw [Clauses.whole_eq_append]
  exact headed.append members count

/-! ## All queries -/

mutual
theorem nests : ∀ (q : Select) {c : Compiled}, (∀ t ∈ q.supplied, t.Balanced) → q.compiled d = .ok c →
    ∀ count, Nests d q (c.sqlAfter d count).toList
  | ⟨ctes,columns,exprs,isDistinct,source,joins,conditions,grouping,groupConditions,ordering,limit,
      offset,combined,misuse⟩, c, supplied, compiled, count => by
    simp only [Select.supplied,List.mem_append,or_imp,forall_and] at supplied
    obtain ⟨⟨⟨⟨⟨⟨⟨⟨⟨inCtes,inColumns⟩,inExprs⟩,inSource⟩,inJoins⟩,inConditions⟩,inGrouping⟩,
      inGroupConditions⟩,inOrdering⟩,inCombined⟩ := supplied
    rw [compiled_eq_clauses] at compiled
    cases clauses : clauses d ⟨ctes,columns,exprs,isDistinct,source,joins,conditions,grouping,
        groupConditions,ordering,limit,offset,combined,misuse⟩ with
    | error e => rw [clauses] at compiled; cases compiled
    | ok found =>
      rw [clauses] at compiled
      cases compiled
      exact nests_of_clauses
        ⟨inColumns,inExprs,inJoins,inConditions,inGrouping,inGroupConditions,inOrdering⟩ clauses
        (fun parts => nests_ctes ctes inCtes) (fun tables => nests_source source inSource)
        (fun others => nests_combined combined inCombined) count

theorem nests_ctes : ∀ (ctes : List (Cte Select)) {parts : List Compiled},
    (∀ t ∈ suppliedCtes ctes, t.Balanced) → compiledCtes d ctes = .ok parts →
    List.Forall₂ (fun query part => Cuts d (Nests d) [query] part) (ctes.map (·.query)) parts
  | [], parts, supplied, compiled => by
    rw [compiledCtes] at compiled
    cases compiled
    exact .nil
  | ⟨name,columns,query,isRecursive⟩ :: ctes, parts, supplied, compiled => by
    simp only [suppliedCtes,List.mem_append,List.mem_cons,or_imp,forall_and,forall_eq] at supplied
    obtain ⟨⟨⟨inName,inColumns⟩,inQuery⟩,inCtes⟩ := supplied
    rw [compiledCtes] at compiled
    cases body : query.compiled d with
    | error e => rw [body] at compiled; cases compiled
    | ok c =>
      cases rest : compiledCtes d ctes with
      | error e => rw [body,rest] at compiled; cases compiled
      | ok others =>
        rw [body,rest] at compiled
        cases compiled
        obtain ⟨head,opened,level⟩ := cuts_cteHead (d := d) (P := Nests d) inName inColumns
        refine .cons ?_ (nests_ctes ctes inCtes rest)
        rw [opened,append_assoc,append_assoc,← append_assoc (.text "(")]
        exact level.append (cuts_nested (nests query inQuery body))

theorem nests_source : ∀ (source : Option (Source Select)) {c : Compiled},
    (∀ t ∈ suppliedSource source, t.Balanced) → compiledSource d source = .ok c →
    Cuts d (Nests d) (sourceQueries source) c
  | none, c, supplied, compiled => by
    rw [compiledSource] at compiled
    cases compiled
    exact cuts_empty
  | some (.table name), c, supplied, compiled => by
    have named := supplied (.free name) List.mem_cons_self
    rw [compiledSource] at compiled
    cases compiled
    exact (cuts_text (by decide)).level (cuts_text (Identifier.balanced_table named))
  | some (.subquery query label), c, supplied, compiled => by
    have named := supplied (.free label) List.mem_cons_self
    have inQuery : ∀ t ∈ query.supplied, t.Balanced := fun t member =>
      supplied t (List.mem_cons_of_mem _ member)
    rw [compiledSource] at compiled
    cases body : query.compiled d with
    | error e => rw [body] at compiled; cases compiled
    | ok inner =>
      rw [body] at compiled
      cases compiled
      have opened : Compiled.text " FROM (" = .text " FROM " ++ .text "(" := text_append " FROM " "("
      have closed : Compiled.text ") AS " = .text ")" ++ .text " AS " := text_append ")" " AS "
      have split : Compiled.text " FROM (" ++ inner ++ .text ") AS " ++ .text (d.quote label) =
          .text " FROM " ++ (.text "(" ++ inner ++ .text ")") ++ .text " AS " ++ .text (d.quote label) := by
        rw [opened,closed]
        simp only [append_assoc]
      have nested := (cuts_text (by decide : Text.Balanced " FROM ".toList)).append
        (cuts_nested (nests query inQuery body))
      rw [split]
      exact (nested.level (cuts_text (by decide))).level (cuts_text (d.balanced_quote named))

theorem nests_combined : ∀ (combined : List (SetOp × Select)) {c : Compiled},
    (∀ t ∈ suppliedCombined combined, t.Balanced) → compiledCombined d combined = .ok c →
    Cuts d (Nests d) (combined.map (·.2)) c
  | [], c, supplied, compiled => by
    rw [compiledCombined] at compiled
    cases compiled
    exact cuts_empty
  | (op,query) :: rest, c, supplied, compiled => by
    have inQuery : ∀ t ∈ query.supplied, t.Balanced := fun t member =>
      supplied t (List.mem_append_left _ member)
    have inRest : ∀ t ∈ suppliedCombined rest, t.Balanced := fun t member =>
      supplied t (List.mem_append_right _ member)
    rw [compiledCombined] at compiled
    cases body : query.compiled d with
    | error e => rw [body] at compiled; cases compiled
    | ok inner =>
      cases others : compiledCombined d rest with
      | error e => rw [body,others] at compiled; cases compiled
      | ok more =>
        rw [body,others] at compiled
        cases compiled
        have keyword : Cuts d (Nests d) [] (.text op.keyword) := cuts_text (by cases op <;> decide)
        have nested := keyword.append (cuts_nested (nests query inQuery body))
        rw [append_assoc (.text op.keyword),append_assoc (.text op.keyword)]
        exact nested.append (nests_combined rest inRest others)
end

theorem nests_of_build {s : Statement} (supplied : ∀ t ∈ q.supplied, t.Balanced)
    (built : q.build d = .ok s) : Nests d q s.sql.toList := by
  rw [build_eq_compiled] at built
  cases compiled : q.compiled d with
  | error e => rw [compiled] at built; cases built
  | ok c =>
    rw [compiled] at built
    rw [eq_of_build built]
    exact nests q supplied compiled 0

/-! ## Counts -/

theorem enclosed_counting (q : Select) : q.counting.enclosed = q.countEnclosed := by
  rw [counting,countEnclosed]
  split
  next subquery => rfl
  next plain =>
    have alone : q.combined = [] := by
      simp only [countsSubquery,Bool.or_eq_true,Bool.not_eq_true',not_or] at plain
      simpa using plain.2
    simp only [enclosed,alone]
    rfl

theorem supplied_counting (supplied : ∀ t ∈ q.supplied, t.Balanced) :
    ∀ t ∈ q.counting.supplied, t.Balanced := by
  obtain ⟨ctes,columns,exprs,isDistinct,source,joins,conditions,grouping,groupConditions,ordering,
    limit,offset,combined,misuse⟩ := q
  -- Counting adds two texts: the item, and a name for the subquery that is counted.
  have items : ∀ t ∈ [Supplied.template "COUNT(*)"], t.Balanced := by decide
  have label : (Supplied.free "count_subquery").Balanced := by decide
  simp only [Select.supplied,List.mem_append,or_imp,forall_and] at supplied
  obtain ⟨⟨⟨⟨⟨⟨⟨⟨⟨inCtes,inColumns⟩,inExprs⟩,inSource⟩,inJoins⟩,inConditions⟩,inGrouping⟩,
    inGroupConditions⟩,inOrdering⟩,inCombined⟩ := supplied
  rw [counting]
  split
  · simp only [star,counted,Select.supplied,suppliedCtes,suppliedSource,suppliedCombined,Supplied.ofFree,
      ConditionGroup.supplied,ConditionGroup.empty,List.map_nil,List.flatMap_nil,List.nil_append,
      List.append_nil,List.mem_append,List.mem_cons,or_imp,forall_and,forall_eq]
    exact ⟨⟨inCtes,items⟩,label,⟨⟨⟨⟨⟨⟨inColumns,inExprs⟩,inSource⟩,inJoins⟩,inConditions⟩,inGrouping⟩,
      inGroupConditions⟩,inCombined⟩
  · simp only [Select.supplied,Supplied.ofFree,List.map_nil,List.append_nil,List.mem_append,or_imp,
      forall_and]
    exact ⟨⟨⟨⟨⟨⟨⟨inCtes,items⟩,inSource⟩,inJoins⟩,inConditions⟩,inGrouping⟩,inGroupConditions⟩,inCombined⟩

theorem cut_of_buildCount {s : Statement} (supplied : ∀ t ∈ q.supplied, t.Balanced)
    (built : q.buildCount d = .ok s) : Cut (Nests d) q.countEnclosed s.sql.toList := by
  rw [← build_counting] at built
  rw [← enclosed_counting]
  cases nests_of_build (supplied_counting supplied) built with
  | intro contributed cut => exact cut

end Select

/-- **Parentheses.** Where all texts that a caller supplies are balanced, so is every statement that is
built of them. That of a SELECT and that of its count are cut at the queries inside them, each of which
stands in parentheses of its own. -/
theorem parentheses_nest (d : Dialect) :
    (∀ q : Query, q.isTree → (∀ t ∈ q.supplied, t.Balanced) →
      ∀ s, q.build d = .ok s → Text.Balanced s.sql.toList) ∧
    ∀ q : Select, (∀ t ∈ q.supplied, t.Balanced) →
      (∀ s, q.build d = .ok s → q.Nests d s.sql.toList) ∧
      ∀ s, q.buildCount d = .ok s →
        Text.Balanced s.sql.toList ∧ Cut (Select.Nests d) q.countEnclosed s.sql.toList := by
  refine ⟨fun q tree supplied s built => ?_,fun q supplied =>
    ⟨fun s built => Select.nests_of_build supplied built,fun s built => ?_⟩⟩
  · cases q with
    | select q => exact (Select.nests_of_build supplied built).balanced
    | insert q => exact q.balanced_build supplied built
    | update q => exact q.balanced_build supplied built
    | delete q => exact q.balanced_build supplied built
    | upsert q => exact q.balanced_build supplied built
    | batchInsert q => exact q.balanced_build supplied built
    | batchUpdate q => exact q.balanced_build supplied built
    | named q => cases tree
    | fragment f => cases tree
  · have cut := Select.cut_of_buildCount supplied built
    exact ⟨cut.balanced,cut⟩

/-- A WITH query with named columns, and two members, of which the first one has a subquery. -/
theorem parentheses_nest_members :
    let users := Select.star.fromTable "users"
    let q : Select := { Select.star with
      ctes := [⟨"c",["id"],users,false⟩]
      source := some (.subquery users "s")
      ordering := ["lower(name) desc"]
      combined := [(.union,users)] }
    let sql := "WITH \"c\" (\"id\") AS (SELECT * FROM \"users\") (SELECT * FROM (SELECT * FROM \"users\") " ++
      "AS \"s\" ORDER BY lower(name) DESC) UNION (SELECT * FROM \"users\")"
    (∀ t ∈ q.supplied, t.Balanced) ∧ q.build .postgres = .ok ⟨sql,[],none,none⟩ ∧
      q.enclosed = [users,q.alone,users] ∧ q.Nests .postgres sql.toList := by
  intro users q sql
  have supplied : ∀ t ∈ q.supplied, t.Balanced := by decide
  have built : q.build .postgres = .ok ⟨sql,[],none,none⟩ := by decide +kernel
  exact ⟨supplied,built,rfl,((parentheses_nest .postgres).2 q supplied).1 ⟨sql,[],none,none⟩ built⟩

end ParamSql
