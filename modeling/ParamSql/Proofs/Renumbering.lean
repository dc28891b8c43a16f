import ParamSql.Proofs.Compiled
import ParamSql.Proofs.Lockstep.Statements

/-! One numbering against many. The writers thread one fragment through all clauses and number its
slots when it is rendered. What they write does not depend on the fragment they continue, so the
statement is the one that the reference compiler joins from parts. -/
namespace ParamSql

/-! ## Joining compiled parts -/

namespace Mark

theorem shift_shift (m n : Nat) (mark : Mark) : (mark.shift n).shift m = mark.shift (m + n) := by
  cases mark with
  | char c => rfl
  | placeholder number => rw [shift,shift,shift,Nat.add_assoc]

theorem shift_zero (mark : Mark) : mark.shift 0 = mark := by
  cases mark with
  | char c => rfl
  | placeholder number => rw [shift,Nat.zero_add]

theorem number_shift (m n : Nat) (word : List Symbol) :
    number (m + n) word = (number n word).map (·.shift m) := by
  induction word generalizing n with
  | nil => rfl
  | cons symbol word ih =>
    cases symbol with
    | char c => rw [number,number,List.map_cons,ih]; rfl
    | slot v => rw [number,number,List.map_cons,Nat.add_assoc,ih,shift]

theorem number_text (count : Nat) (s : String) : number count (Symbol.ofText s) = s.toList.map .char := by
  rw [Symbol.ofText]
  induction s.toList with
  | nil => rfl
  | cons c cs ih => rw [List.map_cons,List.map_cons,number,ih]

theorem number_append (count : Nat) (first second : List Symbol) :
    number count (first ++ second) =
      number count first ++ number (count + (first.filterMap Symbol.arg?).length) second := by
  induction first generalizing count with
  | nil => rfl
  | cons symbol first ih =>
    cases symbol with
    | char c => rw [List.cons_append,number,ih,number]; rfl
    | slot v =>
      have counted : (List.filterMap Symbol.arg? (.slot v :: first)).length =
          1 + (first.filterMap Symbol.arg?).length := Nat.add_comm _ _
      rw [List.cons_append,number,ih,number,counted,Nat.add_assoc]; rfl

theorem render_number (d : Dialect) (count : Nat) (word : List Symbol) :
    (number count word).flatMap (·.render d) = Symbol.renderFrom d count word := by
  induction word generalizing count with
  | nil => rfl
  | cons symbol word ih =>
    cases symbol with
    | char c => rw [number,List.flatMap_cons,ih]; rfl
    | slot v => rw [number,List.flatMap_cons,ih]; rfl

end Mark

namespace Compiled

theorem append_def (a b : Compiled) : a ++ b =
    ⟨a.marks ++ b.marks.map (·.shift a.args.length),a.args ++ b.args,a.mismatch.or b.mismatch⟩ := rfl

theorem append_assoc (a b c : Compiled) : a ++ b ++ c = a ++ (b ++ c) := by
  simp only [append_def,List.map_append,List.map_map,List.append_assoc,List.length_append,
    Function.comp_def,Mark.shift_shift,Option.or_assoc]

@[simp] theorem empty_append (c : Compiled) : empty ++ c = c := by
  simp [append_def,empty,Mark.shift_zero]

@[simp] theorem append_empty (c : Compiled) : c ++ empty = c := by
  simp [append_def,empty]

theorem text_append (s t : String) : text (s ++ t) = text s ++ text t := by
  simp [append_def,text,Function.comp_def,Mark.shift]

theorem separated_append (sep : String) (part : Compiled) (parts more : List Compiled) :
    separated sep (part :: parts ++ more) =
      separated sep (part :: parts) ++ concat (more.map (text sep ++ ·)) := by
  have joined (parts more : List Compiled) : concat (parts ++ more) = concat parts ++ concat more := by
    induction parts with
    | nil => rw [List.nil_append,concat,empty_append]
    | cons part parts ih => rw [List.cons_append,concat,ih,concat,append_assoc]
  rw [List.cons_append,separated,List.map_append,joined,← append_assoc,separated]

theorem text_intercalate (sep : String) (parts : List String) :
    text (String.intercalate sep parts) = separated sep (parts.map text) := by
  induction parts with
  | nil => rfl
  | cons s parts ih =>
    cases parts with
    | nil => simp [separated,concat]
    | cons t parts =>
      rw [String.intercalate_cons_cons,text_append,text_append,ih]
      simp only [separated,List.map_cons,concat,append_assoc]

/-! ## Compiling a fragment -/

@[simp] theorem ofFragment_empty : ofFragment .empty = empty := rfl

theorem ofFragment_append (f g : Fragment) : ofFragment (f.append g) = ofFragment f ++ ofFragment g := by
  have numbered := Mark.number_shift (f.word.filterMap Symbol.arg?).length 0 g.word
  rw [Nat.add_zero] at numbered
  rw [append_def,ofFragment,ofFragment,ofFragment]
  simp only [f.word_append,Fragment.args_eq_word,List.filterMap_append,Mark.number_append,Nat.zero_add,
    numbered]
  rfl

@[simp] theorem ofFragment_text (f : Fragment) (s : String) :
    ofFragment (f.text s) = ofFragment f ++ text s := by
  have alone : ofFragment (Fragment.empty.text s) = text s := by
    have bare : (Symbol.ofText s).filterMap Symbol.arg? = [] := by
      simp [Symbol.ofText,Symbol.arg?]
    rw [ofFragment,Fragment.args_eq_word,Fragment.word_text,Fragment.word_empty,List.nil_append,
      Mark.number_text,bare]
    rfl
  rw [← alone,← ofFragment_append,Fragment.append_text,Fragment.append_empty]

theorem build_ofFragment {f : Fragment} (untagged : f.tag = none) (d : Dialect) :
    (ofFragment f).build d = f.build d := by
  have rendered : String.ofList ((ofFragment f).marks.flatMap (·.render d)) = f.render d := by
    rw [ofFragment,Mark.render_number,← f.toList_render,String.ofList_toList]
  simp only [build,Fragment.build,rendered,untagged]
  rfl

end Compiled

/-! ## Continuing a fragment -/

namespace Lockstep

/-- The second run continues a fragment where the first one starts afresh. -/
def continuing (out : Fragment) : Lockstep := .ofAny id .empty out

variable {out f g : Fragment} {clear : Bool}

theorem Reaches.eq_append (h : (continuing out).Reaches clear f g) : g = out.append f := by
  induction h with
  | start => exact out.append_empty.symm
  | loosen h ih => exact ih
  | keyword h s fixed ih => rw [ih,Fragment.append_text]
  | free h spelled ih => rw [ih,Fragment.append_text]
  | bind h v ih => rw [ih,Fragment.append_bind]; rfl
  | fill h args admitted ih => rw [ih,Fragment.append_fill]; simp [continuing,ofAny]

theorem Reaches.untagged (h : (continuing out).Reaches clear f g) : f.tag = none := by
  induction h with
  | start => rfl
  | loosen h ih | keyword h s fixed ih | free h spelled ih | bind h v ih => exact ih
  | fill h args admitted ih => rw [Fragment.tag_fill,ih]

theorem Outcome.eq_append {x y : Except Error Fragment} (h : (Lockstep.continuing out).Outcome x y) :
    y = x.map out.append := by
  cases h with
  | refused e => rfl
  | written reached => rw [reached.eq_append]; rfl

end Lockstep

theorem Expr.writeTo_append (d : Dialect) (e : Expr) (out : Fragment) :
    e.writeTo d out = out.append (e.writeTo d .empty) := by
  have reached : (Lockstep.continuing out).Reaches false (e.writeTo d .empty)
      ((e.mapValues id).writeTo d out) := .expr e (fun t _ => Lockstep.admits_ofAny t) .start
  rw [e.mapValues_id] at reached
  exact reached.eq_append

theorem ConditionGroup.writeTo_append (d : Dialect) (g : ConditionGroup) (out : Fragment) :
    g.writeTo d out = out.append (g.writeTo d .empty) := by
  rw [← g.writeTo_toExpr,← g.writeTo_toExpr,Expr.writeTo_append]

theorem Condition.writeTo_append (d : Dialect) (c : Condition) (out : Fragment) :
    c.writeTo d out = out.append (c.writeTo d .empty) := by
  rw [← c.writeTo_toExpr,← c.writeTo_toExpr,Expr.writeTo_append]

theorem Select.outcome_continued (d : Dialect) (q : Select) (out : Fragment) :
    (Lockstep.continuing out).Outcome (q.writeTo d .empty) (q.writeTo d out) := by
  have ended : (Lockstep.continuing out).Outcome (q.writeTo d .empty)
      ((q.mapValues id).writeTo d out) :=
    Lockstep.outcome_select q (fun t _ => Lockstep.admits_ofAny t) .start
  rwa [q.mapValues_id] at ended

/-! ## The clauses against the reference -/

namespace Compiled

theorem ofFragment_fill (f : Fragment) (sql : String) (args : List Value) :
    ofFragment (f.fill sql args) = ofFragment f ++ ofFragment (Fragment.empty.fill sql args) := by
  rw [← ofFragment_append,Fragment.append_fill,Fragment.append_empty]

theorem ofFragment_unless (bare : Bool) (f : Fragment) (s : String) :
    ofFragment (if bare then f else f.text s) =
      ofFragment f ++ if bare then .empty else text s := by
  cases bare with
  | false => exact ofFragment_text f s
  | true => exact (append_empty _).symm

theorem ofFragment_ident (f : Fragment) (d : Dialect) (name : String) :
    ofFragment (f.ident d name) = ofFragment f ++ text (d.quote name) := ofFragment_text f _

theorem ofFragment_condition (d : Dialect) (c : Condition) (out : Fragment) :
    ofFragment (c.writeTo d out) = ofFragment out ++ c.compiled d := by
  rw [c.writeTo_append,ofFragment_append,Condition.compiled]

theorem ofFragment_clause (keyword : String) (d : Dialect) (g : ConditionGroup) (out : Fragment) :
    ofFragment (g.writeClause keyword d out) = ofFragment out ++ g.compiledClause keyword d := by
  rw [ConditionGroup.writeClause,ConditionGroup.compiledClause]
  split
  · rw [append_empty]
  · rw [g.writeTo_append,ofFragment_append,ofFragment_text,append_assoc,ConditionGroup.compiled]

theorem ofFragment_join (d : Dialect) (j : Join) (out : Fragment) :
    ofFragment (j.writeTo d out) = ofFragment out ++ j.compiled d := by
  obtain ⟨kind,table,on⟩ := j
  cases on with
  | none =>
    simp only [Join.writeTo,Join.compiled,ofFragment_text,append_assoc,append_empty]
  | some c =>
    simp only [Join.writeTo,Join.compiled]
    split
    · simp only [ofFragment_text,append_assoc,append_empty]
    · simp only [ofFragment_condition,ofFragment_text,append_assoc]

theorem ofFragment_joins (d : Dialect) (js : List Join) (out : Fragment) :
    ofFragment (Select.writeJoins d js out) = ofFragment out ++ concat (js.map (·.compiled d)) := by
  induction js generalizing out with
  | nil => exact (append_empty _).symm
  | cons j js ih => rw [Select.writeJoins,ih,ofFragment_join,List.map_cons,concat,append_assoc]

theorem ofFragment_exprs (exprs : List (String × List Value)) (out : Fragment) :
    ofFragment (Select.writeExprs false exprs out) = ofFragment out ++
      concat ((exprs.map fun e => ofFragment (Fragment.empty.fill e.1 e.2)).map (text ", " ++ ·)) := by
  induction exprs generalizing out with
  | nil => exact (append_empty _).symm
  | cons e exprs ih =>
    rw [Select.writeExprs,ih,ofFragment_fill,List.map_cons,List.map_cons,concat]
    simp only [Bool.false_eq_true,if_false,ofFragment_text,append_assoc]

theorem ofFragment_list (d : Dialect) (columns : List String) (exprs : List (String × List Value))
    (out : Fragment) : ofFragment (Select.writeList d columns exprs out) =
      ofFragment out ++ Select.compiledList d columns exprs := by
  rw [Select.writeList,Select.compiledList]
  split
  · rw [ofFragment_text]
  · cases columns with
    | nil =>
      cases exprs with
      | nil => contradiction
      | cons e exprs =>
        rw [List.isEmpty_nil,Select.writeExprs,ofFragment_exprs,ofFragment_fill]
        simp [separated,append_assoc]
    | cons column columns =>
      rw [List.isEmpty_cons,ofFragment_exprs,ofFragment_text,text_intercalate,List.map_map,
        Function.comp_def,List.map_cons,separated_append,append_assoc]

theorem ofFragment_grouping (d : Dialect) (columns : List String) (out : Fragment) :
    ofFragment (Select.writeGrouping d columns out) =
      ofFragment out ++ Select.compiledGrouping d columns := by
  rw [Select.writeGrouping,Select.compiledGrouping]
  split
  · rw [append_empty]
  · rw [ofFragment_text,ofFragment_text,text_intercalate,List.map_map,append_assoc]; rfl

theorem ofFragment_ordering (d : Dialect) (entries : List String) (out : Fragment) :
    ofFragment (Select.writeOrdering d entries out) =
      ofFragment out ++ Select.compiledOrdering d entries := by
  simp only [Select.writeOrdering,Select.compiledOrdering]
  split
  · rw [append_empty]
  · rw [ofFragment_text,ofFragment_text,text_intercalate,append_assoc]

theorem ofFragment_limit (d : Dialect) (limit offset : Option UInt64) (out : Fragment) :
    ofFragment (Select.writeLimit d limit offset out) =
      ofFragment out ++ Select.compiledLimit d limit offset := by
  cases limit with
  | some n =>
    cases offset with
    | none =>
      show ofFragment (out.text (" LIMIT " ++ n.toNat.repr)) = _
      simp [Select.compiledLimit]
    | some m =>
      show ofFragment ((out.text (" LIMIT " ++ n.toNat.repr)).text (" OFFSET " ++ m.toNat.repr)) = _
      simp [Select.compiledLimit,append_assoc]
  | none =>
    cases offset with
    | none => exact (append_empty _).symm
    | some m =>
      cases d with
      | postgres =>
        show ofFragment (out.text (" OFFSET " ++ m.toNat.repr)) = _
        simp [Select.compiledLimit,Dialect.unboundedLimit]
      | sqlite | mysql =>
        show ofFragment (((out.text " LIMIT ").text _).text (" OFFSET " ++ m.toNat.repr)) = _
        simp [Select.compiledLimit,Dialect.unboundedLimit,append_assoc]

theorem ofFragment_cteHead (d : Dialect) (name : String) (columns : List String) (out : Fragment) :
    ofFragment (Select.writeCteHead d name columns out) =
      ofFragment out ++ Select.compiledCteHead d name columns := by
  simp only [Select.writeCteHead,Select.compiledCteHead,Fragment.idents]
  split
  · simp only [ofFragment_text,ofFragment_ident,append_assoc,empty_append]
  · simp only [ofFragment_text,ofFragment_ident,text_intercalate,List.map_map,Function.comp_def,
      append_assoc]

end Compiled

/-! ## Queries against the reference -/

/-- The writer refuses as the reference does, or it has written what the reference compiled. -/
inductive Compiles {α : Type} (whole : α → Compiled) : Except Error Fragment → Except Error α → Prop
  | refused (e : Error) : Compiles whole (.error e) (.error e)
  | written {f : Fragment} {a : α} (same : .ofFragment f = whole a) : Compiles whole (.ok f) (.ok a)

namespace Compiles

variable {α β : Type} {whole : α → Compiled} {whole' : β → Compiled}

theorem andThen {x : Except Error Fragment} {y : Except Error α}
    {next : Fragment → Except Error Fragment} {next' : α → Except Error β} (h : Compiles whole x y)
    (rest : ∀ f a, .ofFragment f = whole a → Compiles whole' (next f) (next' a)) :
    Compiles whole' (x >>= next) (y >>= next') := by
  cases h with
  | refused e => exact .refused e
  | written same => exact rest _ _ same

theorem finish {x : Except Error Fragment} {y : Except Error α} {last : α → β}
    (h : Compiles whole x y) (same : ∀ a, whole a = whole' (last a)) :
    Compiles whole' x (y >>= fun a => .ok (last a)) := by
  cases h with
  | refused e => exact .refused e
  | written written => exact .written (written.trans (same _))

end Compiles

namespace Select

open Compiled

mutual
theorem compiles (d : Dialect) : ∀ (q : Select) (out : Fragment),
    Compiles (ofFragment out ++ ·) (q.writeTo d out) (q.compiled d)
  | ⟨ctes,columns,exprs,isDistinct,source,joins,conditions,grouping,groupConditions,ordering,limit,
      offset,combined,misuse⟩, out => by
    cases misuse with
    | some misuse => rw [writeTo,compiled]; exact .refused _
    | none =>
      rw [writeTo,compiled]
      -- The reference compiles all queries before it joins, in the order in which they are written.
      refine (compiles_ctes d ctes _ true).andThen fun f queries written => ?_
      refine (compiles_source d source _).andThen fun g tables listed => ?_
      refine (compiles_combined d combined _).finish fun others => ?_
      rw [ofFragment_unless,ofFragment_limit,ofFragment_ordering,writeConditions,ofFragment_clause,
        ofFragment_grouping,ofFragment_clause,ofFragment_joins,listed,ofFragment_list,ofFragment_text,
        ofFragment_unless,ofFragment_unless,written,ofFragment_text,if_pos rfl]
      cases combined.isEmpty <;>
        simp only [Bool.false_eq_true,if_true,if_false,append_assoc,empty_append]

theorem compiles_ctes (d : Dialect) : ∀ (ctes : List (Cte Select)) (out : Fragment) (first : Bool),
    Compiles (fun queries => ofFragment out ++ if first then separated ", " queries else
      concat (queries.map (text ", " ++ ·))) (writeCtes d first ctes out) (compiledCtes d ctes)
  | [], out, first => by
    rw [writeCtes,compiledCtes]
    exact .written (by cases first <;> exact (append_empty _).symm)
  | ⟨name,columns,query,isRecursive⟩ :: ctes, out, first => by
    rw [writeCtes,compiledCtes]
    refine (compiles d query _).andThen fun f body written => ?_
    refine (compiles_ctes d ctes _ false).finish fun queries => ?_
    rw [ofFragment_text,written,ofFragment_cteHead]
    cases first <;>
      simp only [Bool.false_eq_true,if_true,if_false,ofFragment_text,separated,List.map_cons,concat,
        append_assoc]

theorem compiles_source (d : Dialect) : ∀ (source : Option (Source Select)) (out : Fragment),
    Compiles (ofFragment out ++ ·) (writeSource d source out) (compiledSource d source)
  | none, out => by
    rw [writeSource,compiledSource]
    exact .written (append_empty _).symm
  | some (.table name), out => by
    rw [writeSource,compiledSource]
    exact .written (by simp only [ofFragment_text,append_assoc])
  | some (.subquery query label), out => by
    rw [writeSource,compiledSource]
    refine (compiles d query _).andThen fun f body written => .written ?_
    simp only [ofFragment_ident,ofFragment_text,written,append_assoc]

theorem compiles_combined (d : Dialect) : ∀ (combined : List (SetOp × Select)) (out : Fragment),
    Compiles (ofFragment out ++ ·) (writeCombined d combined out) (compiledCombined d combined)
  | [], out => by
    rw [writeCombined,compiledCombined]
    exact .written (append_empty _).symm
  | (op,query) :: rest, out => by
    rw [writeCombined,compiledCombined]
    refine (compiles d query _).andThen fun f body written => ?_
    refine (compiles_combined d rest _).finish fun others => ?_
    simp only [ofFragment_text,written,append_assoc]
end

/-- A query is built from what the reference compiler makes of it. -/
theorem build_eq_compiled (q : Select) (d : Dialect) : q.build d = q.compiled d >>= (·.build d) := by
  have compiles := q.compiles d .empty
  have continued := q.outcome_continued d .empty
  rw [build]
  generalize q.writeTo d .empty = written, q.compiled d = expected at compiles continued
  cases compiles with
  | refused e => rfl
  | written same =>
    cases continued with
    | written reached =>
      rw [ofFragment_empty,empty_append] at same
      exact same ▸ (build_ofFragment reached.untagged d).symm

end Select

/-- Writing behind a fragment is writing afresh and appending, with the same refusals; and a built
SELECT is what the reference compiler makes of its parts. -/
theorem numbered_once (d : Dialect) :
    (∀ (out : Fragment),
      (∀ e : Expr, e.writeTo d out = out.append (e.writeTo d .empty)) ∧
      (∀ c : Condition, c.writeTo d out = out.append (c.writeTo d .empty)) ∧
      (∀ g : ConditionGroup, g.writeTo d out = out.append (g.writeTo d .empty)) ∧
      (∀ q : Select, q.writeTo d out = (q.writeTo d .empty).map out.append)) ∧
    (∀ q : Select, q.build d = q.compiled d >>= fun c => c.build d) := by
  refine ⟨fun out => ⟨?_,?_,?_,?_⟩,fun q => q.build_eq_compiled d⟩
  · intro e; exact e.writeTo_append d out
  · intro c; exact c.writeTo_append d out
  · intro g; exact g.writeTo_append d out
  · intro q; exact (q.outcome_continued d out).eq_append

end ParamSql
