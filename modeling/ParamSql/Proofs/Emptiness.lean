import ParamSql.Proofs.Absorbed
import ParamSql.Proofs.Filtered

/-! Expressions that write nothing. An AND, OR or NOT that contributes nothing leaves a fragment as it
is, and so does a group; blank free text that stands alone is written all the same. Main statement: what
an expression writes can be seen unless it contributes nothing, so no keyword that is written for it, or
between it and others, stands without a condition. -/
namespace ParamSql

namespace Fragment

theorem append_ne_self {f : Fragment} (seen : f.isVisible) (out : Fragment) : out.append f ≠ out := by
  intro same
  have words : out.word ++ f.word = out.word := by rw [← word_append,same]
  rw [isVisible,List.append_right_eq_self.mp words] at seen
  cases seen

theorem eq_empty_of_word_text {out : Fragment} {s : String} (same : (out.text s).word = out.word) :
    s = "" := by
  rw [word_text,List.append_right_eq_self,Symbol.ofText,List.map_eq_nil_iff] at same
  exact String.toList_eq_nil_iff.mp same

/-- A blank template leaves a fragment as it is without text and without a mismatch to keep. -/
theorem fill_eq_self_iff {s : String} (blank : Text.isBlankText s) (args : List Value)
    (out : Fragment) : out.fill s args = out ↔ s = "" ∧ (args = [] ∨ out.mismatch.isSome) := by
  rw [fill_eq_of_unmarked (unmarked_of_blank blank),mismatch?_of_blank blank]
  constructor
  · intro same
    refine ⟨eq_empty_of_word_text (congrArg word same :),?_⟩
    have kept := congrArg mismatch same
    cases args with
    | nil => exact .inl rfl
    | cons v args =>
      refine .inr ?_
      cases found : out.mismatch with
      | none => simp [found] at kept
      | some mismatch => rfl
  · rintro ⟨rfl,bare | found⟩
    · rw [bare,out.text_empty]
      simp
    · rw [out.text_empty]
      simp [Option.or_of_isSome found]

/-- Fragments with a text between them. -/
def separated (sep : String) : List Fragment → Fragment
  | [] => empty
  | f :: fs => fs.foldl (fun out g => (out.text sep).append g) f

theorem append_foldl_text (sep : String) (out f : Fragment) (fs : List Fragment) :
    out.append (fs.foldl (fun out g => (out.text sep).append g) f) =
      fs.foldl (fun out g => (out.text sep).append g) (out.append f) := by
  induction fs generalizing f with
  | nil => rfl
  | cons g fs ih => rw [List.foldl_cons,ih,append_assoc,append_text,List.foldl_cons]

/-- What is written behind a keyword. Without a condition neither is written. -/
inductive Led (keyword : String) (out : Fragment) : (bare : Bool) → Fragment → Prop
  | bare : Led keyword out true out
  | led {f : Fragment} (seen : f.isVisible) : Led keyword out false ((out.text keyword).append f)

end Fragment

namespace Expr

open Fragment

/-! ## Members of an AND or OR -/

/-- A member as it is written among others. -/
def part (d : Dialect) (wrap : Bool) (e : Expr) : Fragment :=
  if wrap && e.isCompound then (e.writeTo d (Fragment.empty.text "(")).text ")"
  else e.writeTo d .empty

theorem isVisible_part (d : Dialect) (wrap : Bool) {e : Expr} (live : e.isEmpty = false) :
    (e.part d wrap).isVisible := by
  rw [part]
  split
  next => rw [isVisible_text,e.isVisible_writeTo d _ live,Bool.true_or]
  next => exact e.isVisible_writeTo d .empty live

theorem append_part (d : Dialect) (wrap : Bool) (e : Expr) (out : Fragment) :
    out.append (e.part d wrap) =
      if wrap && e.isCompound then (e.writeTo d (out.text "(")).text ")" else e.writeTo d out := by
  rw [part]
  split
  next =>
    rw [append_text,e.writeTo_append d (Fragment.empty.text "("),append_assoc,append_text,
      Fragment.append_empty,e.writeTo_append d (out.text "(")]
  next => rw [← e.writeTo_append d out]

theorem writeJoined_false (d : Dialect) (keyword : String) (wrap : Bool) {es : List Expr}
    (lively : ∀ e ∈ es, e.isEmpty = false) (out : Fragment) :
    writeJoined d keyword wrap false es out =
      (es.map (part d wrap)).foldl (fun out f => (out.text keyword).append f) out := by
  induction es generalizing out with
  | nil => rfl
  | cons e es ih =>
    obtain ⟨live,lively⟩ := List.forall_mem_cons.mp lively
    rw [writeJoined,live,if_neg Bool.false_ne_true,ih lively,List.map_cons,List.foldl_cons,append_part]
    rfl

theorem live_of_mem {es : List Expr} {e : Expr} (member : e ∈ live es) : e.isEmpty = false := by
  simpa using (List.mem_filter.mp member).2

theorem writeJoined_eq (d : Dialect) (keyword : String) (wrap : Bool) (es : List Expr)
    (out : Fragment) : writeJoined d keyword wrap true es out =
      out.append (separated keyword ((live es).map (part d wrap))) := by
  rw [← writeJoined_live]
  have lively : ∀ e ∈ live es, e.isEmpty = false := fun e member => live_of_mem member
  generalize live es = members at lively
  cases members with
  | nil => exact (Fragment.append_empty out).symm
  | cons e members =>
    obtain ⟨first,others⟩ := List.forall_mem_cons.mp lively
    rw [writeJoined,first,if_neg Bool.false_ne_true,writeJoined_false d keyword wrap others,List.map_cons,
      separated,append_foldl_text,append_part]
    rfl

/-! ## Expressions that contribute nothing -/

/-- Free text that is no member of another expression. -/
def alone? : Expr → Option Template
  | .template sql args => some ⟨sql,args⟩
  | .raw sql => some ⟨sql,[]⟩
  | _ => none

theorem writeTo_of_isEmpty (d : Dialect) {e : Expr} (empty : e.isEmpty) (out : Fragment) :
    e.writeTo d out = match e.alone? with
      | some t => out.fill t.sql t.args
      | none => out := by
  have joined (keyword : String) {members : List Expr} (empty : allEmpty members) :
      writeJoined d keyword (hasSiblings members) true members out = out := by
    rw [allEmpty_iff,List.isEmpty_iff] at empty
    rw [writeJoined_eq,empty]
    exact Fragment.append_empty out
  cases e with
  | and members => exact joined " AND " empty
  | or members => exact joined " OR " empty
  | not inner => exact if_pos empty
  | template sql args => rfl
  | raw sql => exact (fill_of_blank empty out).symm
  | compare | nullCheck | inList | between | always | never => cases empty

theorem isBlank_of_alone {e : Expr} {t : Template} (alone : e.alone? = some t) (empty : e.isEmpty) :
    Text.isBlankText t.sql := by
  cases e with
  | template sql args => cases alone; exact empty
  | raw sql => cases alone; exact empty
  | and | or | not | compare | nullCheck | inList | between | always | never => cases alone

/-- Free text alone is unchanged only if it has no character and nothing to report. -/
theorem writeTo_eq_self_iff (d : Dialect) (e : Expr) (out : Fragment) : e.writeTo d out = out ↔
    e.isEmpty ∧ ∀ t ∈ e.alone?, t.sql = "" ∧ (t.args = [] ∨ out.mismatch.isSome) := by
  cases empty : e.isEmpty with
  | false =>
    have changed := append_ne_self (e.isVisible_writeTo d .empty empty) out
    rw [← e.writeTo_append] at changed
    simp [changed]
  | true =>
    rw [writeTo_of_isEmpty d empty,and_iff_right rfl]
    cases alone : e.alone? with
    | none => exact iff_of_true rfl nofun
    | some t => simpa using fill_eq_self_iff (isBlank_of_alone alone empty) t.args out

end Expr

open Fragment

theorem Expr.led_not (d : Dialect) (inner : Expr) (out : Fragment) :
    Led "NOT (" out inner.isEmpty ((Expr.not inner).writeTo d out) := by
  rw [writeTo,inner.writeTo_append d (out.text "NOT ("),← append_text]
  cases empty : inner.isEmpty with
  | true => exact .bare
  | false =>
    refine .led ?_
    rw [isVisible_text,inner.isVisible_writeTo d .empty empty,Bool.true_or]

theorem Condition.isVisible_writeTo (d : Dialect) {c : Condition} (live : c.isEmpty = false) :
    (c.writeTo d .empty).isVisible := by
  rw [← c.writeTo_toExpr]
  exact c.toExpr.isVisible_writeTo d .empty (c.isEmpty_toExpr.trans live)

theorem Join.led (d : Dialect) (j : Join) (out : Fragment) :
    Led " ON " ((out.text j.kind.keyword).text (Identifier.table d j.table))
      (j.on.all fun c => j.kind = .cross || c.isEmpty) (j.writeTo d out) := by
  rw [writeTo]
  cases j.on with
  | none => exact .bare
  | some c =>
    dsimp only [Option.all]
    rw [c.writeTo_append]
    cases bare : decide (j.kind = .cross) || c.isEmpty with
    | true => exact .bare
    | false => exact .led (c.isVisible_writeTo d (Bool.or_eq_false_iff.mp bare).2)

namespace ConditionGroup

theorem writeTo_eq_self_iff (d : Dialect) (g : ConditionGroup) (out : Fragment) :
    g.writeTo d out = out ↔ g.isEmpty := by
  rw [← g.writeTo_toExpr,Expr.writeTo_eq_self_iff,g.isEmpty_toExpr]
  exact and_iff_left nofun

theorem led (keyword : String) (d : Dialect) (g : ConditionGroup) (out : Fragment) :
    Led keyword out g.isEmpty (g.writeClause keyword d out) := by
  rw [writeClause,g.writeTo_append]
  cases empty : g.isEmpty with
  | true => exact .bare
  | false =>
    refine .led ?_
    rw [← g.writeTo_toExpr]
    exact g.toExpr.isVisible_writeTo d .empty (g.isEmpty_toExpr.trans empty)

end ConditionGroup

/-- What an expression writes can be seen, or it contributes nothing and leaves the fragment as it is,
but for blank free text alone. A keyword is written with a condition that can be seen behind it, and
between two of them. -/
theorem written_unless_empty (d : Dialect) (out : Fragment) :
    (∀ e : Expr, e.writeTo d out = out ↔
      e.isEmpty ∧ ∀ t ∈ e.alone?, t.sql = "" ∧ (t.args = [] ∨ out.mismatch.isSome)) ∧
    (∀ e : Expr, e.isEmpty = false →
      e.writeTo d out = out.append (e.writeTo d .empty) ∧ (e.writeTo d .empty).isVisible) ∧
    (∀ e : Expr, e.isEmpty → e.writeTo d out = match e.alone? with
      | some t => { out.text t.sql with
        mismatch := out.mismatch.or (if t.args.isEmpty then none else some ⟨t.sql,0,t.args.length⟩) }
      | none => out) ∧
    (∀ g : ConditionGroup, g.writeTo d out = out ↔ g.isEmpty) ∧
    (∀ (keyword : String) (g : ConditionGroup), Led keyword out g.isEmpty (g.writeClause keyword d out)) ∧
    (∀ j : Join, Led " ON " ((out.text j.kind.keyword).text (Identifier.table d j.table))
      (j.on.all fun c => j.kind = .cross || c.isEmpty) (j.writeTo d out)) ∧
    (∀ inner : Expr, Led "NOT (" out inner.isEmpty ((Expr.not inner).writeTo d out)) ∧
    ∀ members : List Expr,
      let parts := (Expr.live members).map (Expr.part d (Expr.hasSiblings members))
      (Expr.and members).writeTo d out = out.append (separated " AND " parts) ∧
      (Expr.or members).writeTo d out = out.append (separated " OR " parts) ∧
      ∀ f ∈ parts, f.isVisible := by
  refine ⟨fun e => e.writeTo_eq_self_iff d out,
    fun e live => ⟨e.writeTo_append d out,e.isVisible_writeTo d .empty live⟩,fun e empty => ?_,
    fun g => g.writeTo_eq_self_iff d out,fun keyword g => g.led keyword d out,fun j => j.led d out,
    fun inner => inner.led_not d out,fun members => ⟨?_,?_,fun f member => ?_⟩⟩
  · rw [Expr.writeTo_of_isEmpty d empty]
    cases alone : e.alone? with
    | none => rfl
    | some t =>
      have blank := Expr.isBlank_of_alone alone empty
      exact (fill_eq_of_unmarked (unmarked_of_blank blank) out t.args).trans
        (by rw [mismatch?_of_blank blank])
  · exact Expr.writeJoined_eq d " AND " _ members out
  · exact Expr.writeJoined_eq d " OR " _ members out
  · obtain ⟨e,inside,rfl⟩ := List.mem_map.mp member
    exact e.isVisible_part d _ (Expr.live_of_mem inside)

theorem written_unless_empty_nested :
    let negated : Expr := .not (.eq "a" (.int 1))
    let filter : Expr := .and [.or [],negated,.raw " "]
    let idle : Expr := .not (.or [.raw " ",.and []])
    filter.isEmpty = false ∧ (filter.writeTo .postgres .empty).isVisible ∧
      (negated.part .postgres false).isVisible ∧
      idle.isEmpty ∧ idle.writeTo .postgres (.ofText "SELECT 1") = .ofText "SELECT 1" := by
  intro negated filter idle
  have live : filter.isEmpty = false := by decide
  have empty : idle.isEmpty := by decide
  have member : negated.part .postgres false ∈
      (Expr.live [.or [],negated,.raw " "]).map (Expr.part .postgres false) := by
    exact List.mem_map.mpr ⟨negated,by simp [Expr.live,Expr.isEmpty,Expr.allEmpty,negated,Expr.eq],rfl⟩
  obtain ⟨-,seen,unchanged,-,-,-,-,joined⟩ :=
    written_unless_empty .postgres (.ofText "SELECT 1")
  exact ⟨live,(seen filter live).2,(joined [.or [],negated,.raw " "]).2.2 _ member,empty,
    unchanged idle empty⟩

theorem blank_text_kept :
    (Expr.raw " ").isEmpty ∧ (Expr.raw " ").compile .postgres = .ok ⟨" ",[],none,none⟩ ∧
      ((Expr.template "" [.null]).writeTo .postgres .empty).mismatch = some ⟨"",0,1⟩ ∧
      ¬∀ e : Expr, e.isEmpty ↔ ∀ out, e.writeTo .postgres out = out := by
  refine ⟨by decide,by decide,by decide,fun agree => ?_⟩
  have unchanged := (agree (.raw " ")).mp (by decide) .empty
  revert unchanged
  decide

end ParamSql
