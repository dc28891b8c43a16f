import ParamSql.Proofs.Condition
import ParamSql.Proofs.Fragment

/-! Templates in expressions and queries, and what the writers keep of a mismatch. A template of an
expression is written unless it is blank, so a fragment keeps no mismatch exactly when all templates
that are not blank have as many markers as arguments. -/
namespace ParamSql

structure Template where
  sql : String
  args : List Value
  deriving DecidableEq

namespace Template

def Matches (t : Template) : Prop := Fragment.markerCount t.sql.toList = t.args.length

instance (t : Template) : Decidable t.Matches := inferInstanceAs (Decidable (_ = _))

def isBlank (t : Template) : Bool := Text.isBlankText t.sql

/-- A blank template contributes nothing to an expression around it, whatever its arguments are. -/
def Accepted (t : Template) : Prop := t.isBlank = false → t.Matches

theorem mismatch?_eq_none_iff (t : Template) : Fragment.mismatch? t.sql t.args = none ↔ t.Matches := by
  rw [Fragment.mismatch?,Matches]
  split
  next same => simp [same]
  next different => simp [different]

end Template

namespace Expr

mutual
def templates : Expr → List Template
  | .and members | .or members => templatesAll members
  | .not inner => inner.templates
  | .template sql args => [⟨sql,args⟩]
  | _ => []

def templatesAll : List Expr → List Template
  | [] => []
  | e :: es => e.templates ++ templatesAll es
end

/-- The templates whose mismatch a compilation reports: a template alone is written even if it is
blank. -/
def reported : Expr → List Template
  | .template sql args => [⟨sql,args⟩]
  | e => e.templates.filter (!·.isBlank)

end Expr

namespace Condition

def templates (c : Condition) : List Template := c.toExpr.templates

def Accepted (c : Condition) : Prop := ∀ t ∈ c.templates, t.Accepted

/-- The templates whose mismatch is reported where the condition is given to a builder: the call
checks a template even if it is blank. -/
def reported : Condition → List Template
  | .raw sql args => [⟨sql,args⟩]
  | .expr e => e.templates.filter (!·.isBlank)

end Condition

namespace ConditionGroup

def templates (g : ConditionGroup) : List Template := g.members.flatMap (·.templates)

def Accepted (g : ConditionGroup) : Prop := ∀ c ∈ g.members, c.Accepted

end ConditionGroup

theorem forall_mem_filter_isBlank (ts : List Template) :
    (∀ t ∈ ts.filter (!·.isBlank), t.Matches) ↔ ∀ t ∈ ts, t.Accepted := by
  simp only [List.mem_filter,Bool.not_eq_true',and_imp,Template.Accepted]

/-! ## Blank templates -/

namespace Fragment

variable {s : String} (blank : Text.isBlankText s)
include blank

theorem unmarked_of_blank : '?' ∉ s.toList := fun member => by
  have mark := List.all_eq_true.mp blank _ member
  revert mark
  decide

/-- A blank template takes no argument. -/
theorem mismatch?_of_blank (args : List Value) :
    mismatch? s args = if args.isEmpty then none else some ⟨s,0,args.length⟩ := by
  rw [mismatch?,markerCount_unmarked (unmarked_of_blank blank)]
  cases args <;> rfl

theorem fill_of_blank (f : Fragment) : f.fill s [] = f.text s :=
  fill_unmarked (unmarked_of_blank blank) f (mismatch?_of_blank blank [])

end Fragment

/-! ## Expressions and conditions -/

namespace Expr

mutual
theorem isBlank_of_isEmpty : ∀ e : Expr, e.isEmpty → ∀ t ∈ e.templates, t.isBlank
  | .and members, empty | .or members, empty => isBlank_of_allEmpty members empty
  | .not inner, empty => isBlank_of_isEmpty inner empty
  | .template _ _, empty => fun _ member => List.mem_singleton.mp member ▸ empty
  | .compare .., _ | .nullCheck .., _ | .inList .., _ | .between .., _ | .raw _, _ | .always, _
  | .never, _ => fun _ member => nomatch member

theorem isBlank_of_allEmpty : ∀ es : List Expr, allEmpty es → ∀ t ∈ templatesAll es, t.isBlank
  | [], _ => fun _ member => nomatch member
  | e :: es, empty => by
    rw [allEmpty,Bool.and_eq_true] at empty
    rw [templatesAll]
    exact List.forall_mem_append.mpr ⟨isBlank_of_isEmpty e empty.1,isBlank_of_allEmpty es empty.2⟩
end

theorem accepted_of_isEmpty {e : Expr} (empty : e.isEmpty) : ∀ t ∈ e.templates, t.Accepted := by
  intro t member live
  rw [isBlank_of_isEmpty e empty t member] at live
  cases live

end Expr

namespace Fragment

variable {f : Fragment} {d : Dialect}

@[simp] theorem mismatch_text (f : Fragment) (s : String) : (f.text s).mismatch = f.mismatch := rfl

@[simp] theorem mismatch_bind (f : Fragment) (v : Value) : (f.bind v).mismatch = f.mismatch := rfl

@[simp] theorem mismatch_bindRest (f : Fragment) (values : List Value) :
    (f.bindRest values).mismatch = f.mismatch := by
  induction values generalizing f with
  | nil => rfl
  | cons v values ih => rw [bindRest,ih]; rfl

@[simp] theorem mismatch_bindList (f : Fragment) (values : List Value) :
    (f.bindList values).mismatch = f.mismatch := by
  cases values with
  | nil => rfl
  | cons v values => rw [bindList,mismatch_bindRest]; rfl

theorem mismatch_fill_eq_none (f : Fragment) (t : Template) :
    (f.fill t.sql t.args).mismatch = none ↔ f.mismatch = none ∧ t.Matches := by
  rw [mismatch_fill,Option.or_eq_none_iff,t.mismatch?_eq_none_iff]

end Fragment

namespace Expr

mutual
theorem mismatch_writeTo (d : Dialect) : ∀ (e : Expr) (out : Fragment), e.isEmpty = false →
    ((e.writeTo d out).mismatch = none ↔ out.mismatch = none ∧ ∀ t ∈ e.templates, t.Accepted)
  | .and members, out, _ | .or members, out, _ => by
    rw [writeTo,templates]
    exact mismatch_writeJoined d _ _ _ members out
  | .not inner, out, live => by
    rw [writeTo,if_neg (by rw [show inner.isEmpty = false from live]; simp),templates]
    exact mismatch_writeTo d inner _ live
  | .template sql args, out, live => by
    have accepted : (∀ t ∈ templates (.template sql args), t.Accepted) ↔
        (Template.mk sql args).Matches := by
      rw [templates,List.forall_mem_singleton]
      exact ⟨fun h => h live,fun h _ => h⟩
    rw [accepted]
    exact out.mismatch_fill_eq_none ⟨sql,args⟩
  | .inList column values negated, out, _ => by
    rw [writeTo]
    split <;> simp [templates]
  | .compare .., out, _ | .nullCheck .., out, _ | .between .., out, _ | .raw _, out, _
  | .always, out, _ | .never, out, _ => by
    simp [writeTo,templates]

theorem mismatch_writeJoined (d : Dialect) (keyword : String) (wrap first : Bool) :
    ∀ (es : List Expr) (out : Fragment),
    (writeJoined d keyword wrap first es out).mismatch = none ↔
      out.mismatch = none ∧ ∀ t ∈ templatesAll es, t.Accepted
  | [], out => by simp [writeJoined,templatesAll]
  | e :: es, out => by
    rw [writeJoined,templatesAll,List.forall_mem_append]
    split
    next empty =>
      rw [mismatch_writeJoined d keyword wrap first es out]
      exact and_congr_right fun _ => (and_iff_right (accepted_of_isEmpty empty)).symm
    next live =>
      rw [mismatch_writeJoined d keyword wrap false es]
      have written (f : Fragment) := mismatch_writeTo d e f (by simpa using live)
      have separated : (if first then out else out.text keyword).mismatch = out.mismatch := by
        cases first <;> rfl
      split
      · rw [Fragment.mismatch_text,written,Fragment.mismatch_text,separated,and_assoc]
      · rw [written,separated,and_assoc]
end

end Expr

namespace Condition

theorem mismatch_writeTo (d : Dialect) {c : Condition} (live : c.isEmpty = false) (out : Fragment) :
    (c.writeTo d out).mismatch = none ↔ out.mismatch = none ∧ c.Accepted := by
  rw [← c.writeTo_toExpr]
  exact c.toExpr.mismatch_writeTo d out (c.isEmpty_toExpr.trans live)

theorem accepted_of_isEmpty {c : Condition} (empty : c.isEmpty) : c.Accepted :=
  Expr.accepted_of_isEmpty (c.isEmpty_toExpr.trans empty)

theorem matches_reported_iff (c : Condition) :
    (∀ t ∈ c.reported, t.Matches) ↔ c.misuse? = none ∧ c.Accepted := by
  cases c with
  | raw sql args =>
    rw [reported,List.forall_mem_singleton,misuse?,Option.map_eq_none_iff,
      Template.mismatch?_eq_none_iff ⟨sql,args⟩]
    exact ⟨fun same => ⟨same,fun _ member _ => List.mem_singleton.mp member ▸ same⟩,And.left⟩
  | expr e =>
    rw [reported,forall_mem_filter_isBlank]
    exact (and_iff_right rfl).symm

end Condition

namespace ConditionGroup

theorem templatesAll_map_toExpr (cs : List Condition) :
    Expr.templatesAll (cs.map (·.toExpr)) = cs.flatMap (·.templates) := by
  induction cs with
  | nil => rfl
  | cons c cs ih => rw [List.map_cons,Expr.templatesAll,ih,List.flatMap_cons,Condition.templates]

theorem accepted_iff (g : ConditionGroup) : g.Accepted ↔ ∀ t ∈ g.templates, t.Accepted := by
  rw [templates,List.forall_mem_flatMap]
  exact Iff.rfl

theorem mismatch_writeTo (d : Dialect) (g : ConditionGroup) (out : Fragment) :
    (g.writeTo d out).mismatch = none ↔ out.mismatch = none ∧ g.Accepted := by
  rw [← g.writeTo_toExpr,toExpr,Expr.writeTo,Expr.mismatch_writeJoined,templatesAll_map_toExpr,
    accepted_iff,templates]

theorem mismatch_writeClause (keyword : String) (d : Dialect) (g : ConditionGroup) (out : Fragment) :
    (g.writeClause keyword d out).mismatch = none ↔ out.mismatch = none ∧ g.Accepted := by
  rw [writeClause]
  split
  next empty =>
    have accepted : g.Accepted := fun c member =>
      Condition.accepted_of_isEmpty (List.all_eq_true.mp empty c member)
    simp [accepted]
  next => rw [mismatch_writeTo,Fragment.mismatch_text]

end ConditionGroup

end ParamSql
