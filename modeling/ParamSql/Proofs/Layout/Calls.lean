import ParamSql.Proofs.Layout
import ParamSql.Proofs.Template

/-! The calls that compose a fragment, as data, with what each of them does to a fragment and to a
layout. Main statement: any calls make a normal layout, the one of the fragment that they make; so the
build fails exactly for the first mismatched template that was written, only the fragment without parts
is rendered as no text, and every rendering has a placeholder for each argument, in order. -/
namespace ParamSql

/-! ## Writing by steps -/

/-- What a writer of expressions does to the end of a fragment. -/
inductive Step where
  | text (s : String)
  | bind (v : Value)
  | bindList (values : List Value)
  | fill (sql : String) (args : List Value)

namespace Template

def mismatch? (t : Template) : Option MarkerMismatch := Fragment.mismatch? t.sql t.args

theorem findSome?_mismatch? (ts : List Template) : ts.findSome? (·.mismatch?) =
    (ts.find? fun t => ¬t.Matches).map fun t =>
      ⟨t.sql,Fragment.markerCount t.sql.toList,t.args.length⟩ := by
  induction ts with
  | nil => rfl
  | cons t ts ih =>
    by_cases same : t.Matches
    · rw [List.findSome?_cons,mismatch?,t.mismatch?_eq_none_iff.mpr same,ih,
        List.find?_cons_of_neg (by simpa using same)]
    · have counts : ¬Fragment.markerCount t.sql.toList = t.args.length := same
      rw [List.findSome?_cons,mismatch?,Fragment.mismatch?,if_neg counts,
        List.find?_cons_of_pos (by simpa using same)]
      rfl

end Template

namespace Step

def write (f : Fragment) : Step → Fragment
  | text s => f.text s
  | bind v => f.bind v
  | bindList values => f.bindList values
  | fill sql args => f.fill sql args

def layOut (l : Layout) : Step → Layout
  | text s => l.text s
  | bind v => l.bind v
  | bindList values => l.bindList values
  | fill sql args => l.fill sql args

def template? : Step → Option Template
  | fill sql args => some ⟨sql,args⟩
  | _ => none

end Step

namespace Expr

mutual
def steps (d : Dialect) : Expr → List Step
  | .and members => stepsJoined d " AND " (hasSiblings members) true members
  | .or members => stepsJoined d " OR " (hasSiblings members) true members
  | .not inner => if inner.isEmpty then [] else .text "NOT (" :: inner.steps d ++ [.text ")"]
  | .compare column op value =>
    [.text (Identifier.column d column),.text " ",.text op,.text " ",.bind value]
  | .nullCheck column isNull =>
    [.text (Identifier.column d column),.text (if isNull then " IS NULL" else " IS NOT NULL")]
  | .inList column values negated =>
    if values.isEmpty then [.text (if negated then "1=1" else "1=0")]
    else [.text (Identifier.column d column),.text (if negated then " NOT IN (" else " IN ("),
      .bindList values,.text ")"]
  | .between column low high negated =>
    [.text (Identifier.column d column),.text (if negated then " NOT BETWEEN " else " BETWEEN "),
      .bind low,.text " AND ",.bind high]
  | .template sql args => [.fill sql args]
  | .raw sql => [.text sql]
  | .always => [.text "1=1"]
  | .never => [.text "1=0"]

def stepsJoined (d : Dialect) (keyword : String) (wrap : Bool) : (first : Bool) → List Expr → List Step
  | _, [] => []
  | first, e :: es =>
    if e.isEmpty then stepsJoined d keyword wrap first es
    else (if first then [] else [.text keyword]) ++
      (if wrap && e.isCompound then .text "(" :: e.steps d ++ [.text ")"] else e.steps d) ++
      stepsJoined d keyword wrap false es
end

mutual
theorem writeTo_eq_steps (d : Dialect) : ∀ (e : Expr) (out : Fragment),
    e.writeTo d out = (e.steps d).foldl Step.write out
  | .and members, out | .or members, out => writeJoined_eq_steps d _ _ _ members out
  | .not inner, out => by
    rw [writeTo,steps]
    split
    · rfl
    · rw [List.cons_append,List.foldl_cons,List.foldl_append,← writeTo_eq_steps d inner]; rfl
  | .inList column values negated, out => by
    rw [writeTo,steps]
    split <;> rfl
  | .compare .., out | .nullCheck .., out | .between .., out | .template .., out | .raw _, out
  | .always, out | .never, out => rfl

theorem writeJoined_eq_steps (d : Dialect) (keyword : String) (wrap first : Bool) :
    ∀ (es : List Expr) (out : Fragment), writeJoined d keyword wrap first es out =
      (stepsJoined d keyword wrap first es).foldl Step.write out
  | [], out => rfl
  | e :: es, out => by
    rw [writeJoined,stepsJoined]
    split
    · exact writeJoined_eq_steps d keyword wrap first es out
    · rw [writeJoined_eq_steps d keyword wrap false es,List.foldl_append,List.foldl_append]
      have separated : (if first then out else out.text keyword) =
          (if first then [] else [Step.text keyword]).foldl Step.write out := by
        cases first <;> rfl
      rw [← separated]
      split
      · rw [List.cons_append,List.foldl_cons,List.foldl_append,← writeTo_eq_steps d e]; rfl
      · rw [← writeTo_eq_steps d e]
end

end Expr

/-! ## Calls -/

namespace Fragment

inductive Call where
  | text (s : String)
  | bind (v : Value)
  | bindList (values : List Value)
  | ident (d : Dialect) (name : String)
  | template (sql : String) (args : List Value)
  | append (start : String) (calls : List Call)
  | tag (t : String)
  | expr (d : Dialect) (e : Expr)
  | condition (d : Dialect) (c : Condition)

mutual
/-- What is left after a call, also after one that fails. -/
def Call.apply (f : Fragment) : Call → Fragment
  | text s => f.text s
  | bind v => f.bind v
  | bindList values => f.bindList values
  | ident d name => f.ident d name
  | template sql args => ((fill? sql args).run.run f).2
  | append start calls => f.append (applyAll (ofText start) calls)
  | tag t => f.withTag t
  | expr d e => e.writeTo d f
  | condition d c => c.writeTo d f

def Call.applyAll (f : Fragment) : List Call → Fragment
  | [] => f
  | call :: calls => Call.applyAll (call.apply f) calls
end

def made (start : String) (calls : List Call) : Fragment := Call.applyAll (ofText start) calls

namespace Call

mutual
def layOut (l : Layout) : Call → Layout
  | text s => l.text s
  | bind v => l.bind v
  | bindList values => l.bindList values
  | ident d name => l.ident d name
  | template sql args => ((Layout.fill? sql args).run.run l).2
  | append start calls => l.append (layOutAll (.ofText start) calls)
  | tag t => l.withTag t
  | expr d e => (e.steps d).foldl Step.layOut l
  | condition d c => (c.toExpr.steps d).foldl Step.layOut l

def layOutAll (l : Layout) : List Call → Layout
  | [] => l
  | call :: calls => layOutAll (call.layOut l) calls
end

mutual
/-- The templates that a call writes, in the order in which it writes them. -/
def written : Call → List Template
  | template sql args => [⟨sql,args⟩].filter (·.Matches)
  | append _ calls => writtenAll calls
  | expr d e => (e.steps d).filterMap Step.template?
  | condition d c => (c.toExpr.steps d).filterMap Step.template?
  | _ => []

def writtenAll : List Call → List Template
  | [] => []
  | call :: calls => call.written ++ writtenAll calls
end

end Call

end Fragment

def Layout.made (start : String) (calls : List Fragment.Call) : Layout :=
  Fragment.Call.layOutAll (.ofText start) calls

namespace Step

theorem layout_foldl_write (steps : List Step) (f : Fragment) :
    (steps.foldl write f).layout = steps.foldl layOut f.layout := by
  induction steps generalizing f with
  | nil => rfl
  | cons step steps ih =>
    have laid : (step.write f).layout = step.layOut f.layout := by
      cases step with
      | text s => exact f.layout_text s
      | bind v => exact f.layout_bind v
      | bindList values => exact f.layout_bindList values
      | fill sql args => exact f.layout_fill sql args
    rw [List.foldl_cons,ih,laid,List.foldl_cons]

theorem normal_foldl_layOut (steps : List Step) {l : Layout} (h : l.Normal) :
    (steps.foldl layOut l).Normal := by
  induction steps generalizing l with
  | nil => exact h
  | cons step steps ih =>
    apply ih
    cases step with
    | text s => exact h.text s
    | bind v => exact h.bind v
    | bindList values => exact h.bindList values
    | fill sql args => exact h.fill sql args

theorem mismatch_foldl_write (steps : List Step) (f : Fragment) :
    (steps.foldl write f).mismatch =
      f.mismatch.or ((steps.filterMap template?).findSome? (·.mismatch?)) := by
  induction steps generalizing f with
  | nil => simp
  | cons step steps ih =>
    rw [List.foldl_cons,ih]
    cases step with
    | text s => rfl
    | bind v => rfl
    | bindList values => rw [write,Fragment.mismatch_bindList]; rfl
    | fill sql args =>
      have found : (fill sql args).template? = some ⟨sql,args⟩ := rfl
      rw [write,Fragment.mismatch_fill,Option.or_assoc,List.filterMap_cons_some found,
        List.findSome?_cons,Template.mismatch?]
      cases Fragment.mismatch? sql args <;> rfl

end Step

namespace Fragment

namespace Call

mutual
theorem layout_apply : ∀ (call : Call) (f : Fragment), (call.apply f).layout = call.layOut f.layout
  | text s, f => f.layout_text s
  | bind v, f => f.layout_bind v
  | bindList values, f => f.layout_bindList values
  | ident d name, f => f.layout_ident d name
  | template sql args, f => by rw [apply,layOut,layout_fill?]
  | append start calls, f => by
    rw [apply,layOut,layout_append,layout_applyAll calls,layout_ofText]
  | tag t, f => f.layout_withTag t
  | expr d e, f => by rw [apply,layOut,e.writeTo_eq_steps,Step.layout_foldl_write]
  | condition d c, f => by
    rw [apply,layOut,← c.writeTo_toExpr,Expr.writeTo_eq_steps,Step.layout_foldl_write]

theorem layout_applyAll : ∀ (calls : List Call) (f : Fragment),
    (applyAll f calls).layout = layOutAll f.layout calls
  | [], f => rfl
  | call :: calls, f => by rw [applyAll,layout_applyAll calls,layout_apply call,layOutAll]
end

mutual
theorem normal_layOut : ∀ (call : Call) {l : Layout}, l.Normal → (call.layOut l).Normal
  | text s, _, h => h.text s
  | bind v, _, h => h.bind v
  | bindList values, _, h => h.bindList values
  | ident d name, l, h => by
    rw [layOut,l.ident_eq]
    exact h.text (d.quote name)
  | template sql args, _, h => by
    rw [layOut,Layout.run_fill?]
    cases mismatch? sql args with
    | some mismatch => exact h
    | none => exact h.fill sql args
  | append start calls, _, h => h.append (normal_layOutAll calls (.ofText start))
  | tag t, _, h => h.withTag t
  | expr d e, _, h => Step.normal_foldl_layOut (e.steps d) h
  | condition d c, _, h => Step.normal_foldl_layOut (c.toExpr.steps d) h

theorem normal_layOutAll : ∀ (calls : List Call) {l : Layout}, l.Normal → (layOutAll l calls).Normal
  | [], _, h => h
  | call :: calls, _, h => normal_layOutAll calls (normal_layOut call h)
end

mutual
theorem mismatch_apply : ∀ (call : Call) (f : Fragment),
    (call.apply f).mismatch = f.mismatch.or (call.written.findSome? (·.mismatch?))
  | text s, f | bind v, f | ident d name, f | tag t, f => Option.or_none.symm
  | bindList values, f => (f.mismatch_bindList values).trans Option.or_none.symm
  | template sql args, f => by
    rw [apply,written,run_fill?]
    cases found : mismatch? sql args with
    | some mismatch =>
      have differs : ¬(Template.mk sql args).Matches := by
        rw [← Template.mismatch?_eq_none_iff,found]
        exact nofun
      simp [differs]
    | none =>
      have same : (Template.mk sql args).Matches := by rwa [← Template.mismatch?_eq_none_iff]
      simp [same,mismatch_fill,found,Template.mismatch?]
  | append start calls, f => by
    rw [apply,written,Fragment.append,mismatch_applyAll calls]
    rfl
  | expr d e, f => by rw [apply,written,e.writeTo_eq_steps,Step.mismatch_foldl_write]
  | condition d c, f => by
    rw [apply,written,← c.writeTo_toExpr,Expr.writeTo_eq_steps,Step.mismatch_foldl_write]

theorem mismatch_applyAll : ∀ (calls : List Call) (f : Fragment),
    (applyAll f calls).mismatch = f.mismatch.or ((writtenAll calls).findSome? (·.mismatch?))
  | [], f => by simp [applyAll,writtenAll]
  | call :: calls, f => by
    rw [applyAll,mismatch_applyAll calls,mismatch_apply call,Option.or_assoc,writtenAll,
      List.findSome?_append]
end

end Call

/-- The text before each argument, and the text behind the last one. -/
theorem exists_spans (f : Fragment) : ∃ (spans : List (String × Value)) (last : String),
    f.args = spans.map (·.2) ∧
    f.word = spans.flatMap (fun span => Symbol.ofText span.1 ++ [.slot span.2]) ++ Symbol.ofText last ∧
    ∀ d, f.render d = String.join (spans.zipIdx.map fun span =>
      span.1.1 ++ d.placeholder (span.2 + 1)) ++ last := by
  rw [args,word]
  simp only [render]
  generalize 0 = count
  induction f.pieces generalizing count with
  | nil => exact ⟨[],"",rfl,rfl,fun _ => rfl⟩
  | cons piece pieces ih =>
    cases piece with
    | slot v =>
      obtain ⟨spans,last,args,word,rendered⟩ := ih (count + 1)
      refine ⟨("",v) :: spans,last,?_,?_,fun d => ?_⟩
      · simpa [Piece.arg?] using args
      · simp [Piece.word,word,Symbol.ofText]
      · simp [Piece.renderFrom,rendered,String.append_assoc]
    | text s =>
      obtain ⟨spans,last,args,word,rendered⟩ := ih count
      cases spans with
      | nil =>
        refine ⟨[],s ++ last,?_,?_,fun d => ?_⟩
        · rwa [List.filterMap_cons_none rfl]
        · simp [Piece.word,word,Symbol.ofText]
        · simp [Piece.renderFrom,rendered]
      | cons span spans =>
        refine ⟨(s ++ span.1,span.2) :: spans,last,?_,?_,fun d => ?_⟩
        · rwa [List.filterMap_cons_none rfl]
        · simp [Piece.word,word,Symbol.ofText]
        · simp [Piece.renderFrom,rendered,String.append_assoc]

theorem layout_normal (start : String) (calls : List Call) :
    let f := made start calls
    let l := Layout.made start calls
    l = f.layout ∧ l.Normal ∧
    (∀ d, l.render d = f.render d ∧ l.build d = f.build d ∧ f.build d =
      match (Call.writtenAll calls).find? fun t => ¬t.Matches with
      | some t => .error (.validation (.markers ⟨t.sql,markerCount t.sql.toList,t.args.length⟩))
      | none => .ok ⟨f.render d,f.args,f.tag,none⟩) ∧
    (∀ d, f.isEmpty ↔ f.render d = "") ∧
    ∃ (spans : List (String × Value)) (last : String), f.args = spans.map (·.2) ∧
      f.word = spans.flatMap (fun span => Symbol.ofText span.1 ++ [.slot span.2]) ++
        Symbol.ofText last ∧
      ∀ d, f.render d = String.join (spans.zipIdx.map fun span =>
        span.1.1 ++ d.placeholder (span.2 + 1)) ++ last := by
  intro f l
  have laid : l = f.layout := by
    rw [show f.layout = _ from Call.layout_applyAll calls (ofText start),layout_ofText]
    rfl
  have normal : l.Normal := Call.normal_layOutAll calls (.ofText start)
  have kept : f.mismatch = ((Call.writtenAll calls).find? fun t => ¬t.Matches).map fun t =>
      ⟨t.sql,markerCount t.sql.toList,t.args.length⟩ := by
    rw [← Template.findSome?_mismatch?]
    exact (Call.mismatch_applyAll calls (ofText start)).trans Option.none_or
  refine ⟨laid,normal,fun d => ⟨?_,?_,?_⟩,fun d => ?_,f.exists_spans⟩
  · rw [laid]
    exact f.render_layout d
  · rw [laid]
    exact build_layout (laid ▸ normal) d
  · rw [build,kept]
    cases (Call.writtenAll calls).find? fun t => ¬t.Matches <;> rfl
  · exact (render_eq_empty_iff (laid ▸ normal) d).symm

end Fragment

end ParamSql
