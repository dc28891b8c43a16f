import ParamSql.Proofs.Layout.Calls

/-! Fragments put together. Main statement: the fragments that calls make are a monoid, as are their
layouts; the arguments of a spliced fragment are those of both parts in order, and its text is the text
of the first one and that of the second one, each placeholder of which is moved on by the number of
arguments of the first. -/
namespace ParamSql

/-! ## The empty layout -/

namespace Layout

variable {parts more : List (Option String)}

theorem add_of_separated {p : Option String} (h : Separated (parts ++ p :: more)) :
    add parts p = parts ++ [p] := by
  obtain ⟨filled,apart⟩ := h
  obtain ⟨-,-,seam⟩ := List.isChain_append.mp apart
  cases p with
  | none => rfl
  | some s =>
    have full : ¬s.isEmpty := fun blank => filled (by simp [String.isEmpty_iff.mp blank])
    rw [add,if_neg full]
    obtain rfl | ⟨front,last,rfl⟩ := parts.eq_nil_or_concat'
    · rfl
    · have place : last = none := by simpa using seam last (by simp) (some s) rfl
      rw [place,join_place]

/-- Parts that are normal behind others are added as they are. -/
theorem foldl_add_of_separated (h : Separated (parts ++ more)) :
    more.foldl add parts = parts ++ more := by
  induction more generalizing parts with
  | nil => exact (List.append_nil parts).symm
  | cons p more ih =>
    have moved : parts ++ p :: more = parts ++ [p] ++ more := by simp
    rw [List.foldl_cons,add_of_separated h,moved]
    apply ih
    rwa [← moved]

theorem empty_append {l : Layout} (normal : l.Normal) : empty.append l = l := by
  have kept : l.parts.foldl add [] = l.parts := foldl_add_of_separated normal.separated
  rw [append,show empty.parts = [] from rfl,kept]
  rfl

theorem append_empty (l : Layout) : l.append empty = l := by
  simp [append,empty]

end Layout

namespace Fragment

open Layout

theorem pieces_inj {pieces others : List Piece} (laid : pieces.map part = others.map part)
    (bound : pieces.filterMap Piece.arg? = others.filterMap Piece.arg?) : pieces = others := by
  induction pieces generalizing others with
  | nil => exact (List.map_eq_nil_iff.mp laid.symm).symm
  | cons piece pieces ih =>
    obtain ⟨other,others,rfl,same,rest⟩ := List.map_eq_cons_iff.mp laid.symm
    cases piece with
    | text s =>
      cases other with
      | text t => cases same; rw [ih rest.symm bound]
      | slot w => cases same
    | slot v =>
      cases other with
      | text t => cases same
      | slot w =>
        obtain ⟨rfl,later⟩ := List.cons.inj bound
        rw [ih rest.symm later]

/-- A fragment has no more to it than its layout. -/
theorem layout_injective : Function.Injective layout := by
  intro f g same
  obtain ⟨pieces,tag,mismatch⟩ := f
  obtain ⟨others,tag',mismatch'⟩ := g
  obtain ⟨laid,bound,tagged,reported⟩ := Layout.mk.inj same
  rw [Fragment.mk.injEq]
  exact ⟨pieces_inj laid bound,tagged,reported⟩

theorem empty_append {f : Fragment} (normal : f.layout.Normal) : empty.append f = f := by
  apply layout_injective
  rw [layout_append]
  exact Layout.empty_append normal

end Fragment

/-! ## Numbering behind other text -/

/-- The text of marks in a dialect. -/
def Mark.spell (d : Dialect) (marks : List Mark) : String := String.ofList (marks.flatMap (·.render d))

/-- Without numbers a placeholder looks the same wherever it stands. -/
theorem Mark.spell_shift {d : Dialect} (unnumbered : d.isNumbered = false) (count : Nat)
    (marks : List Mark) : spell d (marks.map (·.shift count)) = spell d marks := by
  have same (mark : Mark) : (mark.shift count).render d = mark.render d := by
    cases mark with
    | char c => rfl
    | placeholder number => simp [shift,render,Dialect.placeholder,unnumbered]
  simp only [spell,List.flatMap_map,same]

namespace Fragment

/-- The text of a fragment with its placeholders numbered from one. -/
def marks (f : Fragment) : List Mark := Mark.number 0 f.word

theorem render_eq_spell (f : Fragment) (d : Dialect) : f.render d = Mark.spell d f.marks := by
  rw [Mark.spell,marks,Mark.render_number,← f.toList_render,String.ofList_toList]

theorem marks_append (f g : Fragment) :
    (f.append g).marks = f.marks ++ g.marks.map (·.shift f.args.length) :=
  congrArg Compiled.marks (Compiled.ofFragment_append f g)

theorem render_append (f g : Fragment) (d : Dialect) : (f.append g).render d =
    f.render d ++ Mark.spell d (g.marks.map (·.shift f.args.length)) := by
  rw [render_eq_spell,marks_append,render_eq_spell f,Mark.spell,List.flatMap_append,
    String.ofList_append]
  rfl

theorem render_append_unnumbered (f g : Fragment) {d : Dialect} (unnumbered : d.isNumbered = false) :
    (f.append g).render d = f.render d ++ g.render d := by
  rw [render_append,Mark.spell_shift unnumbered,← render_eq_spell]

theorem layout_made (start : String) (calls : List Call) :
    (made start calls).layout = Layout.made start calls := by
  rw [made,Call.layout_applyAll,layout_ofText,Layout.made]

theorem normal_made (start : String) (calls : List Call) : (Layout.made start calls).Normal :=
  Call.normal_layOutAll calls (.ofText start)

theorem applyAll_snoc (f : Fragment) (calls : List Call) (call : Call) :
    Call.applyAll f (calls ++ [call]) = call.apply (Call.applyAll f calls) := by
  induction calls generalizing f with
  | nil => rfl
  | cons first calls ih => exact ih (first.apply f)

/-- Splicing is one more call. -/
theorem append_made (s t : String) (calls more : List Call) :
    (made s calls).append (made t more) = made s (calls ++ [.append t more]) :=
  (applyAll_snoc (ofText s) calls (.append t more)).symm

theorem spliced_as_monoid (s t u : String) (calls more rest : List Call) :
    let a := made s calls
    let b := made t more
    let c := made u rest
    let l := Layout.made s calls
    let m := Layout.made t more
    let n := Layout.made u rest
    ((a.append b).append c = a.append (b.append c) ∧ empty.append a = a ∧ a.append empty = a ∧
      a.append b = made s (calls ++ [.append t more])) ∧
    ((l.append m).append n = l.append (m.append n) ∧ Layout.empty.append l = l ∧
      l.append .empty = l ∧ (a.append b).layout = l.append m) ∧
    (a.append b).args = a.args ++ b.args ∧
    (a.append b).render .sqlite = a.render .sqlite ++ b.render .sqlite ∧
    (a.append b).render .mysql = a.render .mysql ++ b.render .mysql ∧
    b.render .postgres = Mark.spell .postgres b.marks ∧
    (a.append b).render .postgres =
      a.render .postgres ++ Mark.spell .postgres (b.marks.map (·.shift a.args.length)) := by
  intro a b c l m n
  have first : a.layout = l := layout_made s calls
  have second : b.layout = m := layout_made t more
  have third : c.layout = n := layout_made u rest
  have normal : l.Normal := normal_made s calls
  refine ⟨⟨(append_assoc a b c).symm,empty_append (first ▸ normal),append_empty a,
    append_made s t calls more⟩,⟨?_,Layout.empty_append normal,l.append_empty,?_⟩,args_append a b,
    render_append_unnumbered a b rfl,render_append_unnumbered a b rfl,render_eq_spell b .postgres,
    render_append a b .postgres⟩
  · rw [← first,← second,← third]
    simp only [← layout_append,append_assoc]
  · rw [layout_append,first,second]

end Fragment

end ParamSql
