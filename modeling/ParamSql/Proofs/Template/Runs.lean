import ParamSql.Proofs.Layout.Calls

/-! Templates read by runs. A run of question marks stands for half as many of them, and an odd one
ends in a marker. Main statement: the counter and the filler of templates, which both look one
character ahead, find the markers of this reading, and a template is filled exactly if it has as many
markers as arguments; else the fragment that is left is the one that was given. -/
namespace ParamSql

namespace Template

/-- What stands in a template: a character, or the marker of an argument. -/
inductive Place where
  | char (c : Char)
  | marker
  deriving DecidableEq

def ofRun (count : Nat) : List Place :=
  List.replicate (count / 2) (.char '?') ++ List.replicate (count % 2) .marker

/-- What stands in a template, whose runs are taken as long as they are. -/
def places : List Char → List Place
  | [] => []
  | c :: cs =>
    if c = '?' then
      ofRun (1 + (cs.takeWhile (· = '?')).length) ++ places (cs.dropWhile (· = '?'))
    else .char c :: places cs
termination_by cs => cs.length
decreasing_by
  · exact Nat.lt_succ_of_le (List.dropWhile_suffix _).length_le
  · exact Nat.lt_succ_self _

/-- The arguments stand where the markers are; a marker without one is a question mark. -/
def filled : List Place → List Value → List Symbol
  | [], _ => []
  | .char c :: places, args => .char c :: filled places args
  | .marker :: places, v :: args => .slot v :: filled places args
  | .marker :: places, [] => .char '?' :: filled places []

theorem places_run (cs : List Char) : places cs =
    ofRun (cs.takeWhile (· = '?')).length ++ places (cs.dropWhile (· = '?')) := by
  cases cs with
  | nil => simp [places,ofRun]
  | cons c cs =>
    by_cases question : c = '?'
    · rw [places,if_pos question,List.takeWhile_cons_of_pos (by simpa using question),
        List.dropWhile_cons_of_pos (by simpa using question),List.length_cons,Nat.add_comm]
    · rw [List.takeWhile_cons_of_neg (by simpa using question),
        List.dropWhile_cons_of_neg (by simpa using question)]
      simp [ofRun]

theorem places_doubled (cs : List Char) : places ('?' :: '?' :: cs) = .char '?' :: places cs := by
  have two (n : Nat) : ofRun (1 + (n + 1)) = .char '?' :: ofRun n := by
    have half : (1 + (n + 1)) / 2 = n / 2 + 1 := by omega
    have rest : (1 + (n + 1)) % 2 = n % 2 := by omega
    rw [ofRun,half,rest,List.replicate_succ]
    rfl
  rw [places,if_pos rfl,List.takeWhile_cons_of_pos (by rfl),List.dropWhile_cons_of_pos (by rfl),
    List.length_cons,two,List.cons_append,← places_run]

theorem places_single {cs : List Char} (last : ∀ rest, cs = '?' :: rest → False) :
    places ('?' :: cs) = .marker :: places cs := by
  cases cs with
  | nil => simp [places,ofRun]
  | cons c cs =>
    have other : c ≠ '?' := fun same => last cs (same ▸ rfl)
    rw [places,if_pos rfl,List.takeWhile_cons_of_neg (by simpa using other),
      List.dropWhile_cons_of_neg (by simpa using other)]
    rfl

theorem places_plain {c : Char} (other : c ≠ '?') (cs : List Char) :
    places (c :: cs) = .char c :: places cs := by
  rw [places,if_neg other]

/-- The reading splits where no run is cut. -/
theorem places_append {before after : List Char}
    (uncut : before.getLast? ≠ some '?' ∨ after.head? ≠ some '?') :
    places (before ++ after) = places before ++ places after := by
  -- What the counter looks at is what decides whether the next place is known.
  fun_induction Fragment.markerCount before with
  | case1 cs ih =>
    rw [List.cons_append,List.cons_append,places_doubled,places_doubled,ih,List.cons_append]
    cases cs with
    | nil => exact .inl nofun
    | cons c cs => rwa [List.getLast?_cons_cons,List.getLast?_cons_cons] at uncut
  | case2 cs single ih =>
    have onward : ∀ rest, cs ++ after = '?' :: rest → False := by
      cases cs with
      | nil =>
        intro rest more
        simp at uncut
        exact uncut (by rw [show after = _ from more]; rfl)
      | cons c cs =>
        rintro rest ⟨⟩
        exact single _ rfl
    rw [List.cons_append,places_single onward,places_single single,ih,List.cons_append]
    cases cs with
    | nil => exact .inl nofun
    | cons c cs => rwa [List.getLast?_cons_cons] at uncut
  | case3 c cs single other ih =>
    rw [List.cons_append,places_plain other,places_plain other,ih,List.cons_append]
    cases cs with
    | nil => exact .inl nofun
    | cons c cs => rwa [List.getLast?_cons_cons] at uncut
  | case4 => simp [places]

theorem places_replicate (count : Nat) : places (List.replicate count '?') = ofRun count := by
  rw [places_run,List.takeWhile_replicate,List.dropWhile_replicate]
  simp [places]

theorem markerCount_eq_count (cs : List Char) :
    Fragment.markerCount cs = (places cs).count .marker := by
  fun_induction Fragment.markerCount cs with
  | case1 cs ih => simp [places_doubled,ih]
  | case2 cs single ih => simp [places_single single,ih]
  | case3 c cs single other ih => simp [places_plain other,ih]
  | case4 => simp [places]

theorem ofTemplate_eq_filled (cs : List Char) (args : List Value) :
    Symbol.ofTemplate cs args = filled (places cs) args := by
  fun_induction Fragment.markerCount cs generalizing args with
  | case1 cs ih => rw [places_doubled,Symbol.ofTemplate,filled,ih]
  | case2 cs single ih =>
    cases args with
    | nil =>
      rw [places_single single,Symbol.ofTemplate,filled,ih]
      exact single
    | cons v args =>
      rw [places_single single,Symbol.ofTemplate,filled,ih]
      exact single
  | case3 c cs single other ih =>
    have unmarked : ∀ v rest, args = v :: rest → c = '?' → False := fun _ _ _ => other
    have bare : args = [] → c = '?' → False := fun _ => other
    rw [places_plain other,Symbol.ofTemplate,filled,ih]
    all_goals assumption
  | case4 => rw [places,Symbol.ofTemplate,filled]

theorem args_filled (ps : List Place) (args : List Value) :
    (filled ps args).filterMap Symbol.arg? = args.take (ps.count .marker) := by
  fun_induction filled ps args with
  | case1 => simp
  | case2 c ps args ih =>
    rw [List.filterMap_cons_none rfl,ih,List.count_cons_of_ne (by simp)]
  | case3 ps v args ih => simpa [Symbol.arg?] using ih
  | case4 ps ih => simpa [Symbol.arg?] using ih

end Template

namespace Fragment

theorem word_fill_places (f : Fragment) (template : String) (args : List Value) :
    (f.fill template args).word = f.word ++ Template.filled (Template.places template.toList) args := by
  rw [word_fill,Template.ofTemplate_eq_filled]

theorem args_fill (f : Fragment) (template : String) (args : List Value) :
    (f.fill template args).args = f.args ++ args.take (markerCount template.toList) := by
  rw [args_eq_word,word_fill_places,List.filterMap_append,Template.args_filled,← args_eq_word,
    Template.markerCount_eq_count]

theorem run_fill?_eq (f : Fragment) (template : String) (args : List Value) :
    (fill? template args).run.run f =
      if markerCount template.toList = args.length then (.ok (),f.fill template args)
      else (.error (.validation (.markers ⟨template,markerCount template.toList,args.length⟩)),f) := by
  rw [run_fill?,mismatch?]
  by_cases same : markerCount template.toList = args.length
  · rw [if_pos same,if_pos same]
  · rw [if_neg same,if_neg same]

theorem filled_by_runs (f : Fragment) (template : String) (args : List Value) :
    let places := Template.places template.toList
    let markers := places.count .marker
    let filling := (fill? template args).run.run f
    markerCount template.toList = markers ∧
    (∀ before count after, template.toList = before ++ List.replicate count '?' ++ after →
      before.getLast? ≠ some '?' → after.head? ≠ some '?' →
      places = Template.places before ++ Template.ofRun count ++ Template.places after) ∧
    (∀ more, (f.fill template more).word = f.word ++ Template.filled places more ∧
      (f.fill template more).args = f.args ++ more.take markers) ∧
    (filling.1 = .ok () ↔ markers = args.length) ∧
    (filling.1 = .ok () → filling.2.word = f.word ++ Template.filled places args ∧
      filling.2.args = f.args ++ args ∧ filling.2.tag = f.tag ∧ filling.2.mismatch = f.mismatch) ∧
    ∀ e, filling.1 = .error e →
      e = .validation (.markers ⟨template,markers,args.length⟩) ∧ filling.2 = f := by
  intro places markers filling
  have counted : markerCount template.toList = markers := Template.markerCount_eq_count _
  have taken (more : List Value) : (f.fill template more).args = f.args ++ more.take markers := by
    rw [args_fill,counted]
  refine ⟨counted,fun before count after shape starts ends => ?_,
    fun more => ⟨f.word_fill_places template more,taken more⟩,?_⟩
  · rw [show places = _ from congrArg Template.places shape,Template.places_append (.inr ends),
      Template.places_append (.inl starts),Template.places_replicate]
  · have run : filling = _ := f.run_fill?_eq template args
    rw [counted] at run
    by_cases same : markers = args.length
    · rw [if_pos same] at run
      have matched : mismatch? template args = none := by rw [mismatch?,counted,if_pos same]
      have bound : (f.fill template args).args = f.args ++ args := by
        rw [taken,same,List.take_length]
      have kept : (f.fill template args).mismatch = f.mismatch := by
        rw [mismatch_fill,matched,Option.or_none]
      rw [run]
      exact ⟨iff_of_true rfl same,
        fun _ => ⟨f.word_fill_places template args,bound,f.tag_fill template args,kept⟩,
        fun e failed => by cases failed⟩
    · rw [if_neg same] at run
      rw [run]
      exact ⟨iff_of_false (fun done => by cases done) same,fun done => (by cases done),
        fun e failed => ⟨(Except.error.inj failed).symm,rfl⟩⟩

theorem filled_by_runs_odd :
    Template.places "a??? b".toList =
      Template.places ['a'] ++ [.char '?',.marker] ++ Template.places [' ','b'] ∧
    ((fill? "a??? b" [.int 1]).run.run (ofText "SELECT ")).2.args = [.int 1] ∧
    ((fill? "a??? b" []).run.run (ofText "SELECT ")).2 = ofText "SELECT " := by
  obtain ⟨counted,runs,-,fits,done,-⟩ := filled_by_runs (ofText "SELECT ") "a??? b" [.int 1]
  obtain ⟨-,-,-,-,-,refused⟩ := filled_by_runs (ofText "SELECT ") "a??? b" []
  have filled := fits.mpr (counted.symm.trans (by decide))
  exact ⟨runs ['a'] 3 [' ','b'] (by decide) (by decide) (by decide),(done filled).2.1,
    (refused _ (by rfl)).2⟩

end Fragment

end ParamSql
