import ParamSql.Proofs.Lockstep.Builds

/-! Bound values and the text. Whatever the values of a tree are, the builds refuse alike or write
the same text, and the arguments are those values in the same places. -/
namespace ParamSql

namespace Fragment

theorem mapValues_text (φ : Value → Value) (f : Fragment) (s : String) :
    (f.text s).mapValues φ = (f.mapValues φ).text s := by
  have mapped (pieces : List Piece) : (Piece.addText s pieces).map (·.mapValue φ) =
      Piece.addText s (pieces.map (·.mapValue φ)) := by
    induction pieces with
    | nil => by_cases blank : s = "" <;> simp [Piece.addText,blank,Piece.mapValue]
    | cons piece pieces ih =>
      cases pieces with
      | nil =>
        cases piece with
        | text last => rfl
        | slot v =>
          rw [Piece.addText_slot,List.map_cons,ih,List.map_cons,Piece.mapValue,Piece.addText_slot]
      | cons next pieces =>
        rw [Piece.addText_cons,List.map_cons,ih]
        exact (Piece.addText_cons s _ _ _).symm
  simp only [text,mapValues,mapped]

theorem mapValues_bind (φ : Value → Value) (f : Fragment) (v : Value) :
    (f.bind v).mapValues φ = (f.mapValues φ).bind (φ v) := by
  simp [bind,mapValues,Piece.mapValue]

theorem mismatch?_map (φ : Value → Value) (template : String) (args : List Value) :
    mismatch? template (args.map φ) = mismatch? template args := by
  rw [mismatch?,mismatch?,List.length_map]

theorem mapValues_fillChars (φ : Value → Value) (template : List Char) (args : List Value)
    (f : Fragment) : (fillChars template args f).mapValues φ =
      fillChars template (args.map φ) (f.mapValues φ) := by
  fun_induction fillChars template args f with
  | case1 cs args f ih => rw [ih,mapValues_text,fillChars]
  | case2 cs v args f unpaired ih => rw [ih,mapValues_bind,List.map_cons,fillChars]; exact unpaired
  | case3 cs f unpaired ih => rw [ih,mapValues_text,List.map_nil,fillChars]; exact unpaired
  | case4 c cs args f unpaired unmarked bare ih =>
    have other := ne_question unmarked bare
    rw [ih,mapValues_text,fillChars]
    · exact unpaired
    · exact fun _ _ _ => other
    · exact fun _ => other
  | case5 => rw [fillChars]

theorem mapValues_fill (φ : Value → Value) (f : Fragment) (template : String) (args : List Value) :
    (f.fill template args).mapValues φ = (f.mapValues φ).fill template (args.map φ) := by
  rw [fill,mapValues_fillChars,fill,mismatch?_map]
  rfl

theorem render_mapValues (φ : Value → Value) (f : Fragment) (d : Dialect) :
    (f.mapValues φ).render d = f.render d := by
  have same (count : Nat) (pieces : List Piece) :
      Piece.renderFrom d count (pieces.map (·.mapValue φ)) = Piece.renderFrom d count pieces := by
    induction pieces generalizing count with
    | nil => rfl
    | cons piece pieces ih =>
      cases piece with
      | text s => rw [List.map_cons,Piece.renderFrom,← ih]; rfl
      | slot v => rw [List.map_cons,Piece.renderFrom,← ih]; rfl
  exact same 0 f.pieces

theorem args_mapValues (φ : Value → Value) (f : Fragment) : (f.mapValues φ).args = f.args.map φ := by
  have each (piece : Piece) : (piece.mapValue φ).arg? = piece.arg?.map φ := by
    cases piece <;> rfl
  rw [args,mapValues,List.filterMap_map,args,List.map_filterMap]
  congr 1
  funext piece
  exact each piece

theorem build_mapValues (φ : Value → Value) (f : Fragment) (d : Dialect) :
    (f.mapValues φ).build d = (f.build d).map (·.mapArgs φ) := by
  have kept : (f.mapValues φ).mismatch = f.mismatch := rfl
  rw [build,build,render_mapValues,args_mapValues,kept]
  cases f.mismatch with
  | none => rfl
  | some mismatch => rfl

end Fragment

/-! ## Two runs on different values -/

namespace Lockstep

/-- Both runs start afresh; the second binds other values. -/
def revalued (φ : Value → Value) : Lockstep := .ofAny φ .empty .empty

variable {φ : Value → Value} {f g : Fragment} {clear : Bool}

theorem Reaches.eq_mapValues (h : (revalued φ).Reaches clear f g) : g = f.mapValues φ := by
  induction h with
  | start => rfl
  | loosen h ih => exact ih
  | keyword h s fixed ih => rw [ih,Fragment.mapValues_text]
  | free h spelled ih => rw [ih,Fragment.mapValues_text]
  | bind h v ih => rw [ih,Fragment.mapValues_bind]; rfl
  | fill h args admitted ih => rw [ih,Fragment.mapValues_fill]; rfl

theorem Built.eq_mapArgs {d : Dialect} {x y : Except Error Statement}
    (h : (revalued φ).Built d x y) : y = x.map (·.mapArgs φ) := by
  cases h with
  | refused e => rfl
  | written reached => rw [reached.eq_mapValues,Fragment.build_mapValues]

end Lockstep

namespace NamedSql

theorem writeTokens_mapValues (φ : Value → Value) (params : KeyMap Value) (tokens : List Token)
    (out : Fragment) : writeTokens (params.map φ) tokens (out.mapValues φ) =
      (writeTokens params tokens out).map (·.mapValues φ) := by
  induction tokens generalizing out with
  | nil => rfl
  | cons token tokens ih =>
    cases token with
    | char c => rw [writeTokens,writeTokens,← Fragment.mapValues_text,ih]
    | param name =>
      rw [writeTokens,writeTokens,KeyMap.get?_map]
      cases params.get? name with
      | none => rfl
      | some v =>
        have bound := ih (out.bind v)
        rwa [Fragment.mapValues_bind] at bound

theorem build_mapValues (φ : Value → Value) (q : NamedSql) (d : Dialect) :
    (q.mapValues φ).build d = (q.build d).map (·.mapArgs φ) := by
  have written := writeTokens_mapValues φ q.params q.tokens .empty
  rw [build,build]
  show (writeTokens (q.params.map φ) q.tokens .empty >>= _) = _
  rw [show Fragment.mapValues φ .empty = .empty from rfl] at written
  rw [written]
  cases writeTokens q.params q.tokens .empty with
  | error e => rfl
  | ok f => exact f.build_mapValues φ d

end NamedSql

/-- With other values in its slots, everything that builds a statement is refused for the same
reason, or has the same text with those values for arguments. -/
theorem values_carried (φ : Value → Value) (d : Dialect) :
    (∀ q : Query, (q.mapValues φ).build d = (q.build d).map (·.mapArgs φ)) ∧
    (∀ q : Select, (q.mapValues φ).buildCount d = (q.buildCount d).map (·.mapArgs φ)) ∧
    (∀ e : Expr, (e.mapValues φ).compile d = (e.compile d).map (·.mapArgs φ)) ∧
    (∀ g : ConditionGroup, (g.mapValues φ).compile d = (g.compile d).map (·.mapArgs φ)) := by
  have fresh : (Lockstep.revalued φ).Reaches true .empty .empty := .start
  refine ⟨fun q => ?_,fun q => ?_,fun e => ?_,fun g => ?_⟩
  · cases q with
    | named q => exact q.build_mapValues φ d
    | fragment f => exact f.build_mapValues φ d
    | select _ | insert _ | update _ | delete _ | upsert _ | batchInsert _ | batchUpdate _ =>
      exact (Lockstep.built_query fresh _ rfl fun t _ => Lockstep.admits_ofAny t).eq_mapArgs
  · exact (Lockstep.built_count fresh q fun t _ => Lockstep.admits_ofAny t).eq_mapArgs
  · have reached := fresh.expr e (fun t _ => Lockstep.admits_ofAny t) (d := d)
    exact (Lockstep.Built.written reached).eq_mapArgs
  · have reached := fresh.group g (fun t _ => Lockstep.admits_ofAny t) (d := d)
    exact (Lockstep.Built.written reached).eq_mapArgs

end ParamSql
