import ParamSql.Proofs.KeyMap
import ParamSql.Proofs.Named.Scanner
import ParamSql.Proofs.Rendering
import Mathlib.Data.List.Forall2

/-! Values of named parameters. The names of a text and its slots come from the same tokens: each
token becomes one symbol of the fragment, a name the slot of the value that was bound to it last. -/
namespace ParamSql

namespace Mark

def position? : Mark → Option Nat
  | char _ => none
  | placeholder number => some number

/-- The text in which a placeholder stands for the name at its place. -/
def named (names : List String) : Mark → List Char
  | char c => [c]
  | placeholder number => names[number - 1]?.elim [] fun name => ':' :: name.toList

theorem positions_number (count : Nat) (word : List Symbol) :
    (number count word).filterMap position? =
      List.range' (count + 1) (word.filterMap Symbol.arg?).length := by
  induction word generalizing count with
  | nil => rfl
  | cons symbol word ih =>
    cases symbol with
    | char c => exact ih count
    | slot v => exact congrArg ((count + 1) :: ·) (ih (count + 1))

end Mark

namespace NamedSql

/-! ## Calls that bind -/

inductive Call where
  | bind (name : String) (value : Value)
  | bindAll (values : KeyMap Value)

namespace Call

def apply (q : NamedSql) : Call → NamedSql
  | bind name value => q.bind name value
  | bindAll values => q.bindAll values

def given? (name : String) : Call → Option Value
  | bind other value => if name = other then some value else none
  | bindAll values => values.get? name

def gives (name : String) (call : Call) : Bool := (call.given? name).isSome

end Call

def made (sql : String) (calls : List Call) : NamedSql := calls.foldl Call.apply (ofSql sql)

def lastGiven? (calls : List Call) (name : String) : Option Value :=
  calls.reverse.findSome? (·.given? name)

theorem sql_apply (q : NamedSql) (call : Call) : (call.apply q).sql = q.sql := by cases call <;> rfl

theorem get?_apply (q : NamedSql) (call : Call) (name : String) :
    (call.apply q).params.get? name = (call.given? name).or (q.params.get? name) := by
  cases call with
  | bind other value =>
    rw [Call.apply,bind,KeyMap.get?_insert,Call.given?]
    split <;> rfl
  | bindAll values => exact KeyMap.get?_union q.params values name

theorem sql_made (sql : String) (calls : List Call) : (made sql calls).sql = sql := by
  have folded (q : NamedSql) : (calls.foldl Call.apply q).sql = q.sql := by
    induction calls generalizing q with
    | nil => rfl
    | cons call calls ih => rw [List.foldl_cons,ih,sql_apply]
  exact folded (ofSql sql)

theorem get?_made (sql : String) (calls : List Call) (name : String) :
    (made sql calls).params.get? name = lastGiven? calls name := by
  have folded (q : NamedSql) :
      (calls.foldl Call.apply q).params.get? name = (lastGiven? calls name).or (q.params.get? name) := by
    induction calls generalizing q with
    | nil => rfl
    | cons call calls ih =>
      rw [List.foldl_cons,ih,get?_apply,lastGiven?,lastGiven?,List.reverse_cons,List.findSome?_append,
        Option.or_assoc]
      cases given : call.given? name <;> simp [given]
  exact (folded (ofSql sql)).trans (Option.or_none ..)

theorem lastGiven?_filter (calls : List Call) (name : String) :
    lastGiven? (calls.filter (·.gives name)) name = lastGiven? calls name := by
  rw [lastGiven?,lastGiven?,← List.filter_reverse]
  induction calls.reverse with
  | nil => rfl
  | cons call calls ih =>
    cases given : call.given? name with
    | none => rw [List.filter_cons_of_neg (by simp [Call.gives,given]),ih,List.findSome?_cons,given]
    | some v =>
      rw [List.filter_cons_of_pos (by simp [Call.gives,given]),List.findSome?_cons,List.findSome?_cons,given]

/-! ## The fragment -/

inductive Token.Becomes (params : KeyMap Value) : Token → Symbol → Prop
  | char (c : Char) : Becomes params (.char c) (.char c)
  | slot {name : String} {v : Value} (given : params.get? name = some v) :
    Becomes params (.param name) (.slot v)

section
variable {params : KeyMap Value} {tokens : List Token} {word : List Symbol}

/-- The first name without value stops the writer, or each token becomes a symbol. -/
theorem writeTokens_cases (params : KeyMap Value) (tokens : List Token) (out : Fragment) :
    (∃ name, (tokens.filterMap Token.name?).find? (fun name => (params.get? name).isNone) = some name ∧
      writeTokens params tokens out = .error (.missingParam name)) ∨
    ∃ f word, List.Forall₂ (Token.Becomes params) tokens word ∧
      writeTokens params tokens out = .ok f ∧ f.word = out.word ++ word ∧ f.mismatch = out.mismatch := by
  induction tokens generalizing out with
  | nil => exact .inr ⟨out,[],.nil,rfl,(List.append_nil _).symm,rfl⟩
  | cons token tokens ih =>
    cases token with
    | char c =>
      have spelled : Symbol.ofText c.toString = [.char c] := by simp [Symbol.ofText]
      rcases ih (out.text c.toString) with refused | ⟨f,word,becomes,written,extended,clean⟩
      · exact .inl refused
      · refine .inr ⟨f,.char c :: word,.cons (.char c) becomes,written,?_,clean⟩
        rw [extended,Fragment.word_text,spelled,List.append_assoc]
        rfl
    | param name =>
      cases given : params.get? name with
      | none =>
        refine .inl ⟨name,?_,by rw [writeTokens,given]⟩
        exact List.find?_cons_of_pos (by rw [given]; rfl)
      | some v =>
        have next : writeTokens params (.param name :: tokens) out =
            writeTokens params tokens (out.bind v) := by rw [writeTokens,given]
        rw [next]
        rcases ih (out.bind v) with ⟨missing,first,refused⟩ | ⟨f,word,becomes,written,extended,clean⟩
        -- A name with a value is passed over in the search for one without.
        · refine .inl ⟨missing,?_,refused⟩
          rw [← first]
          exact List.find?_cons_of_neg (by rw [given]; exact Bool.false_ne_true)
        · refine .inr ⟨f,.slot v :: word,.cons (.slot given) becomes,written,?_,clean⟩
          rw [extended,Fragment.word_bind,List.append_assoc]
          rfl

/-- The writer asks for the values of the names alone. -/
theorem writeTokens_congr {params' : KeyMap Value} {tokens : List Token}
    (same : ∀ name ∈ tokens.filterMap Token.name?, params'.get? name = params.get? name) (out : Fragment) :
    writeTokens params' tokens out = writeTokens params tokens out := by
  induction tokens generalizing out with
  | nil => rfl
  | cons token tokens ih =>
    cases token with
    | char c => exact ih same _
    | param name =>
      obtain ⟨first,same⟩ := List.forall_mem_cons.mp same
      rw [writeTokens,writeTokens,first]
      cases params.get? name with
      | none => rfl
      | some v => exact ih same _

theorem args_of_becomes (becomes : List.Forall₂ (Token.Becomes params) tokens word) :
    (word.filterMap Symbol.arg?).map some = (tokens.filterMap Token.name?).map params.get? := by
  induction becomes with
  | nil => rfl
  | cons first _ ih =>
    cases first with
    | char c => exact ih
    | slot given => exact congrArg₂ List.cons given.symm ih

theorem isSome_of_becomes (becomes : List.Forall₂ (Token.Becomes params) tokens word) :
    ∀ name ∈ tokens.filterMap Token.name?, (params.get? name).isSome := by
  intro name member
  have given : params.get? name ∈ (word.filterMap Symbol.arg?).map some :=
    args_of_becomes becomes ▸ List.mem_map_of_mem member
  obtain ⟨v,-,same⟩ := List.mem_map.mp given
  rw [← same]
  rfl

theorem named_of_becomes (before : List String)
    (becomes : List.Forall₂ (Token.Becomes params) tokens word) :
    (Mark.number before.length word).flatMap (·.named (before ++ tokens.filterMap Token.name?)) =
      tokens.flatMap Token.chars := by
  induction becomes generalizing before with
  | nil => rfl
  | @cons token symbol tokens word first rest ih =>
    cases first with
    | char c => exact congrArg (c :: ·) (ih before)
    | @slot name v given =>
      -- Each name joins those before, so the number of a slot is the place of its name.
      have rest := ih (before ++ [name])
      rw [List.length_append,List.append_assoc] at rest
      have placed : (Mark.placeholder (before.length + 1)).named
          (before ++ name :: tokens.filterMap Token.name?) = ':' :: name.toList := by
        simp [Mark.named]
      exact congrArg₂ (· ++ ·) placed rest

end

theorem build_cases (q : NamedSql) (d : Dialect) :
    (∃ name, q.names.find? (fun name => (q.params.get? name).isNone) = some name ∧
      q.build d = .error (.missingParam name)) ∨
    ∃ f, List.Forall₂ (Token.Becomes q.params) q.tokens f.word ∧
      writeTokens q.params q.tokens .empty = .ok f ∧ f.build d = q.build d ∧
      q.build d = .ok ⟨f.render d,f.args,f.tag,none⟩ := by
  rw [names_eq]
  rcases writeTokens_cases q.params q.tokens .empty with
    ⟨name,first,refused⟩ | ⟨f,word,becomes,written,extended,clean⟩
  · exact .inl ⟨name,first,by rw [build,refused]; rfl⟩
  · obtain rfl : f.word = word := extended
    have rendered : f.build d = q.build d := by rw [build,written]; rfl
    exact .inr ⟨f,becomes,written,rendered,rendered.symm.trans (Fragment.build_of_clean clean d)⟩

theorem not_isSome_of_find? {params : KeyMap Value} {names : List String} {name : String}
    (first : names.find? (fun name => (params.get? name).isNone) = some name) :
    ¬(params.get? name).isSome := by
  have absent := List.find?_some first
  rw [Option.isNone_iff_eq_none.mp absent]
  exact Bool.false_ne_true

theorem exists_build_iff (q : NamedSql) (d : Dialect) :
    (∃ s, q.build d = .ok s) ↔ ∀ name ∈ q.names, (q.params.get? name).isSome := by
  rcases q.build_cases d with ⟨missing,first,refused⟩ | ⟨f,becomes,-,-,built⟩
  · rw [refused]
    refine iff_of_false nofun fun given => ?_
    exact not_isSome_of_find? first (given missing (List.mem_of_find?_eq_some first))
  · rw [names_eq]
    exact iff_of_true ⟨_,built⟩ (isSome_of_becomes becomes)

theorem build_error_iff (q : NamedSql) (d : Dialect) (e : Error) :
    q.build d = .error e ↔ ∃ name, e = .missingParam name ∧
      q.names.find? (fun name => (q.params.get? name).isNone) = some name := by
  rcases q.build_cases d with ⟨missing,first,refused⟩ | ⟨f,becomes,-,-,built⟩
  · rw [refused,first]
    constructor
    · rintro ⟨⟩
      exact ⟨missing,rfl,rfl⟩
    · rintro ⟨_,rfl,⟨⟩⟩
      rfl
  · rw [built,names_eq]
    refine iff_of_false nofun ?_
    rintro ⟨name,-,first⟩
    have given := isSome_of_becomes becomes name (List.mem_of_find?_eq_some first)
    exact not_isSome_of_find? first given

theorem build_restores {q : NamedSql} {d : Dialect} {s : Statement} (built : q.build d = .ok s) :
    s.args.map some = q.names.map q.params.get? ∧
    ∃ f, writeTokens q.params q.tokens .empty = .ok f ∧ f.build d = .ok s ∧
      s.sql.toList = (Mark.number 0 f.word).flatMap (·.render d) ∧
      (Mark.number 0 f.word).filterMap Mark.position? = List.range' 1 q.names.length ∧
      (Mark.number 0 f.word).flatMap (·.named q.names) = q.sql.toList := by
  rcases q.build_cases d with ⟨missing,-,refused⟩ | ⟨f,becomes,written,rendered,whole⟩
  · rw [refused] at built
    cases built
  obtain rfl := Except.ok.inj (whole.symm.trans built)
  have args : (f.word.filterMap Symbol.arg?).map some = q.names.map q.params.get? := by
    rw [names_eq]
    exact args_of_becomes becomes
  have slots : (f.word.filterMap Symbol.arg?).length = q.names.length := by
    simpa using congrArg List.length args
  refine ⟨?args,f,written,rendered.trans built,?text,?positions,?restored⟩
  case args => rwa [f.args_eq_word]
  case text => rw [f.toList_render,Mark.render_number]
  case positions => rw [Mark.positions_number,slots]
  case restored =>
    rw [names_eq,← flatMap_chars_tokens]
    exact named_of_becomes [] becomes

theorem build_congr {q q' : NamedSql} (text : q'.sql = q.sql)
    (values : ∀ name ∈ q.names, q'.params.get? name = q.params.get? name) (d : Dialect) :
    q'.build d = q.build d := by
  have tokens : q'.tokens = q.tokens := by rw [NamedSql.tokens,text,NamedSql.tokens]
  rw [names_eq] at values
  rw [build,build,tokens,writeTokens_congr values]

/-- Named SQL builds if each name has a value; otherwise the first name without value is missing.
What is built binds the last values of the names, in their order, and is the text again when the
names take the places of the placeholders. Calls may change places as long as those that give a value
to one name stay in order. -/
theorem parameters_bound (sql : String) (calls : List Call) (d : Dialect) :
    let q := made sql calls
    ((∃ s, q.build d = .ok s) ↔ ∀ name ∈ q.names, (lastGiven? calls name).isSome) ∧
    (∀ e, q.build d = .error e ↔ ∃ name, e = .missingParam name ∧
      q.names.find? (fun name => (lastGiven? calls name).isNone) = some name) ∧
    (∀ s, q.build d = .ok s → s.args.map some = q.names.map (lastGiven? calls) ∧
      ∃ f, writeTokens q.params q.tokens .empty = .ok f ∧ f.build d = .ok s ∧
        s.sql.toList = (Mark.number 0 f.word).flatMap (·.render d) ∧
        (Mark.number 0 f.word).filterMap Mark.position? = List.range' 1 q.names.length ∧
        (Mark.number 0 f.word).flatMap (·.named q.names) = sql.toList) ∧
    ∀ calls', (∀ name ∈ q.names, calls'.filter (·.gives name) = calls.filter (·.gives name)) →
      (made sql calls').build d = q.build d := by
  intro q
  have last : q.params.get? = lastGiven? calls := funext (get?_made sql calls)
  have text : q.sql = sql := sql_made sql calls
  refine ⟨?built,?refused,fun s built => ?restored,fun calls' ordered => ?moved⟩
  case built => rw [← last]; exact q.exists_build_iff d
  case refused => rw [← last]; exact q.build_error_iff d
  case restored => rw [← last,← text]; exact build_restores built
  case moved =>
    apply build_congr ((sql_made sql calls').trans text.symm)
    intro name member
    rw [get?_made,get?_made,← lastGiven?_filter,ordered name member,lastGiven?_filter]

/-- Two calls for one name, and a map with a name that the text does not have. -/
theorem parameters_bound_moved :
    let calls : List Call := [.bind "b" (.int 1),.bind "a" (.int 2),
      .bindAll (.ofList [("b",.int 3),("z",.int 4)])]
    let moved : List Call := [.bind "a" (.int 2),.bind "b" (.int 1),
      .bindAll (.ofList [("b",.int 3),("z",.int 4)])]
    ∃ s, (made ":b:a::b':b'" calls).build .postgres = .ok s ∧ s.args = [.int 3,.int 2] ∧
      (made ":b:a::b':b'" moved).build .postgres = .ok s := by
  intro calls moved
  obtain ⟨built,-,restored,ordered⟩ := parameters_bound ":b:a::b':b'" calls .postgres
  have names : (made ":b:a::b':b'" calls).names = ["b","a"] := by decide +kernel
  rw [names] at built restored ordered
  obtain ⟨s,ok⟩ := built.mpr (by decide)
  have args : s.args.map some = [.int 3,.int 2].map some := (restored s ok).1
  have same : ∀ name ∈ ["b","a"], moved.filter (·.gives name) = calls.filter (·.gives name) :=
    List.forall_mem_cons.mpr ⟨rfl,List.forall_mem_singleton.mpr rfl⟩
  exact ⟨s,ok,List.map_injective_iff.mpr (fun _ _ => Option.some.inj) args,(ordered moved same).trans ok⟩

end NamedSql

end ParamSql
