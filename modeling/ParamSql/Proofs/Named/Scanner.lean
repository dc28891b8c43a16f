import ParamSql.Proofs.Named.Rule

/-! The scanner of named parameters against the rule on bytes. The scanner looks ahead at doubled marks
and colons and skips a name that it has read, so between its steps a run of colons that can go on is
even. Main statement: it finds the parameters of the rule and cuts the text between characters. -/
namespace ParamSql.NamedSql

namespace Token

def chars : Token → List Char
  | char c => [c]
  | param name => ':' :: name.toList

def name? : Token → Option String
  | char _ => none
  | param name => some name

end Token

/-- The parameters among tokens, with the bytes before each. -/
def located : (start : Nat) → List Token → List (Nat × String)
  | _, [] => []
  | start, .char c :: tokens => located (start + c.utf8Size) tokens
  | start, .param name :: tokens => (start,name) :: located (start + 1 + name.utf8ByteSize) tokens

/-! ## The pass on characters -/

section
variable {state : Quoting} {odd : Bool} {start : Nat} {bytes : List UInt8} {c mark : Char}

theorem pass_of_ne {b : UInt8} (other : b ≠ 58) :
    pass state odd start (b :: bytes) = pass (state.next b) false (start + 1) bytes := by
  simp [pass,other]

theorem pass_colon : pass state odd start (String.utf8EncodeChar ':' ++ bytes) =
    (if !odd && state = .outside && bytes.head?.any isStartByte then
      [(start,bytes.takeWhile isNameByte)] else []) ++
      pass state (!odd) (start + (String.utf8EncodeChar ':').length) bytes := by
  have kept : state.next 58 = state := by cases state <;> rfl
  have colon : String.utf8EncodeChar ':' = [58] := rfl
  rw [colon,List.singleton_append,pass,kept]
  rfl

theorem pass_closing (inside : state.mark? = some mark) :
    pass state odd start (String.utf8EncodeChar mark ++ bytes) =
      pass .outside false (start + (String.utf8EncodeChar mark).length) bytes := by
  cases state with
  | outside => cases inside
  | single | double => cases inside; exact pass_of_ne (by decide)

theorem pass_opening (opened : state.mark? = some mark) :
    pass .outside odd start (String.utf8EncodeChar mark ++ bytes) =
      pass state false (start + (String.utf8EncodeChar mark).length) bytes := by
  cases state with
  | outside => cases opened
  | single | double => cases opened; exact pass_of_ne (by decide)

/-- Bytes that are neither marks nor colons only move the pass on. -/
theorem pass_plain {b : UInt8} {more : List UInt8}
    (plain : ∀ b' ∈ b :: more, b' ≠ 58 ∧ state.next b' = state) :
    pass state odd start (b :: more ++ bytes) = pass state false (start + (b :: more).length) bytes := by
  induction more generalizing b odd start with
  | nil =>
    obtain ⟨other,kept⟩ := plain b List.mem_cons_self
    rw [List.singleton_append,pass_of_ne other,kept]
    rfl
  | cons b' more ih =>
    obtain ⟨⟨other,kept⟩,later⟩ := List.forall_mem_cons.mp plain
    rw [List.cons_append,pass_of_ne other,kept,ih later,List.length_cons (a := b),Nat.add_assoc,
      Nat.add_comm 1]

theorem byte_inj {d : Char} (ascii : c.toNat < 128) (small : d.toNat < 128)
    (same : UInt8.ofNat c.toNat = UInt8.ofNat d.toNat) : c = d := by
  have numbers := congrArg UInt8.toNat same
  rw [UInt8.toNat_ofNat',UInt8.toNat_ofNat',Nat.mod_eq_of_lt (by omega),Nat.mod_eq_of_lt (by omega)]
    at numbers
  exact Char.toNat_inj.mp numbers

theorem next_eq_self {b : UInt8} (single : b = 39 → state = .double) (double : b = 34 → state = .single) :
    state.next b = state := by
  by_cases first : b = 39
  · rw [single first,first]; rfl
  · by_cases second : b = 34
    · rw [double second,second]; rfl
    · cases state <;> simp [Quoting.next,first,second]

/-- A character that is no colon and leaves the quotes as they are. -/
theorem pass_char (colon : c ≠ ':') (single : c = '\x27' → state = .double)
    (double : c = '\x22' → state = .single) :
    pass state odd start (String.utf8EncodeChar c ++ bytes) =
      pass state false (start + (String.utf8EncodeChar c).length) bytes := by
  obtain ⟨b,more,split⟩ := List.exists_cons_of_ne_nil (String.utf8EncodeChar_ne_nil (c := c))
  rw [split]
  apply pass_plain
  rw [← split]
  intro b' member
  rcases utf8EncodeChar_cases c with ⟨ascii,byte⟩ | ⟨beyond,bytes⟩
  · rw [byte,List.mem_singleton] at member
    subst member
    refine ⟨fun same => colon (byte_inj (d := ':') ascii (by decide) same),next_eq_self ?_ ?_⟩
    · intro same
      exact single (byte_inj (d := '\x27') ascii (by decide) same)
    · intro same
      exact double (byte_inj (d := '\x22') ascii (by decide) same)
  · have high := bytes b' member
    refine ⟨?_,next_eq_self ?_ ?_⟩ <;> rintro rfl <;> exact absurd high (by decide)

theorem pass_inside (inside : state.mark? = some mark) (other : c ≠ mark) :
    ∃ odd', pass state odd start (String.utf8EncodeChar c ++ bytes) =
      pass state odd' (start + (String.utf8EncodeChar c).length) bytes := by
  by_cases colon : c = ':'
  · subst colon
    have unopened : state ≠ .outside := by rintro rfl; cases inside
    exact ⟨!odd,by rw [pass_colon]; simp [unopened]⟩
  · refine ⟨false,pass_char colon ?_ ?_⟩
    · rintro rfl
      cases state <;> first | rfl | cases inside <;> contradiction
    · rintro rfl
      cases state <;> first | rfl | cases inside <;> contradiction

end

/-! ## The scanner -/

def found (start : Nat) (tokens : List Token) : List (Nat × List UInt8) :=
  (located start tokens).map fun e => (e.1,utf8 e.2)

theorem found_char (start : Nat) (c : Char) (tokens : List Token) :
    found start (.char c :: tokens) = found (start + (String.utf8EncodeChar c).length) tokens := by
  rw [found,located,String.length_utf8EncodeChar,found]

theorem found_param (start : Nat) (name : String) (tokens : List Token) :
    found start (.param name :: tokens) =
      (start,utf8 name) :: found (start + 1 + (encoded name.toList).length) tokens := by
  rw [found,located,List.map_cons,length_encoded,found]

theorem outside_of_mark {state : Quoting} (unmarked : state.mark? = none) : state = .outside := by
  cases state with
  | outside => rfl
  | single | double => cases unmarked

theorem takeWhile_name {c : Char} (starts : isNameStart c) (cs : List Char) :
    (c :: cs).takeWhile isNameChar = c :: cs.takeWhile isNameChar := by
  have first : isNameChar c := by rw [isNameChar_eq,starts,Bool.true_or]
  rw [List.takeWhile_cons,if_pos first]

theorem take_name {c : Char} (starts : isNameStart c) (cs : List Char) :
    (c :: cs).take (c :: cs.takeWhile isNameChar).length = c :: cs.takeWhile isNameChar := by
  rw [← takeWhile_name starts]
  exact (List.prefix_iff_eq_take.mp (List.takeWhile_prefix _)).symm

theorem pass_param {c : Char} (starts : isNameStart c) (start : Nat) (cs : List Char) :
    pass .outside false start (encoded (':' :: c :: cs)) =
      (start,encoded (c :: cs.takeWhile isNameChar)) ::
        pass .outside true (start + 1) (encoded (c :: cs)) := by
  have head : (encoded (c :: cs)).head?.any isStartByte := (head_encoded _).trans starts
  rw [encoded_cons ':',pass_colon,head,takeWhile_encoded,takeWhile_name starts]
  rfl

theorem even_of_colon {odd : Bool} {cs : List Char}
    (even : odd → (none : Option Char) = none → (':' :: cs).head? ≠ some ':') : odd = false := by
  cases odd with
  | false => rfl
  | true => exact absurd rfl (even rfl rfl)

/-- The scanner finds what the pass finds, where no odd run of colons can go on outside quotes. -/
theorem found_scanFrom {quote : Option Char} {skip : Nat} {cs : List Char} {state : Quoting}
    {odd : Bool} {start : Nat} (same : state.mark? = quote)
    (even : odd → quote = none → cs.head? ≠ some ':') (named : (cs.take skip).all isNameChar) :
    found (start + (encoded (cs.take skip)).length) (scanFrom quote skip cs) =
      pass state odd start (encoded cs) := by
  fun_induction scanFrom quote skip cs generalizing state odd start with
  | case1 quote skip => simp [found,located,pass,encoded]
  | case2 quote skip c cs ih =>
    rw [List.take_succ_cons,List.all_cons,Bool.and_eq_true] at named
    obtain ⟨first,named⟩ := named
    -- The characters of a name are neither marks nor colons.
    have colon : c ≠ ':' := by rintro rfl; cases first
    rw [List.take_succ_cons,encoded_cons,encoded_cons,List.length_append,← Nat.add_assoc,
      pass_char colon (by rintro rfl; cases first) (by rintro rfl; cases first)]
    exact ih same (fun odd => by cases odd) named
  | case3 mark cs ih =>
    -- A doubled mark closes the quotes and opens them again.
    change found start _ = _
    rw [found_char,found_char,encoded_cons,encoded_cons,pass_closing same,pass_opening same]
    exact ih same (fun odd => by cases odd) rfl
  | case4 mark c cs other ih =>
    change found start _ = _
    rw [found_char,encoded_cons,pass_closing same]
    exact ih rfl (fun odd => by cases odd) rfl
  | case5 mark =>
    change found start _ = _
    rw [found_char,encoded_cons,pass_closing same]
    rfl
  | case6 mark c cs other ih =>
    obtain ⟨odd',moved⟩ : ∃ odd', pass state odd start (String.utf8EncodeChar c ++ encoded cs) =
        pass state odd' (start + (String.utf8EncodeChar c).length) (encoded cs) :=
      pass_inside same other
    change found start _ = _
    rw [found_char,encoded_cons,moved]
    exact ih same (fun _ none => by cases none) rfl
  | case7 c cs mark ih =>
    obtain rfl := outside_of_mark same
    obtain ⟨opened,marked⟩ : ∃ opened : Quoting, opened.mark? = some c := by
      rcases Bool.or_eq_true_iff.mp mark with first | second
      · exact ⟨.single,congrArg some (of_decide_eq_true first).symm⟩
      · exact ⟨.double,congrArg some (of_decide_eq_true second).symm⟩
    change found start _ = _
    rw [found_char,encoded_cons,pass_opening marked]
    exact ih marked (fun odd => by cases odd) rfl
  | case8 cs unquoted ih =>
    obtain rfl := outside_of_mark same
    obtain rfl := even_of_colon even
    change found start _ = _
    rw [found_char,found_char,encoded_cons,encoded_cons,pass_colon,pass_colon]
    exact ih rfl (fun odd => by cases odd) rfl
  | case9 c cs other starts name unquoted =>
    rename_i ih
    obtain rfl := outside_of_mark same
    obtain rfl := even_of_colon even
    -- The scanner jumps behind the name, which the pass still has to read.
    have taken := take_name starts cs
    have named : ((c :: cs).take name.length).all isNameChar := by
      rw [taken,← takeWhile_name starts]
      exact List.all_takeWhile
    have rest : found (start + 1 + (encoded ((c :: cs).take name.length)).length)
        (scanFrom none name.length (c :: cs)) = pass .outside true (start + 1) (encoded (c :: cs)) :=
      ih rfl (fun _ _ => by simpa using other) named
    rw [taken] at rest
    change found start _ = _
    rw [pass_param starts,found_param,String.toList_ofList,rest,utf8_eq,String.toList_ofList]
  | case10 c cs other unnamed unquoted ih =>
    obtain rfl := outside_of_mark same
    obtain rfl := even_of_colon even
    -- The colon starts nothing; the run is odd now, and the next character is no colon.
    have head : (encoded (c :: cs)).head?.any isStartByte = false :=
      (head_encoded _).trans (Bool.eq_false_iff.mpr unnamed)
    change found start _ = _
    rw [found_char,encoded_cons,pass_colon,head]
    exact ih rfl (fun _ _ => by simpa using other) rfl
  | case11 unquoted =>
    obtain rfl := outside_of_mark same
    change found start _ = _
    rw [found_char,encoded_cons,pass_colon,head_encoded]
    simp [found,located,pass,encoded]
  | case12 c cs unquoted other ih =>
    obtain rfl := outside_of_mark same
    change found start _ = _
    rw [Bool.or_eq_true,not_or] at unquoted
    rw [found_char,encoded_cons,pass_char other (fun mark => absurd (decide_eq_true mark) unquoted.1)
      fun mark => absurd (decide_eq_true mark) unquoted.2]
    exact ih rfl (fun odd => by cases odd) rfl

/-- The tokens spell the text. -/
theorem flatMap_chars_scanFrom (quote : Option Char) (skip : Nat) (cs : List Char) :
    (scanFrom quote skip cs).flatMap Token.chars = cs.drop skip := by
  fun_induction scanFrom quote skip cs with
  | case1 => simp
  | case2 quote skip c cs ih => rw [ih,List.drop_succ_cons]
  | case9 c cs other starts name unquoted =>
    rename_i ih
    have whole : name ++ (c :: cs).drop name.length = c :: cs := by
      have split := List.prefix_iff_eq_append.mp (List.takeWhile_prefix isNameChar (l := c :: cs))
      rwa [takeWhile_name starts] at split
    rw [List.flatMap_cons,ih,Token.chars,String.toList_ofList,List.cons_append,whole]
    rfl
  | case3 | case4 | case5 | case6 | case7 | case8 | case10 | case11 | case12 => simp [Token.chars, *]

theorem flatMap_chars_tokens (q : NamedSql) : q.tokens.flatMap Token.chars = q.sql.toList :=
  flatMap_chars_scanFrom none 0 q.sql.toList

theorem exists_split {start p : Nat} {name : String} {tokens : List Token}
    (member : (p,name) ∈ located start tokens) :
    ∃ left right, tokens.flatMap Token.chars = left ++ ':' :: name.toList ++ right ∧
      p = start + (encoded left).length := by
  induction tokens generalizing start with
  | nil => cases member
  | cons token tokens ih =>
    rw [List.flatMap_cons]
    cases token with
    | char c =>
      obtain ⟨left,right,split,rfl⟩ := ih member
      refine ⟨c :: left,right,by rw [split]; rfl,?_⟩
      rw [encoded_cons,List.length_append,String.length_utf8EncodeChar,Nat.add_assoc]
    | param n =>
      rcases List.mem_cons.mp member with same | member
      · cases same
        exact ⟨[],tokens.flatMap Token.chars,rfl,rfl⟩
      · obtain ⟨left,right,split,rfl⟩ := ih member
        refine ⟨':' :: n.toList ++ left,right,by rw [split]; simp [Token.chars],?_⟩
        have colon : (String.utf8EncodeChar ':').length = 1 := rfl
        rw [List.cons_append,encoded_cons,encoded_append,List.length_append,List.length_append,
          length_encoded,colon]
        omega

theorem isValid_of_split {s : String} (left right : List Char) (split : s.toList = left ++ right) :
    String.Pos.Raw.IsValid s ⟨(encoded left).length⟩ := by
  apply String.Pos.Raw.isValid_iff_exists_append.mpr
  refine ⟨String.ofList left,String.ofList right,?_,?_⟩
  · rw [← String.ofList_append,← split,String.ofList_toList]
  · have size := length_encoded (String.ofList left)
    rw [String.toList_ofList] at size
    rw [size]
    rfl

theorem names_eq (q : NamedSql) : q.names = q.tokens.filterMap Token.name? := by
  rw [names]
  apply List.filterMap_congr
  intro token _
  cases token <;> rfl

theorem map_snd_located (start : Nat) (tokens : List Token) :
    (located start tokens).map (·.2) = tokens.filterMap Token.name? := by
  induction tokens generalizing start with
  | nil => rfl
  | cons token tokens ih =>
    cases token with
    | char c => exact ih _
    | param name => exact congrArg (name :: ·) (ih _)

theorem found_tokens (q : NamedSql) : found 0 q.tokens = pass .outside false 0 (utf8 q.sql) := by
  have even : false = true → (none : Option Char) = none → q.sql.toList.head? ≠ some ':' := nofun
  rw [utf8_eq]
  exact @found_scanFrom none 0 q.sql.toList .outside false 0 rfl even rfl

/-- The scanner finds the parameters of the rule, from left to right, and cuts the text between
characters. -/
theorem parameters_located (q : NamedSql) :
    (∀ p name, (p,name) ∈ located 0 q.tokens ↔
      StartsParam (utf8 q.sql) p ∧ utf8 name = nameAt (utf8 q.sql) p) ∧
    (located 0 q.tokens).Pairwise (·.1 < ·.1) ∧ q.names = (located 0 q.tokens).map (·.2) ∧
    q.tokens.flatMap Token.chars = q.sql.toList ∧
    ∀ e ∈ located 0 q.tokens, String.Pos.Raw.IsValid q.sql ⟨e.1⟩ ∧
      String.Pos.Raw.IsValid q.sql ⟨e.1 + 1⟩ ∧
      String.Pos.Raw.IsValid q.sql ⟨e.1 + 1 + e.2.utf8ByteSize⟩ := by
  refine ⟨fun p name => ?found,?ascending,?named,q.flatMap_chars_tokens,fun e member => ?cut⟩
  case found =>
    have passed : (p,utf8 name) ∈ found 0 q.tokens ↔ (p,name) ∈ located 0 q.tokens := by
      constructor
      · intro member
        obtain ⟨⟨p',name'⟩,inside,same⟩ := List.mem_map.mp member
        obtain ⟨rfl,bytes⟩ := Prod.mk.inj same
        rwa [← utf8_injective bytes]
      · exact List.mem_map_of_mem
    rw [← passed,found_tokens]
    exact (mem_pass [] (utf8 q.sql)).trans (and_iff_right (Nat.zero_le p))
  case ascending =>
    have sorted := (ascending_pass .outside false 0 (utf8 q.sql)).2
    rw [← found_tokens,found,List.pairwise_map] at sorted
    exact sorted
  case named => rw [names_eq,map_snd_located]
  case cut =>
    obtain ⟨p,name⟩ := e
    obtain ⟨left,right,split,rfl⟩ := exists_split member
    rw [flatMap_chars_tokens] at split
    have colon : (encoded [':']).length = 1 := rfl
    have before := isValid_of_split left (':' :: name.toList ++ right) (by simpa using split)
    have begins := isValid_of_split (left ++ [':']) (name.toList ++ right) (by simpa using split)
    have ends := isValid_of_split (left ++ [':'] ++ name.toList) right (by simpa using split)
    rw [encoded_append,List.length_append,colon] at begins
    rw [encoded_append,encoded_append,List.length_append,List.length_append,colon,length_encoded]
      at ends
    rw [Nat.zero_add]
    exact ⟨before,begins,ends⟩

theorem parameters_located_runs :
    located 0 (ofSql "é::b ':c' :::d").tokens = [(13,"d")] ∧
      StartsParam (utf8 "é::b ':c' :::d") 13 := by
  have found : located 0 (ofSql "é::b ':c' :::d").tokens = [(13,"d")] := by decide +kernel
  obtain ⟨rule,-⟩ := parameters_located (ofSql "é::b ':c' :::d")
  exact ⟨found,((rule 13 "d").mp (found ▸ List.mem_cons_self)).1⟩

end ParamSql.NamedSql
