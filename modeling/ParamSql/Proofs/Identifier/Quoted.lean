import ParamSql.Proofs.Identifier.Words

/-! Names that the caller has quoted. Columns and table references keep them. An ORDER BY entry is cut
at its first blank unless it has a parenthesis, so it keeps a quoted name that has no blank or has a
parenthesis, and of any other the part before the blank. -/
namespace ParamSql.Identifier
open Text

variable {d : Dialect} {c : Char} {name tail word keyword : List Char}

theorem isExpressionMark_quoteMark (d : Dialect) : isExpressionMark d.quoteMark := by
  cases d <;> rfl

theorem isBlank_quoteMark (d : Dialect) : isBlank d.quoteMark = false := by
  cases d <;> decide

theorem mem_quoteChars_iff : c ∈ d.quoteChars name ↔ c = d.quoteMark ∨ c ∈ name := by
  simp only [Dialect.quoteChars,List.cons_append,List.mem_cons,List.mem_append,List.mem_flatMap,
    List.not_mem_nil,or_false]
  constructor
  · rintro (mark | ⟨x,inside,member⟩ | mark)
    · exact .inl mark
    · split at member <;> simp_all
    · exact .inl mark
  · rintro (mark | inside)
    · exact .inl mark
    · refine .inr (.inl ⟨c,inside,?_⟩)
      split <;> simp

theorem getLast?_quoteChars (d : Dialect) (name : List Char) :
    (d.quoteChars name).getLast? = some d.quoteMark :=
  List.getLast?_concat

theorem trimEnd_quoteChars (d : Dialect) (name : List Char) :
    trimEnd (d.quoteChars name) = d.quoteChars name := by
  apply trimEnd_eq_self
  intro c last
  rw [getLast?_quoteChars] at last
  cases last
  exact isBlank_quoteMark d

theorem trim_quoteChars (d : Dialect) (name : List Char) :
    trim (d.quoteChars name) = d.quoteChars name := by
  rw [trim,trimStart,dropWhile_eq_self,trimEnd_quoteChars]
  intro c first
  cases first
  exact isBlank_quoteMark d

/-! ## Columns and tables -/

theorem columnChars_of_mark (trimmed : trim word = word) (mark : d.quoteMark ∈ word) :
    columnChars d word = word := by
  have kept : word.any fun c => isExpressionMark c || isBlank c := by
    rw [List.any_eq_true]
    exact ⟨_,mark,by simp [isExpressionMark_quoteMark]⟩
  simp only [columnChars,trimmed,kept,Bool.or_true,if_true]

theorem tableChars_of_mark (trimmed : trim word = word) (mark : d.quoteMark ∈ word) :
    tableChars d word = word := by
  have kept : word.any isExpressionMark := by
    rw [List.any_eq_true]
    exact ⟨_,mark,isExpressionMark_quoteMark d⟩
  simp only [tableChars,trimmed,kept,if_true]

/-! ## Directions -/

/-- A word that gives a direction, whatever the case of its letters. -/
structure Directs (word keyword : List Char) : Prop where
  direction : direction? word = some keyword
  solid : ∀ c ∈ word, isBlank c = false
  plain : '(' ∉ word
  nonempty : word ≠ []

theorem directs_of_sameKeyword (known : keyword = "ASC".toList ∨ keyword = "DESC".toList)
    (same : sameKeyword word keyword) : Directs word keyword := by
  have letters : (keyword.map Char.toLower).all fun c => !isBlank c && c ≠ '(' := by
    rcases known with rfl | rfl <;> decide
  simp only [List.all_eq_true,Bool.and_eq_true,Bool.not_eq_true',decide_eq_true_eq] at letters
  refine ⟨?_,?_,?_,?_⟩
  · rcases known with rfl | rfl
    · rw [direction?,if_pos same]
    · have other : ¬sameKeyword word "ASC".toList := by
        intro both
        rw [sameKeyword,beq_iff_eq] at same both
        exact absurd (both.symm.trans same) (by decide)
      rw [direction?,if_neg other,if_pos same]
  · intro c member
    by_contra blank
    rw [Bool.not_eq_false] at blank
    refine not_mem_of_sameKeyword same (toLower_of_isBlank blank) ?_ member
    intro letter
    simp [letters c letter] at blank
  · exact not_mem_of_sameKeyword same (by decide) fun letter => (letters _ letter).2 rfl
  · rintro rfl
    rcases known with rfl | rfl <;> exact absurd same (by decide)

theorem direction?_eq_none (inside : d.quoteMark ∈ word) : direction? word = none := by
  have other {keyword : List Char} (absent : ∀ d : Dialect, d.quoteMark ∉ keyword.map Char.toLower) :
      ¬sameKeyword word keyword := fun same =>
    not_mem_of_sameKeyword same (by cases d <;> decide) (absent d) inside
  rw [direction?,if_neg (other fun d => by cases d <;> decide),
    if_neg (other fun d => by cases d <;> decide)]

theorem quoteMark_not_mem_directionBehind (rest : List (List Char)) :
    d.quoteMark ∉ directionBehind rest := by
  have letters : d.quoteMark ∉ " ASC".toList ∧ d.quoteMark ∉ " DESC".toList := by
    cases d <;> decide
  cases rest with
  | nil => exact List.not_mem_nil
  | cons next rest =>
    rw [directionBehind]
    split
    · exact letters.1
    · split
      · exact letters.2
      · exact List.not_mem_nil

/-! ## Entries with a parenthesis -/

/-- An entry that ends with a direction: what stands before it is kept. -/
theorem orderChars?_directed {head : List Char} (directs : Directs word keyword) (paren : '(' ∈ head)
    (begins : ∀ c ∈ head.head?, isBlank c = false) (ends : trimEnd head = head) :
    orderChars? d (head ++ ' ' :: word) = some (head ++ ' ' :: keyword) := by
  have trimmed : trim (head ++ ' ' :: word) = head ++ ' ' :: word := by
    refine trim_eq_self (fun c first => begins c ?_) fun c last => ?_
    · obtain ⟨_,_,rfl⟩ := List.exists_cons_of_ne_nil (List.ne_nil_of_mem paren)
      exact first
    · rw [List.getLast?_append,List.getLast?_cons_of_ne_nil directs.nonempty,
        List.getLast?_eq_some_getLast directs.nonempty,Option.some_or] at last
      exact directs.solid c (Option.some_inj.mp last ▸ List.getLast_mem directs.nonempty)
  have inside : (head ++ ' ' :: word).contains '(' := by simp [paren]
  have filled : ¬(head ++ ' ' :: word).isEmpty := by simp
  simp only [orderChars?,trimmed,if_neg filled,if_pos inside,
    splitAtLastBlank?_append directs.solid (show isBlank ' ' by decide),directs.direction,ends]

section
variable (paren : '(' ∈ name)
include paren

theorem orderChars?_parenthesized : orderChars? d (d.quoteChars name) = some (d.quoteChars name) := by
  have inside : (d.quoteChars name).contains '(' := by
    rw [List.contains_iff_mem,mem_quoteChars_iff]
    exact .inr paren
  have filled : ¬(d.quoteChars name).isEmpty := by simp [Dialect.quoteChars]
  simp only [orderChars?,trim_quoteChars,if_neg filled,if_pos inside]
  cases split : splitAtLastBlank? (d.quoteChars name) with
  | none => rfl
  | some parts =>
    -- The closing mark stands behind the last blank, so no direction does.
    obtain ⟨head,tail⟩ := parts
    have mark := mem_of_splitAtLastBlank?_eq_some (getLast?_quoteChars d name) (isBlank_quoteMark d) split
    simp only [direction?_eq_none mark]

theorem orderChars?_parenthesized_directed (directs : Directs word keyword) :
    orderChars? d (d.quoteChars name ++ ' ' :: word) = some (d.quoteChars name ++ ' ' :: keyword) := by
  refine orderChars?_directed directs (mem_quoteChars_iff.mpr (.inr paren)) (fun c first => ?_)
    (trimEnd_quoteChars d name)
  cases first
  exact isBlank_quoteMark d

end

/-! ## Entries without one -/

/-- The part of the entry before its first blank is all that is written of the column. -/
theorem orderChars?_quoteChars_append (plain : '(' ∉ name) (bare : '(' ∉ tail) :
    orderChars? d (d.quoteChars name ++ tail) =
      some ((d.quoteChars name ++ tail).takeWhile (!isBlank ·) ++
        directionBehind (words ((d.quoteChars name ++ tail).dropWhile (!isBlank ·)))) := by
  have entry : '(' ∉ d.quoteChars name ++ tail := by
    rw [List.mem_append,mem_quoteChars_iff,not_or,not_or]
    exact ⟨⟨by cases d <;> decide,plain⟩,bare⟩
  have first : (d.quoteChars name ++ tail).head? = some d.quoteMark := rfl
  have split := words_eq_cons first (isBlank_quoteMark d)
  have column := solid_of_mem_words (split ▸ List.mem_cons_self)
  have mark : d.quoteMark ∈ (d.quoteChars name ++ tail).takeWhile (!isBlank ·) := by
    simp [Dialect.quoteChars,isBlank_quoteMark]
  rw [orderChars?_of_words entry split,columnChars_of_mark (trim_eq_self_of_solid column.2) mark]

theorem orderChars?_solid (plain : '(' ∉ name) (solid : ∀ c ∈ name, isBlank c = false)
    (bare : '(' ∉ tail) (ends : ∀ c ∈ tail.head?, isBlank c) :
    orderChars? d (d.quoteChars name ++ tail) =
      some (d.quoteChars name ++ directionBehind (words tail)) := by
  have letters : ∀ c ∈ d.quoteChars name, !isBlank c := by
    intro c member
    rcases mem_quoteChars_iff.mp member with rfl | inside
    · simp [isBlank_quoteMark]
    · simp [solid c inside]
  obtain ⟨taken,dropped⟩ := cut_append letters fun c first => by simp [ends c first]
  rw [orderChars?_quoteChars_append plain bare,taken,dropped]

/-- Nothing behind the blank brings back the closing mark of the name. -/
theorem orderChars?_quoteChars_ne (plain : '(' ∉ name) (bare : '(' ∉ tail)
    (blank : ∃ c ∈ name, isBlank c) (more : List Char) :
    orderChars? d (d.quoteChars name ++ tail) ≠ some (d.quoteChars name ++ more) := by
  intro kept
  obtain ⟨b,member,blank⟩ := blank
  have whole := List.takeWhile_append_dropWhile (p := (!isBlank ·)) (l := d.quoteChars name)
  have rest : (d.quoteChars name).dropWhile (!isBlank ·) ≠ [] := by
    rw [Ne,List.dropWhile_eq_nil_iff]
    intro solid
    simpa [blank] using solid b (mem_quoteChars_iff.mpr (.inr member))
  have closing : d.quoteMark ∈ (d.quoteChars name).dropWhile (!isBlank ·) := by
    have last := getLast?_quoteChars d name
    rw [← whole,List.getLast?_append,List.getLast?_eq_some_getLast rest,Option.some_or] at last
    rw [← Option.some_inj.mp last]
    exact List.getLast_mem rest
  have short : ((d.quoteChars name).takeWhile (!isBlank ·)).length ≠ (d.quoteChars name).length := by
    intro same
    have lengths := congrArg List.length whole
    rw [List.length_append,same] at lengths
    exact rest (List.eq_nil_of_length_eq_zero (by omega))
  rw [orderChars?_quoteChars_append plain bare,List.takeWhile_append,if_neg short] at kept
  have behind := Option.some_inj.mp kept
  nth_rewrite 3 [← whole] at behind
  rw [List.append_assoc,List.append_cancel_left_eq] at behind
  have inside := List.mem_append_left more closing
  rw [← behind] at inside
  exact quoteMark_not_mem_directionBehind _ inside

/-! ## Quoted names in every place -/

/-- Whether ORDER BY keeps the quoted name. -/
def sortable (name : List Char) : Bool := name.contains '(' || !name.any isBlank

theorem sortable_iff : sortable name ↔ '(' ∈ name ∨ ∀ c ∈ name, isBlank c = false := by
  simp [sortable]

theorem not_sortable_iff : ¬sortable name ↔ '(' ∉ name ∧ ∃ c ∈ name, isBlank c := by
  simp [sortable_iff]

theorem orderChars?_quoteChars_iff :
    orderChars? d (d.quoteChars name) = some (d.quoteChars name) ↔ sortable name := by
  constructor
  · intro kept
    by_contra cut
    obtain ⟨plain,blank⟩ := not_sortable_iff.mp cut
    refine orderChars?_quoteChars_ne (d := d) plain List.not_mem_nil blank [] ?_
    rw [List.append_nil,kept]
  · intro whole
    by_cases paren : '(' ∈ name
    · exact orderChars?_parenthesized paren
    · have solid := (sortable_iff.mp whole).resolve_left paren
      have ends : ∀ c ∈ ([] : List Char).head?, isBlank c := nofun
      have entry := orderChars?_solid (d := d) paren solid List.not_mem_nil ends
      rwa [List.append_nil,show directionBehind (words []) = [] from rfl,List.append_nil] at entry

theorem orderChars?_directed_iff (directs : Directs word keyword) :
    orderChars? d (d.quoteChars name ++ ' ' :: word) = some (d.quoteChars name ++ ' ' :: keyword) ↔
      sortable name := by
  have bare : '(' ∉ ' ' :: word := List.not_mem_cons_of_ne_of_not_mem (by decide) directs.plain
  constructor
  · intro kept
    by_contra cut
    obtain ⟨plain,blank⟩ := not_sortable_iff.mp cut
    exact orderChars?_quoteChars_ne plain bare blank _ kept
  · intro whole
    by_cases paren : '(' ∈ name
    · exact orderChars?_parenthesized_directed paren directs
    · have solid := (sortable_iff.mp whole).resolve_left paren
      have space : ∀ c ∈ (' ' :: word).head?, isBlank c := by
        rintro c ⟨⟩
        decide
      have behind : words (' ' :: word) = [word] := words_eq_singleton directs.solid directs.nonempty
      rw [orderChars?_solid paren solid bare space,behind,directionBehind_cons,directs.direction,
        Option.elim_some]

/-- The renderers of columns and of table references keep a name that is quoted for the dialect. That
of ORDER BY keeps it, and rewrites the direction behind it, exactly when it is sortable; of another
name it writes the part before the first blank. -/
theorem quoted_names_kept (d : Dialect) (name : String) :
    column d (d.quote name) = d.quote name ∧ table d (d.quote name) = d.quote name ∧
    (orderItem? d (d.quote name) = some (d.quote name) ↔ sortable name.toList) ∧
    (∀ keyword suffix : String, keyword = "ASC" ∨ keyword = "DESC" →
      sameKeyword suffix.toList keyword.toList →
      (orderItem? d (d.quote name ++ " " ++ suffix) = some (d.quote name ++ " " ++ keyword) ↔
        sortable name.toList)) ∧
    (¬sortable name.toList → ∀ behind : String, '(' ∉ behind.toList →
      let entry := (d.quote name ++ behind).toList
      orderItem? d (d.quote name ++ behind) =
        some (String.ofList (entry.takeWhile (!isBlank ·) ++
          directionBehind (words (entry.dropWhile (!isBlank ·)))))) := by
  have chars : (d.quote name).toList = d.quoteChars name.toList := String.toList_ofList
  have trimmed := trim_quoteChars d name.toList
  have mark : d.quoteMark ∈ d.quoteChars name.toList := mem_quoteChars_iff.mpr (.inl rfl)
  refine ⟨?column,?table,?alone,?directed,?cut⟩
  case column => rw [column,chars,columnChars_of_mark trimmed mark,Dialect.quote]
  case table => rw [table,chars,tableChars_of_mark trimmed mark,Dialect.quote]
  case alone => rw [orderItem?_eq_some_iff,chars,orderChars?_quoteChars_iff]
  case directed =>
    intro keyword suffix known same
    have directs : Directs suffix.toList keyword.toList := by
      refine directs_of_sameKeyword ?_ same
      exact known.imp (congrArg _) (congrArg _)
    have entry (tail : String) :
        (d.quote name ++ " " ++ tail).toList = d.quoteChars name.toList ++ ' ' :: tail.toList := by
      rw [String.toList_append,String.toList_append,chars,List.append_assoc]
      rfl
    rw [orderItem?_eq_some_iff,entry,entry,orderChars?_directed_iff directs]
  case cut =>
    intro cut behind bare entry
    have plain := (not_sortable_iff.mp cut).1
    have written : entry = d.quoteChars name.toList ++ behind.toList := by
      rw [← chars,← String.toList_append]
    rw [orderItem?_eq_some_iff,String.toList_ofList,written,← orderChars?_quoteChars_append plain bare,
      ← written]

theorem quoted_names_kept_directed :
    orderItem? .mysql "`no. (1)` dEsC" = some "`no. (1)` DESC" ∧
      orderItem? .postgres "\"first name\" asc" = some "\"first" := by
  obtain ⟨-,-,-,directed,-⟩ := quoted_names_kept .mysql "no. (1)"
  obtain ⟨-,-,-,-,cut⟩ := quoted_names_kept .postgres "first name"
  exact ⟨(directed "DESC" "dEsC" (.inr rfl) (by decide)).mpr (by decide),
    cut (by decide) " asc" (by decide)⟩

theorem quoted_name_cut : ¬∀ (d : Dialect) (name : String),
    orderItem? d (d.quote name) = some (d.quote name) := by
  intro kept
  have whole := kept .postgres "first name"
  rw [show orderItem? .postgres (Dialect.postgres.quote "first name") = some "\"first" by decide] at whole
  exact absurd whole (by decide)

end ParamSql.Identifier
