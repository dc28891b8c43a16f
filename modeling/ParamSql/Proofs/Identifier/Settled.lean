import ParamSql.Proofs.Identifier.Plain
import ParamSql.Proofs.Identifier.Quoted
import Mathlib.Data.List.DropRight

/-! Rendering twice. A renderer writes a text that it keeps, a row of stars with dots between them, or a
text with a quote mark, perhaps with a direction behind it. In every dialect it leaves each of these as
it is. -/
namespace ParamSql

/-! ## Trimming twice -/

namespace Text

variable {c : Char} {cs : List Char}

theorem trimEnd_trimEnd (cs : List Char) : trimEnd (trimEnd cs) = trimEnd cs :=
  List.rdropWhile_idempotent isBlank cs

theorem isBlank_of_head?_trim (first : (trim cs).head? = some c) : isBlank c = false := by
  obtain ⟨rest,whole⟩ : trim cs <+: trimStart cs := List.rdropWhile_prefix isBlank _
  have stop := List.head?_dropWhile_not isBlank cs
  rw [← trimStart,← whole,List.head?_append,first] at stop
  exact stop

theorem isBlank_of_getLast?_trim (last : (trim cs).getLast? = some c) : isBlank c = false := by
  have stop := List.head?_dropWhile_not isBlank (trimStart cs).reverse
  rw [trim,trimEnd,List.getLast?_reverse] at last
  rw [last] at stop
  exact stop

theorem trim_trim (cs : List Char) : trim (trim cs) = trim cs :=
  trim_eq_self (fun _ => isBlank_of_head?_trim) fun _ => isBlank_of_getLast?_trim

theorem mem_trimEnd (member : c ∈ cs) (solid : isBlank c = false) : c ∈ trimEnd cs := by
  have whole : trimEnd cs ++ cs.rtakeWhile isBlank = cs := List.rdropWhile_append_rtakeWhile
  rw [← whole] at member
  rcases List.mem_append.mp member with inside | blank
  · exact inside
  · rw [List.mem_rtakeWhile_imp blank] at solid
    cases solid

theorem splitAtLastBlank?_eq_some {head tail : List Char} (split : splitAtLastBlank? cs = some (head,tail)) :
    ∃ b, isBlank b ∧ cs = head ++ b :: tail := by
  rw [splitAtLastBlank?,List.span_eq_takeWhile_dropWhile] at split
  split at split
  next => cases split
  next taken b rest found =>
    cases split
    obtain ⟨rfl,dropped⟩ := Prod.mk.inj found
    have stop := List.head?_dropWhile_not (!isBlank ·) cs.reverse
    rw [dropped] at stop
    refine ⟨b,by simpa using stop,?_⟩
    have whole := List.takeWhile_append_dropWhile (p := (!isBlank ·)) (l := cs.reverse)
    rw [dropped] at whole
    simpa using congrArg List.reverse whole.symm

theorem subset_intercalate {separator part : List Char} {parts : List (List Char)}
    (found : part ∈ parts) : part ⊆ separator.intercalate parts := by
  induction parts with
  | nil => cases found
  | cons first parts ih =>
    intro c member
    cases parts with
    | nil => simpa [List.mem_singleton.mp found] using member
    | cons next parts =>
      rw [List.intercalate_cons_cons]
      rcases List.mem_cons.mp found with rfl | later
      · exact List.mem_append_left _ (List.mem_append_left _ member)
      · exact List.mem_append_right _ (ih later member)

end Text

namespace Identifier
open Text

variable {d e : Dialect} {c : Char} {cs name label word written item : List Char}

/-! ## Dotted names -/

theorem mem_dotted_imp (member : c ∈ dotted d name) : c ∈ name ∨ c = '.' ∨ c = d.quoteMark := by
  rcases mem_intercalate member with dot | ⟨part,found,inside⟩
  · exact .inr (.inl (List.mem_singleton.mp dot))
  · obtain ⟨part,split,rfl⟩ := List.mem_map.mp found
    split at inside
    · exact .inl (mem_of_mem_splitOnChar split inside)
    · rcases mem_quoteChars_iff.mp inside with mark | inside
      · exact .inr (.inr mark)
      · exact .inl (mem_of_mem_splitOnChar split inside)

theorem solid_dotted (solid : ∀ c ∈ name, isBlank c = false) : ∀ c ∈ dotted d name, isBlank c = false := by
  intro c member
  rcases mem_dotted_imp member with inside | rfl | rfl
  · exact solid c inside
  · decide
  · exact isBlank_quoteMark d

/-- Either all parts of a name are stars, which no dialect quotes, or each dialect quotes one of them. -/
theorem dotted_eq_self_or_mark (name : List Char) :
    (∀ d : Dialect, dotted d name = name) ∨ ∀ d : Dialect, d.quoteMark ∈ dotted d name := by
  by_cases stars : ∀ part ∈ splitOnChar '.' name, part = ['*']
  · left
    intro d
    have kept : (splitOnChar '.' name).map (fun part => if part = ['*'] then part else d.quoteChars part) =
        (splitOnChar '.' name).map id := List.map_congr_left fun part member => if_pos (stars part member)
    rw [dotted,kept,List.map_id,splitOnChar_eq_splitOn,List.intercalate_splitOn]
  · right
    intro d
    simp only [not_forall] at stars
    obtain ⟨part,member,other⟩ := stars
    refine subset_intercalate (List.mem_map_of_mem member) ?_
    rw [if_neg other]
    exact mem_quoteChars_iff.mpr (.inl rfl)

theorem dotted_ne_nil (some : name ≠ []) : dotted d name ≠ [] := by
  rcases dotted_eq_self_or_mark name with stars | quoted
  · rwa [stars d]
  · exact List.ne_nil_of_mem (quoted d)

/-! ## Columns -/

theorem columnChars_trim (written : List Char) : columnChars d (trim written) = columnChars d written := by
  rw [columnChars,trim_trim,← columnChars]

theorem columnChars_of_any (trimmed : trim word = word)
    (kept : word.any fun c => isExpressionMark c || isBlank c) : columnChars d word = word := by
  simp only [columnChars,trimmed,kept,Bool.or_true,if_true]

/-- A column is kept as it is, or it has no blank and no mark and is quoted part by part. -/
theorem columnChars_cases (written : List Char) :
    (∀ d : Dialect, columnChars d written = trim written) ∨
      trim written ≠ [] ∧ (∀ c ∈ trim written, isExpressionMark c = false ∧ isBlank c = false) ∧
        ∀ d : Dialect, columnChars d written = dotted d (trim written) := by
  by_cases kept : trim written = ['*'] ∨ ((trim written).any fun c => isExpressionMark c || isBlank c) ∨
      trim written = []
  · left
    intro d
    rw [columnChars]
    rcases kept with star | mark | empty
    · simp only [star,decide_true,Bool.true_or,if_true]
    · simp only [mark,Bool.or_true,if_true]
    · simp only [empty]
      rfl
  · right
    simp only [not_or] at kept
    obtain ⟨other,bare,filled⟩ := kept
    refine ⟨filled,fun c member => ?_,fun d => ?_⟩
    · have plain := List.any_eq_false.mp (Bool.not_eq_true _ ▸ bare) c member
      simpa using plain
    · simp only [columnChars,other,bare,List.isEmpty_iff,filled,decide_false,Bool.or_self,if_false]
      rfl

theorem columnChars_dotted (filled : name ≠ [])
    (plain : ∀ c ∈ name, isExpressionMark c = false ∧ isBlank c = false) :
    columnChars e (dotted d name) = dotted d name := by
  have trimmed := trim_eq_self_of_solid (solid_dotted (d := d) fun c member => (plain c member).2)
  rcases dotted_eq_self_or_mark name with stars | quoted
  · rw [stars d] at trimmed ⊢
    have column := columnChars_of_solid (d := e) (fun c member => (plain c member).1)
      (trimmed.symm ▸ fun c member => (plain c member).2) (trimmed.symm ▸ filled)
    rw [column,trimmed,stars e]
  · refine columnChars_of_any trimmed (List.any_eq_true.mpr ⟨_,quoted d,?_⟩)
    rw [isExpressionMark_quoteMark,Bool.true_or]

theorem columnChars_columnChars (written : List Char) :
    columnChars e (columnChars d written) = columnChars d written := by
  rcases columnChars_cases written with kept | ⟨filled,plain,quoted⟩
  · rw [kept d,columnChars_trim,kept e]
  · rw [quoted d,columnChars_dotted filled plain]

/-! ## Table references -/

theorem tableChars_trim (written : List Char) : tableChars d (trim written) = tableChars d written := by
  rw [tableChars,trim_trim,← tableChars]

theorem tableChars_of_any (trimmed : trim word = word) (kept : word.any isExpressionMark) :
    tableChars d word = word := by
  simp only [tableChars,trimmed,kept,if_true]

theorem tableChars_dotted (filled : name ≠ []) (solid : ∀ c ∈ name, isBlank c = false) :
    tableChars e (dotted d name) = dotted d name := by
  have letters := solid_dotted (d := d) solid
  have trimmed := trim_eq_self_of_solid letters
  by_cases kept : (dotted d name).any isExpressionMark
  · exact tableChars_of_any trimmed kept
  · -- Without a mark all parts are stars.
    have alone := words_eq_singleton letters (dotted_ne_nil filled)
    simp only [tableChars,trimmed,kept,alone]
    rcases dotted_eq_self_or_mark name with stars | quoted
    · rw [stars d]
      exact stars e
    · exact absurd (List.any_eq_true.mpr ⟨_,quoted d,isExpressionMark_quoteMark d⟩) kept

theorem tableChars_aliasedTable (filled : name ≠ []) (solid : ∀ c ∈ name, isBlank c = false) :
    tableChars e (aliasedTable d name label) = aliasedTable d name label := by
  have ends : (aliasedTable d name label).getLast? = some d.quoteMark := by
    rw [aliasedTable,List.getLast?_append,getLast?_quoteChars,Option.some_or]
  refine tableChars_of_any (trim_eq_self (fun c first => ?_) fun c last => ?_) ?_
  · refine solid_dotted (d := d) solid c (List.mem_of_head? ?_)
    rwa [aliasedTable,List.append_assoc,List.head?_append_of_ne_nil _ (dotted_ne_nil filled)] at first
  · rw [ends] at last
    exact Option.some_inj.mp last ▸ isBlank_quoteMark d
  · exact List.any_eq_true.mpr ⟨_,List.mem_of_getLast? ends,isExpressionMark_quoteMark d⟩

/-- A table reference is kept as it is, or it is blank, or its first word is quoted part by part. -/
theorem tableChars_cases (written : List Char) :
    (∀ d : Dialect, tableChars d written = trim written) ∨ (∀ d : Dialect, tableChars d written = []) ∨
      ∃ name ∈ words (trim written), (∀ d : Dialect, tableChars d written = dotted d name) ∨
        ∃ label, ∀ d : Dialect, tableChars d written = aliasedTable d name label := by
  by_cases kept : (trim written).any isExpressionMark
  · exact .inl fun d => if_pos kept
  · simp only [tableChars,kept]
    rcases words (trim written) with - | ⟨name,- | ⟨label,- | ⟨last,- | ⟨more,others⟩⟩⟩⟩
    · exact .inr (.inl fun d => rfl)
    · exact .inr (.inr ⟨name,List.mem_cons_self,.inl fun d => rfl⟩)
    · exact .inr (.inr ⟨name,List.mem_cons_self,.inr ⟨label,fun d => rfl⟩⟩)
    · by_cases aliased : sameKeyword label ['a','s']
      · exact .inr (.inr ⟨name,List.mem_cons_self,.inr ⟨last,fun d => by simp [aliased]⟩⟩)
      · exact .inl fun d => by simp [aliased]
    · exact .inl fun d => rfl

theorem tableChars_tableChars (written : List Char) :
    tableChars e (tableChars d written) = tableChars d written := by
  rcases tableChars_cases written with kept | blank | ⟨name,member,single | ⟨label,aliased⟩⟩
  · rw [kept d,tableChars_trim,kept e]
  · rw [blank d]
    rfl
  · obtain ⟨filled,solid⟩ := solid_of_mem_words member
    rw [single d,tableChars_dotted filled solid]
  · obtain ⟨filled,solid⟩ := solid_of_mem_words member
    rw [aliased d,tableChars_aliasedTable filled solid]

/-! ## ORDER BY entries -/

theorem orderChars?_trim (written : List Char) : orderChars? d (trim written) = orderChars? d written := by
  rw [orderChars?,trim_trim,← orderChars?]

theorem columnChars_word (filled : word ≠ []) (solid : ∀ c ∈ word, isBlank c = false) :
    columnChars d word ≠ [] ∧ ∀ c ∈ columnChars d word, isBlank c = false := by
  rcases columnChars_cases word with kept | ⟨-,-,quoted⟩
  · rw [kept d,trim_eq_self_of_solid solid]
    exact ⟨filled,solid⟩
  · rw [quoted d,trim_eq_self_of_solid solid]
    exact ⟨dotted_ne_nil filled,solid_dotted solid⟩

theorem direction?_eq_some {direction : List Char} (found : direction? word = some direction) :
    Directs direction direction ∧ Directs word direction := by
  have known {keyword : List Char} (known : keyword = "ASC".toList ∨ keyword = "DESC".toList)
      (same : sameKeyword word keyword) : Directs keyword keyword ∧ Directs word keyword :=
    ⟨directs_of_sameKeyword known BEq.rfl,directs_of_sameKeyword known same⟩
  rw [direction?] at found
  split at found
  next same => cases found; exact known (.inl rfl) same
  next =>
    split at found
    next same => cases found; exact known (.inr rfl) same
    next => cases found

/-- Behind a column stands nothing, or a direction. -/
theorem directionBehind_cases (rest : List (List Char)) : directionBehind rest = [] ∨
    ∃ direction, Directs direction direction ∧ directionBehind rest = ' ' :: direction := by
  cases rest with
  | nil => exact .inl rfl
  | cons next rest =>
    rw [directionBehind_cons]
    cases found : direction? next with
    | none => exact .inl rfl
    | some direction => exact .inr ⟨direction,(direction?_eq_some found).1,rfl⟩

theorem orderChars?_column (plain : '(' ∉ word) (filled : word ≠ [])
    (solid : ∀ c ∈ word, isBlank c = false) (rest : List (List Char)) :
    orderChars? e (columnChars d word ++ directionBehind rest) =
      some (columnChars d word ++ directionBehind rest) := by
  obtain ⟨filled,solid⟩ := columnChars_word (d := d) filled solid
  have bare : '(' ∉ columnChars d word := fun member =>
    (mem_columnChars member).elim plain (by decide)
  rcases directionBehind_cases rest with none | ⟨direction,directs,behind⟩
  · rw [none,List.append_nil]
    have alone := orderChars?_of_words (d := e) bare (words_eq_singleton solid filled)
    rwa [columnChars_columnChars,show directionBehind [] = [] from rfl,List.append_nil] at alone
  · have entry : '(' ∉ columnChars d word ++ ' ' :: direction := by
      simp [bare,directs.plain]
    have split : words (columnChars d word ++ ' ' :: direction) = [columnChars d word,direction] := by
      rw [words_append_cons solid filled (by decide),words_eq_singleton directs.solid directs.nonempty]
    rw [behind,orderChars?_of_words entry split,columnChars_columnChars,directionBehind_cons,
      directs.direction,Option.elim_some]

/-- Of an entry with a parenthesis only a final direction is looked at. -/
theorem orderChars?_of_paren (paren : '(' ∈ trim written) :
    (∀ d : Dialect, orderChars? d written = some (trim written)) ∨
    ∃ head tail direction, splitAtLastBlank? (trim written) = some (head,tail) ∧
      direction? tail = some direction ∧
      ∀ d : Dialect, orderChars? d written = some (trimEnd head ++ ' ' :: direction) := by
  have filled : ¬(trim written).isEmpty := by simpa using List.ne_nil_of_mem paren
  simp only [orderChars?,if_neg filled,List.contains_iff_mem,paren,if_true]
  cases split : splitAtLastBlank? (trim written) with
  | none => exact .inl fun d => rfl
  | some parts =>
    obtain ⟨head,tail⟩ := parts
    cases found : direction? tail with
    | none => exact .inl fun d => by simp only [found]
    | some direction => exact .inr ⟨head,tail,direction,rfl,found,fun d => by simp only [found]⟩

theorem orderChars?_orderChars? (found : orderChars? d written = some item) :
    orderChars? e item = some item := by
  by_cases paren : '(' ∈ trim written
  · rcases orderChars?_of_paren paren with kept | ⟨head,tail,direction,split,named,directed⟩
    · obtain rfl := Option.some_inj.mp ((kept d).symm.trans found)
      rw [orderChars?_trim,kept e]
    · obtain rfl := Option.some_inj.mp ((directed d).symm.trans found)
      obtain ⟨directs,word⟩ := direction?_eq_some named
      obtain ⟨b,blank,whole⟩ := splitAtLastBlank?_eq_some split
      -- The parenthesis stands before the last blank, for the direction has none.
      have inHead : '(' ∈ head := by
        rw [whole,List.mem_append,List.mem_cons] at paren
        rcases paren with inHead | rfl | inTail
        · exact inHead
        · exact absurd blank (by decide)
        · exact absurd inTail word.plain
      have inside : '(' ∈ trimEnd head := mem_trimEnd inHead (by decide)
      refine orderChars?_directed directs inside (fun c first => ?_) (trimEnd_trimEnd head)
      obtain ⟨rest,same⟩ : trimEnd head <+: head := List.rdropWhile_prefix isBlank _
      have begins : (trim written).head? = some c := by
        rw [whole,← same,List.append_assoc,List.head?_append_of_ne_nil _ (List.ne_nil_of_mem inside)]
        exact first
      exact isBlank_of_head?_trim begins
  · cases split : words written with
    | nil =>
      rw [← trim_eq_nil_iff] at split
      simp only [orderChars?,split] at found
      cases found
    | cons first rest =>
      rw [← words_trim] at split
      have member : first ∈ words (trim written) := split ▸ List.mem_cons_self
      obtain ⟨filled,solid⟩ := solid_of_mem_words member
      have plain : '(' ∉ first := fun inside => paren (mem_of_mem_words member inside)
      rw [← orderChars?_trim,orderChars?_of_words paren split] at found
      obtain rfl := Option.some_inj.mp found
      exact orderChars?_column plain filled solid rest

/-- What a renderer has written stays as it is when it is rendered again, for whichever dialect: nothing
is quoted, split or put in another order a second time. -/
theorem rendered_names_settled (d e : Dialect) (s : String) :
    column e (column d s) = column d s ∧ table e (table d s) = table d s ∧
      ∀ item, orderItem? d s = some item → orderItem? e item = some item := by
  refine ⟨?_,?_,fun item found => ?_⟩
  · rw [column,column,String.toList_ofList,columnChars_columnChars]
  · rw [table,table,String.toList_ofList,tableChars_tableChars]
  · rw [orderItem?_eq_some_iff] at found ⊢
    exact orderChars?_orderChars? found

theorem rendered_names_settled_directed :
    orderItem? .postgres "lower(name)  desc" = some "lower(name) DESC" ∧
      orderItem? .mysql "lower(name) DESC" = some "lower(name) DESC" := by
  have first : orderItem? .postgres "lower(name)  desc" = some "lower(name) DESC" := by decide
  obtain ⟨-,-,again⟩ := rendered_names_settled .postgres .mysql "lower(name)  desc"
  exact ⟨first,again _ first⟩

end Identifier

end ParamSql
