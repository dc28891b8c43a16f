import ParamSql.Proofs.Identifier
import Mathlib.Data.List.TakeDrop
import Mathlib.Data.List.TakeWhile

/-! Trimmed texts, their words and pieces, keywords, and ORDER BY entries by their words. An entry
without a parenthesis is the column that its first word names, with the direction that its second word
names. -/
namespace ParamSql.Text

variable {c : Char} {cs head tail word keyword : List Char}

theorem dropWhile_eq_self {p : Char → Bool} (first : ∀ c ∈ cs.head?, p c = false) :
    cs.dropWhile p = cs := by
  cases cs with
  | nil => rfl
  | cons c cs => rw [List.dropWhile_cons_of_neg (by simp [first c rfl])]

theorem cut_append {p : Char → Bool} (inside : ∀ c ∈ head, p c)
    (ends : ∀ c ∈ tail.head?, p c = false) :
    (head ++ tail).takeWhile p = head ∧ (head ++ tail).dropWhile p = tail := by
  have stop : tail.takeWhile p = [] := by
    cases tail with
    | nil => rfl
    | cons c tail => rw [List.takeWhile_cons_of_neg (by simp [ends c rfl])]
  rw [List.takeWhile_append_of_pos inside,List.dropWhile_append_of_pos inside,stop,
    dropWhile_eq_self ends]
  exact ⟨List.append_nil head,rfl⟩

/-! ## Trimming -/

theorem trimEnd_eq_self (last : ∀ c ∈ cs.getLast?, isBlank c = false) : trimEnd cs = cs := by
  rw [trimEnd,dropWhile_eq_self,List.reverse_reverse]
  rwa [List.head?_reverse]

theorem trim_eq_self (first : ∀ c ∈ cs.head?, isBlank c = false)
    (last : ∀ c ∈ cs.getLast?, isBlank c = false) : trim cs = cs := by
  rw [trim,trimStart,dropWhile_eq_self first,trimEnd_eq_self last]

theorem trim_eq_self_of_solid (solid : ∀ c ∈ cs, isBlank c = false) : trim cs = cs :=
  trim_eq_self (fun c first => solid c (List.mem_of_head? first))
    fun c last => solid c (List.mem_of_getLast? last)

/-! ## Words -/

theorem wordsFrom_append (solid : ∀ c ∈ head, isBlank c = false) (opened tail : List Char) :
    wordsFrom opened (head ++ tail) = wordsFrom (head.reverse ++ opened) tail := by
  induction head generalizing opened with
  | nil => rfl
  | cons c head ih =>
    rw [List.forall_mem_cons] at solid
    rw [List.cons_append,wordsFrom,if_neg (by simp [solid.1]),ih solid.2,List.reverse_cons,
      List.append_assoc]
    rfl

theorem words_eq_singleton (solid : ∀ c ∈ word, isBlank c = false) (some : word ≠ []) :
    words word = [word] := by
  have closed := wordsFrom_append solid [] []
  rw [List.append_nil,List.append_nil,wordsFrom,List.isEmpty_reverse] at closed
  rw [words,closed,if_neg (by simpa using some),List.reverse_reverse]

theorem words_append_cons (solid : ∀ c ∈ word, isBlank c = false) (some : word ≠ [])
    (blank : isBlank c) (cs : List Char) : words (word ++ c :: cs) = word :: words cs := by
  rw [words,wordsFrom_append solid,List.append_nil,wordsFrom,if_pos blank,List.isEmpty_reverse,
    if_neg (by simpa using some),List.reverse_reverse]
  rfl

/-- A text that begins with a word. -/
theorem words_eq_cons (first : cs.head? = some c) (solid : isBlank c = false) :
    words cs = cs.takeWhile (!isBlank ·) :: words (cs.dropWhile (!isBlank ·)) := by
  have whole := List.takeWhile_append_dropWhile (p := (!isBlank ·)) (l := cs)
  have some : cs.takeWhile (!isBlank ·) ≠ [] := by
    obtain ⟨rest,rfl⟩ := List.head?_eq_some_iff.mp first
    simp [solid]
  have letters : ∀ c ∈ cs.takeWhile (!isBlank ·), isBlank c = false := by
    intro c member
    simpa using List.mem_takeWhile_imp member
  cases behind : cs.dropWhile (!isBlank ·) with
  | nil =>
    rw [behind,List.append_nil] at whole
    rw [whole] at some letters ⊢
    exact words_eq_singleton letters some
  | cons b rest =>
    have blank : isBlank b := by
      have stop := List.head?_dropWhile_not (!isBlank ·) cs
      rw [behind] at stop
      simpa using stop
    rw [behind] at whole
    conv_lhs => rw [← whole]
    rw [words_append_cons letters some blank]
    rw [words,words,wordsFrom,if_pos blank]
    rfl

theorem wordsFrom_append_blank (blank : ∀ c ∈ tail, isBlank c) (opened cs : List Char) :
    wordsFrom opened (cs ++ tail) = wordsFrom opened cs := by
  induction cs generalizing opened with
  | nil =>
    induction tail generalizing opened with
    | nil => rfl
    | cons c tail ih =>
      rw [List.forall_mem_cons] at blank
      have rest : wordsFrom [] tail = wordsFrom [] [] := ih blank.2 []
      have closed : wordsFrom opened (c :: tail) =
          if opened.isEmpty then wordsFrom [] tail else opened.reverse :: wordsFrom [] tail := by
        rw [wordsFrom,if_pos blank.1]
      rw [List.nil_append,closed,rest]
      rfl
  | cons c cs ih => simp only [List.cons_append,wordsFrom,ih]

theorem wordsFrom_dropWhile (cs : List Char) : wordsFrom [] (cs.dropWhile isBlank) = wordsFrom [] cs := by
  induction cs with
  | nil => rfl
  | cons c cs ih =>
    by_cases blank : isBlank c
    · rw [List.dropWhile_cons_of_pos blank,ih,wordsFrom,if_pos blank]; rfl
    · rw [List.dropWhile_cons_of_neg blank]

/-- Trimming removes no word. -/
theorem words_trim (cs : List Char) : words (trim cs) = words cs := by
  have removed : ∀ c ∈ ((trimStart cs).reverse.takeWhile isBlank).reverse, isBlank c := by
    intro c member
    rw [List.mem_reverse] at member
    exact List.mem_takeWhile_imp member
  have whole : trim cs ++ ((trimStart cs).reverse.takeWhile isBlank).reverse = trimStart cs := by
    rw [trim,trimEnd,← List.reverse_append,List.takeWhile_append_dropWhile,List.reverse_reverse]
  rw [words,← wordsFrom_append_blank removed [] (trim cs),whole,trimStart,wordsFrom_dropWhile,words]

theorem solid_of_mem_wordsFrom {opened : List Char} (solid : ∀ c ∈ opened, isBlank c = false)
    (member : word ∈ wordsFrom opened cs) : word ≠ [] ∧ ∀ c ∈ word, isBlank c = false := by
  induction cs generalizing opened with
  | nil =>
    rw [wordsFrom] at member
    split at member
    next => cases member
    next some =>
      rw [List.mem_singleton.mp member]
      exact ⟨by simpa using some,by simpa using solid⟩
  | cons c cs ih =>
    rw [wordsFrom] at member
    split at member
    next =>
      split at member
      next => exact ih (List.forall_mem_nil _) member
      next some =>
        rcases List.mem_cons.mp member with rfl | later
        · exact ⟨by simpa using some,by simpa using solid⟩
        · exact ih (List.forall_mem_nil _) later
    next other =>
      refine ih ?_ member
      exact List.forall_mem_cons.mpr ⟨by simpa using other,solid⟩

theorem solid_of_mem_words (member : word ∈ words cs) :
    word ≠ [] ∧ ∀ c ∈ word, isBlank c = false :=
  solid_of_mem_wordsFrom (List.forall_mem_nil _) member

theorem wordsFrom_ne_nil {opened : List Char} (some : opened ≠ []) (cs : List Char) :
    wordsFrom opened cs ≠ [] := by
  induction cs generalizing opened with
  | nil => simp [wordsFrom,some]
  | cons c cs ih =>
    rw [wordsFrom]
    split
    · simp [some]
    · exact ih (List.cons_ne_nil _ _)

theorem words_eq_nil_iff : words cs = [] ↔ cs.all isBlank := by
  induction cs with
  | nil => exact iff_of_true rfl rfl
  | cons c cs ih =>
    rw [words,wordsFrom,List.all_cons]
    by_cases blank : isBlank c
    · rw [if_pos blank,blank,Bool.true_and]
      exact ih
    · rw [if_neg blank]
      exact iff_of_false (wordsFrom_ne_nil (List.cons_ne_nil _ _) cs) (by simp [blank])

theorem trim_eq_nil_iff : trim cs = [] ↔ words cs = [] := by
  constructor
  · intro empty
    rw [← words_trim,empty]
    rfl
  · intro none
    have blank := List.all_eq_true.mp (words_eq_nil_iff.mp none)
    rw [trim,trimStart,List.dropWhile_eq_nil_iff.mpr blank]
    rfl

/-! ## Pieces -/

theorem splitOnChar_eq_splitOn (separator : Char) (cs : List Char) :
    splitOnChar separator cs = cs.splitOn separator := by
  induction cs with
  | nil => rfl
  | cons c cs ih =>
    rw [splitOnChar,List.splitOn_cons_eq_if_modifyHead,ih]
    by_cases found : c = separator
    · simp [found]
    · cases behind : cs.splitOn separator with
      | nil => exact absurd behind (List.splitOn_ne_nil _ _)
      | cons piece pieces => simp [found]

/-! ## Keywords -/

theorem toLower_of_isBlank (blank : isBlank c) : c.toLower = c := by
  have small : ¬(65 ≤ c.val ∧ c.val ≤ 90) := by
    rintro ⟨low,high⟩
    have low : 65 ≤ c.toNat := low
    have high : c.toNat ≤ 90 := high
    simp only [isBlank,Bool.or_eq_true,Bool.and_eq_true,decide_eq_true_eq,List.contains_iff_mem,
      List.mem_cons,List.not_mem_nil,or_false] at blank
    omega
  exact dif_neg small

theorem not_mem_of_sameKeyword (same : sameKeyword word keyword) (fixed : c.toLower = c)
    (absent : c ∉ keyword.map Char.toLower) : c ∉ word := by
  intro member
  rw [sameKeyword,beq_iff_eq] at same
  have found := List.mem_map_of_mem member (f := Char.toLower)
  rw [same,fixed] at found
  exact absent found

/-! ## The last blank -/

theorem splitAtLastBlank?_append (solid : ∀ c ∈ tail, isBlank c = false) (blank : isBlank c)
    (head : List Char) : splitAtLastBlank? (head ++ c :: tail) = some (head,tail) := by
  have ends : ∀ b ∈ (c :: head.reverse).head?, (!isBlank b) = false := by
    rintro b ⟨⟩
    simp [blank]
  have letters : ∀ b ∈ tail.reverse, !isBlank b := by simpa using solid
  obtain ⟨taken,dropped⟩ := cut_append letters ends
  have backwards : (head ++ c :: tail).reverse = tail.reverse ++ c :: head.reverse := by simp
  rw [splitAtLastBlank?,backwards,List.span_eq_takeWhile_dropWhile,taken,dropped]
  simp

theorem mem_of_splitAtLastBlank?_eq_some (last : cs.getLast? = some c) (solid : isBlank c = false)
    (split : splitAtLastBlank? cs = some (head,tail)) : c ∈ tail := by
  rw [← List.head?_reverse] at last
  obtain ⟨rest,shape⟩ := List.head?_eq_some_iff.mp last
  rw [splitAtLastBlank?,shape,List.span_eq_takeWhile_dropWhile,
    List.takeWhile_cons_of_pos (by simp [solid])] at split
  split at split
  next => cases split
  next found =>
    obtain ⟨rfl,-⟩ := Prod.mk.inj found
    cases split
    simp

end ParamSql.Text

namespace ParamSql.Identifier
open Text

/-- The direction that the words behind a column give it. -/
def directionBehind : List (List Char) → List Char
  | [] => []
  | next :: _ =>
    if sameKeyword next "ASC".toList then " ASC".toList
    else if sameKeyword next "DESC".toList then " DESC".toList else []

theorem directionBehind_cons (next : List Char) (rest : List (List Char)) :
    directionBehind (next :: rest) = (direction? next).elim [] (' ' :: ·) := by
  rw [directionBehind,direction?]
  split
  · rfl
  · split <;> rfl

theorem orderChars?_of_words {d : Dialect} {written first : List Char} {rest : List (List Char)}
    (plain : '(' ∉ written) (split : words written = first :: rest) :
    orderChars? d written = some (columnChars d first ++ directionBehind rest) := by
  have bare : ¬(trim written).contains '(' := by
    rw [List.contains_iff_mem]
    exact fun member => plain (mem_of_mem_trim member)
  have filled : ¬(trim written).isEmpty := by
    rw [List.isEmpty_iff,trim_eq_nil_iff,split]
    exact List.cons_ne_nil _ _
  rw [← words_trim] at split
  simp only [orderChars?,if_neg filled,if_neg bare,split]
  cases rest with
  | nil => simp [directionBehind]
  | cons next rest =>
    simp only [directionBehind_cons]
    cases direction? next <;> simp

theorem orderItem?_eq_some_iff {d : Dialect} {entry item : String} :
    orderItem? d entry = some item ↔ orderChars? d entry.toList = some item.toList := by
  rw [orderItem?,Option.map_eq_some_iff]
  constructor
  · rintro ⟨chars,written,rfl⟩
    rw [written,String.toList_ofList]
  · intro written
    exact ⟨_,written,String.ofList_toList⟩

end ParamSql.Identifier
