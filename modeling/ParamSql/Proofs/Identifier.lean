import ParamSql.Identifier
import Mathlib.Data.List.TakeDrop

/-! The characters of written identifiers. A renderer adds quote marks, dots and the letters of a few
keywords; every other character comes from the caller. -/
namespace ParamSql

namespace Text

theorem mem_of_mem_trim {c : Char} {cs : List Char} (member : c ∈ trim cs) : c ∈ cs := by
  rw [trim,trimEnd,List.mem_reverse] at member
  have inner := List.mem_reverse.mp ((List.dropWhile_suffix isBlank).subset member)
  exact (List.dropWhile_suffix isBlank).subset inner

theorem mem_of_mem_splitOnChar {separator c : Char} {cs part : List Char}
    (found : part ∈ splitOnChar separator cs) (member : c ∈ part) : c ∈ cs := by
  induction cs generalizing part with
  | nil => simp [splitOnChar] at found; simp [found] at member
  | cons first cs ih =>
    rw [splitOnChar] at found
    split at found
    · rcases List.mem_cons.mp found with rfl | found
      · simp at member
      · exact List.mem_cons_of_mem _ (ih found member)
    · split at found
      next => simp_all
      next part' parts split =>
        rcases List.mem_cons.mp found with rfl | found
        · rcases List.mem_cons.mp member with rfl | member
          · exact List.mem_cons_self
          · exact List.mem_cons_of_mem _ (ih (by rw [split]; exact List.mem_cons_self) member)
        · exact List.mem_cons_of_mem _ (ih (by rw [split]; exact List.mem_cons_of_mem _ found) member)

theorem mem_of_mem_wordsFrom {c : Char} {open' cs word : List Char}
    (found : word ∈ wordsFrom open' cs) (member : c ∈ word) : c ∈ open' ∨ c ∈ cs := by
  induction cs generalizing open' with
  | nil =>
    rw [wordsFrom] at found
    split at found
    · simp at found
    · simp_all
  | cons first cs ih =>
    rw [wordsFrom] at found
    split at found
    · split at found
      · exact .inr (List.mem_cons_of_mem _ ((ih found).resolve_left (by simp)))
      · rcases List.mem_cons.mp found with rfl | found
        · exact .inl (List.mem_reverse.mp member)
        · exact .inr (List.mem_cons_of_mem _ ((ih found).resolve_left (by simp)))
    · rcases ih found with h | h
      · rcases List.mem_cons.mp h with rfl | h
        · exact .inr List.mem_cons_self
        · exact .inl h
      · exact .inr (List.mem_cons_of_mem _ h)

theorem mem_of_mem_words {c : Char} {cs word : List Char} (found : word ∈ words cs)
    (member : c ∈ word) : c ∈ cs :=
  (mem_of_mem_wordsFrom found member).resolve_left (by simp)

theorem mem_of_splitAtLastBlank {c : Char} {cs head tail : List Char}
    (split : splitAtLastBlank? cs = some (head,tail)) (member : c ∈ head) : c ∈ cs := by
  rw [splitAtLastBlank?,List.span_eq_takeWhile_dropWhile] at split
  split at split
  next => cases split
  next word blank rest found =>
    obtain ⟨rfl,-⟩ := Prod.mk.inj (Option.some.inj split)
    have rest := (Prod.mk.inj found).2
    have inside : c ∈ List.dropWhile (!isBlank ·) cs.reverse := by
      rw [rest]; exact List.mem_cons_of_mem _ (List.mem_reverse.mp member)
    exact List.mem_reverse.mp ((List.dropWhile_suffix _).subset inside)

theorem mem_intercalate {c : Char} {separator : List Char} {parts : List (List Char)}
    (member : c ∈ separator.intercalate parts) : c ∈ separator ∨ ∃ part ∈ parts, c ∈ part := by
  induction parts with
  | nil => simp at member
  | cons part parts ih =>
    cases parts with
    | nil => exact .inr ⟨part,List.mem_cons_self,by simpa using member⟩
    | cons next parts =>
      rw [List.intercalate_cons_cons,List.mem_append,List.mem_append] at member
      rcases member with (member | member) | member
      · exact .inr ⟨part,List.mem_cons_self,member⟩
      · exact .inl member
      · exact (ih member).imp_right fun ⟨p,found,inside⟩ => ⟨p,List.mem_cons_of_mem _ found,inside⟩

end Text

namespace Identifier
open Text

/-- What the renderers of identifiers add. -/
def additions : List Char := ['\x22','\x60','.',' ','A','S','D','E','C']

theorem mem_quoteChars {d : Dialect} {c : Char} {name : List Char} (member : c ∈ d.quoteChars name) :
    c ∈ name ∨ c ∈ additions := by
  have mark : d.quoteMark ∈ additions := by cases d <;> decide
  simp only [Dialect.quoteChars,List.cons_append,List.mem_cons,List.mem_append,List.mem_flatMap,
    List.not_mem_nil,or_false] at member
  rcases member with rfl | ⟨x,inside,member⟩ | rfl
  · exact .inr mark
  · split at member <;> simp_all
  · exact .inr mark

theorem mem_dotted {d : Dialect} {c : Char} {name : List Char} (member : c ∈ dotted d name) :
    c ∈ name ∨ c ∈ additions := by
  rcases mem_intercalate member with dot | ⟨part,found,inside⟩
  · rw [List.mem_singleton.mp dot]; exact .inr (by decide)
  · obtain ⟨part,split,rfl⟩ := List.mem_map.mp found
    split at inside
    · exact .inl (mem_of_mem_splitOnChar split inside)
    · exact (mem_quoteChars inside).imp_left (mem_of_mem_splitOnChar split)

theorem mem_columnChars {d : Dialect} {c : Char} {written : List Char}
    (member : c ∈ columnChars d written) : c ∈ written ∨ c ∈ additions := by
  rw [columnChars] at member
  split at member
  · exact .inl (mem_of_mem_trim member)
  · split at member
    · simp at member
    · exact (mem_dotted member).imp_left mem_of_mem_trim

theorem mem_aliasedTable {d : Dialect} {c : Char} {name label : List Char}
    (member : c ∈ aliasedTable d name label) : c ∈ name ∨ c ∈ label ∨ c ∈ additions := by
  rcases List.mem_append.mp member with member | member
  · rcases List.mem_append.mp member with member | member
    · exact (mem_dotted member).imp_right .inr
    · have letters : " AS ".toList ⊆ additions := by decide
      exact .inr (.inr (letters member))
  · exact .inr (mem_quoteChars member)

theorem mem_tableChars {d : Dialect} {c : Char} {written : List Char}
    (member : c ∈ tableChars d written) : c ∈ written ∨ c ∈ additions := by
  have word {w : List Char} (found : w ∈ words (trim written)) (inside : c ∈ w) : c ∈ written :=
    mem_of_mem_trim (mem_of_mem_words found inside)
  have aliased {name label : List Char} (first : name ∈ words (trim written))
      (second : label ∈ words (trim written)) (member : c ∈ aliasedTable d name label) :
      c ∈ written ∨ c ∈ additions := by
    rcases mem_aliasedTable member with h | h | h
    · exact .inl (word first h)
    · exact .inl (word second h)
    · exact .inr h
  simp only [tableChars] at member
  split at member
  · exact .inl (mem_of_mem_trim member)
  · split at member
    next => simp at member
    next name split => exact (mem_dotted member).imp_left (word (by simp [split]))
    next name label split => exact aliased (by simp [split]) (by simp [split]) member
    next name keyword label split =>
      split at member
      · exact aliased (by simp [split]) (by simp [split]) member
      · exact .inl (mem_of_mem_trim member)
    next => exact .inl (mem_of_mem_trim member)

theorem mem_direction {c : Char} {word direction : List Char}
    (found : direction? word = some direction) (member : c ∈ direction) : c ∈ additions := by
  have letters : "ASC".toList ++ "DESC".toList ⊆ additions := by decide
  rw [direction?] at found
  split at found
  · cases found; exact letters (List.mem_append_left _ member)
  · split at found
    · cases found; exact letters (List.mem_append_right _ member)
    · cases found

theorem mem_orderChars {d : Dialect} {c : Char} {written item : List Char}
    (found : orderChars? d written = some item) (member : c ∈ item) :
    c ∈ written ∨ c ∈ additions := by
  have directed {head tail direction : List Char} (found : direction? tail = some direction)
      (inside : ∀ c ∈ head, c ∈ written ∨ c ∈ additions) (member : c ∈ head ++ ' ' :: direction) :
      c ∈ written ∨ c ∈ additions := by
    rcases List.mem_append.mp member with member | member
    · exact inside c member
    · rcases List.mem_cons.mp member with rfl | member
      · exact .inr (by decide)
      · exact .inr (mem_direction found member)
  have column {w : List Char} (word : w ∈ words (trim written)) :
      ∀ c ∈ columnChars d w, c ∈ written ∨ c ∈ additions := fun c member =>
    (mem_columnChars member).imp_left fun inside => mem_of_mem_trim (mem_of_mem_words word inside)
  simp only [orderChars?] at found
  split at found
  · cases found
  · split at found
    · split at found
      next head tail split =>
        split at found
        next direction upper =>
          cases found
          refine directed upper (fun c inside => .inl ?_) member
          have inHead := List.mem_reverse.mp ((List.dropWhile_suffix _).subset (List.mem_reverse.mp inside))
          exact mem_of_mem_trim (mem_of_splitAtLastBlank split inHead)
        next => cases found; exact .inl (mem_of_mem_trim member)
      next => cases found; exact .inl (mem_of_mem_trim member)
    · split at found
      next => cases found
      next w split => cases found; exact column (by simp [split]) c member
      next w next rest split =>
        split at found
        next direction upper => cases found; exact directed upper (column (by simp [split])) member
        next => cases found; exact column (by simp [split]) c member

/-! Of the strings, in the same order. -/

theorem mem_column {d : Dialect} {c : Char} {written : String}
    (member : c ∈ (column d written).toList) : c ∈ written.toList ∨ c ∈ additions :=
  mem_columnChars (by simpa [column] using member)

theorem mem_table {d : Dialect} {c : Char} {written : String}
    (member : c ∈ (table d written).toList) : c ∈ written.toList ∨ c ∈ additions :=
  mem_tableChars (by simpa [table] using member)

theorem mem_orderItem {d : Dialect} {c : Char} {written item : String}
    (found : orderItem? d written = some item) (member : c ∈ item.toList) :
    c ∈ written.toList ∨ c ∈ additions := by
  obtain ⟨chars,written,rfl⟩ := Option.map_eq_some_iff.mp found
  exact mem_orderChars written (by simpa using member)

theorem mem_quote {d : Dialect} {c : Char} {name : String}
    (member : c ∈ (d.quote name).toList) : c ∈ name.toList ∨ c ∈ additions :=
  mem_quoteChars (by simpa [Dialect.quote] using member)

end Identifier

end ParamSql
