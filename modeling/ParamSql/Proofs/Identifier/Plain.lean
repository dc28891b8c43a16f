import ParamSql.Proofs.Identifier.Words
import ParamSql.Proofs.Quoted

/-! Plain names: texts without a parenthesis and without a quote mark. Whatever else they contain, a
renderer writes a star or a quoted identifier for each part between their dots, besides its own
keywords. -/
namespace ParamSql.Identifier
open Text

/-! ## Dotted names -/

/-- One part of a dotted name as it is written. -/
inductive Item (d : Dialect) : (part text : List Char) → Prop where
  | star : Item d ['*'] ['*']
  | quoted {part text : List Char} (other : part ≠ ['*']) (read : d.readQuoted? text = some (part,[])) :
      Item d part text

inductive Dotted (d : Dialect) : (parts : List (List Char)) → (text : List Char) → Prop where
  | last {part text : List Char} (item : Item d part text) : Dotted d [part] text
  | more {part text rest : List Char} {parts : List (List Char)} (item : Item d part text)
      (behind : Dotted d parts rest) : Dotted d (part :: parts) (text ++ '.' :: rest)

/-- The text is a dotted name, and it reads as the parts of this one only. -/
def Spells (d : Dialect) (name text : List Char) : Prop :=
  Dotted d (name.splitOn '.') text ∧ ∀ parts, Dotted d parts text → parts = name.splitOn '.'

def readItem? (d : Dialect) (text : List Char) : Option (List Char × List Char) :=
  if text.head? = some '*' then some (['*'],text.tail) else d.readQuoted? text

variable {d : Dialect} {part text rest name : List Char} {parts : List (List Char)}

namespace Item

theorem written (d : Dialect) (part : List Char) :
    Item d part (if part = ['*'] then part else d.quoteChars part) := by
  split
  next star => subst star; exact .star
  next other =>
    refine .quoted other (Dialect.readQuoted?_eq_some_iff.mpr ⟨?_,nofun⟩)
    exact (List.append_nil _).symm

theorem read (item : Item d part text) (ends : rest.head? ≠ some d.quoteMark) :
    readItem? d (text ++ rest) = some (part,rest) := by
  cases item with
  | star => rfl
  | quoted other read =>
    obtain ⟨shape,-⟩ := Dialect.readQuoted?_eq_some_iff.mp read
    rw [List.append_nil] at shape
    have first : (text ++ rest).head? ≠ some '*' := by
      rw [shape]
      intro star
      cases d <;> cases star
    rw [readItem?,if_neg first,shape,Dialect.readQuoted?_append part ends]

end Item

namespace Dotted

theorem nonempty (dotted : Dotted d parts text) : parts ≠ [] := by
  cases dotted <;> exact List.cons_ne_nil _ _

theorem read (dotted : Dotted d parts text) : ∃ part behind tail, parts = part :: behind ∧
    readItem? d text = some (part,tail) ∧
    (behind = [] ∧ tail = [] ∨ ∃ rest, tail = '.' :: rest ∧ Dotted d behind rest) := by
  cases dotted with
  | @last part _ item =>
    have ends : ([] : List Char).head? ≠ some d.quoteMark := nofun
    have read := item.read ends
    rw [List.append_nil] at read
    exact ⟨part,[],[],rfl,read,.inl ⟨rfl,rfl⟩⟩
  | @more part _ rest parts item behind =>
    have dot : ('.' :: rest).head? ≠ some d.quoteMark := by cases d <;> nofun
    exact ⟨part,parts,'.' :: rest,rfl,item.read dot,.inr ⟨rest,rfl,behind⟩⟩

theorem unique {others : List (List Char)} (dotted : Dotted d parts text)
    (other : Dotted d others text) : others = parts := by
  induction parts generalizing text others with
  | nil => exact absurd rfl dotted.nonempty
  | cons part parts ih =>
    obtain ⟨_,_,tail,same,first,ends⟩ := dotted.read
    cases same
    obtain ⟨again,behind,_,rfl,second,others⟩ := other.read
    cases first.symm.trans second
    rcases ends with ⟨rfl,rfl⟩ | ⟨rest,rfl,dotted⟩
    · rcases others with ⟨rfl,-⟩ | ⟨_,dot,-⟩
      · rfl
      · cases dot
    · rcases others with ⟨-,dot⟩ | ⟨_,dot,other⟩
      · cases dot
      · cases dot
        rw [ih dotted other]

theorem of_parts (some : parts ≠ []) : Dotted d parts
    (['.'].intercalate (parts.map fun part => if part = ['*'] then part else d.quoteChars part)) := by
  induction parts with
  | nil => exact absurd rfl some
  | cons part parts ih =>
    cases parts with
    | nil => simpa using Dotted.last (Item.written d part)
    | cons next parts =>
      rw [List.map_cons,List.map_cons,List.intercalate_cons_cons,List.append_assoc]
      exact .more (Item.written d part) (ih (List.cons_ne_nil _ _))

end Dotted

theorem spells_dotted (d : Dialect) (name : List Char) : Spells d name (dotted d name) := by
  have parts : Dotted d (name.splitOn '.') (dotted d name) := by
    rw [dotted,splitOnChar_eq_splitOn]
    exact Dotted.of_parts (List.splitOn_ne_nil _ _)
  exact ⟨parts,fun _ other => parts.unique other⟩

/-! ## Plain names in every place -/

section
variable {written : List Char} (plain : ∀ c ∈ written, isExpressionMark c = false)
include plain

theorem plain_trim : ∀ c ∈ trim written, isExpressionMark c = false :=
  fun c member => plain c (mem_of_mem_trim member)

theorem columnChars_of_solid (solid : ∀ c ∈ trim written, isBlank c = false)
    (filled : trim written ≠ []) : columnChars d written = dotted d (trim written) := by
  have unmarked := plain_trim plain
  rw [columnChars]
  by_cases star : trim written = ['*']
  · simp only [star,decide_true,Bool.true_or,if_true]
    rfl
  · have quoted : ¬(decide (trim written = ['*']) ||
        (trim written).any fun c => isExpressionMark c || isBlank c) := by
      simp only [star,decide_false,Bool.false_or,List.any_eq_true,not_exists,not_and]
      intro c member
      simp [unmarked c member,solid c member]
    rw [if_neg quoted,if_neg (by simpa using filled)]

theorem columnChars_of_mem_words {word : List Char} (member : word ∈ words written) :
    columnChars d word = dotted d word := by
  obtain ⟨filled,solid⟩ := solid_of_mem_words member
  have letters : ∀ c ∈ word, isExpressionMark c = false :=
    fun c inside => plain c (mem_of_mem_words member inside)
  have trimmed := trim_eq_self_of_solid solid
  have column := columnChars_of_solid (d := d) letters (trimmed.symm ▸ solid) (trimmed.symm ▸ filled)
  rwa [trimmed] at column

theorem paren_not_mem : '(' ∉ written := fun member => absurd (plain _ member) (by decide)

theorem orderChars?_eq_none_iff : orderChars? d written = none ↔ words written = [] := by
  constructor
  · intro none
    cases split : words written with
    | nil => rfl
    | cons first rest =>
      rw [orderChars?_of_words (paren_not_mem plain) split] at none
      cases none
  · intro split
    have bare : ¬(trim written).contains '(' := by
      rw [List.contains_iff_mem]
      exact paren_not_mem (plain_trim plain)
    rw [← words_trim] at split
    simp only [orderChars?,if_neg bare,split,ite_self]

theorem tableChars_eq : tableChars d written = match words written with
    | [] => []
    | [name] => dotted d name
    | [name,label] => aliasedTable d name label
    | [name,keyword,label] =>
      if sameKeyword keyword "AS".toList then aliasedTable d name label else trim written
    | _ => trim written := by
  have bare : ¬(trim written).any isExpressionMark := by
    rw [List.any_eq_true]
    rintro ⟨c,member,mark⟩
    rw [plain_trim plain c member] at mark
    cases mark
  rw [tableChars,if_neg bare,words_trim]
  rfl

end

/-- A plain text never reaches a statement as it is. Its words are quoted part by part, and the
renderers add their own keywords only. -/
theorem plain_names_contained (d : Dialect) (s : String)
    (plain : '(' ∉ s.toList ∧ '\x22' ∉ s.toList ∧ '\x60' ∉ s.toList) :
    (¬(trim s.toList).any isBlank →
      if isBlankText s then column d s = "" else Spells d (trim s.toList) (column d s).toList) ∧
    (orderItem? d s = none ↔ isBlankText s) ∧
    (∀ first rest, words s.toList = first :: rest →
      orderItem? d s = some (column d (String.ofList first) ++ String.ofList (directionBehind rest)) ∧
        Spells d first (column d (String.ofList first)).toList) ∧
    (∀ name, words s.toList = [name] → Spells d name (table d s).toList) ∧
    (∀ name keyword label, words s.toList = [name,label] ∨
        words s.toList = [name,keyword,label] ∧ sameKeyword keyword "AS".toList →
      ∃ text, table d s = text ++ " AS " ++ d.quote (String.ofList label) ∧
        Spells d name text.toList) := by
  have unmarked : ∀ c ∈ s.toList, isExpressionMark c = false := by
    intro c member
    have other (mark : Char) (absent : mark ∉ s.toList) : c ≠ mark := by
      rintro rfl
      exact absent member
    simp [isExpressionMark,other _ plain.1,other _ plain.2.1,other _ plain.2.2]
  have blank_iff : isBlankText s ↔ words s.toList = [] := words_eq_nil_iff.symm
  refine ⟨?column,?none,?entry,?table,?aliased⟩
  case column =>
    intro unbroken
    have solid : ∀ c ∈ trim s.toList, isBlank c = false := by simpa using unbroken
    split
    next blank =>
      have empty := trim_eq_nil_iff.mpr (blank_iff.mp blank)
      simp only [column,columnChars,empty]
      rfl
    next filled =>
      have some : trim s.toList ≠ [] :=
        fun empty => filled (blank_iff.mpr (trim_eq_nil_iff.mp empty))
      rw [column,String.toList_ofList,columnChars_of_solid unmarked solid some]
      exact spells_dotted d _
  case none =>
    rw [blank_iff,← orderChars?_eq_none_iff (d := d) unmarked,orderItem?,Option.map_eq_none_iff]
  case entry =>
    intro first rest split
    have member : first ∈ words s.toList := split ▸ List.mem_cons_self
    have written : column d (String.ofList first) = String.ofList (dotted d first) := by
      rw [column,String.toList_ofList,columnChars_of_mem_words unmarked member]
    constructor
    · rw [orderItem?_eq_some_iff,orderChars?_of_words (paren_not_mem unmarked) split,
        columnChars_of_mem_words unmarked member,written,← String.ofList_append,String.toList_ofList]
    · rw [written,String.toList_ofList]
      exact spells_dotted d first
  case table =>
    intro name split
    rw [table,String.toList_ofList,tableChars_eq unmarked,split]
    exact spells_dotted d name
  case aliased =>
    intro name keyword label split
    refine ⟨String.ofList (dotted d name),?_,?_⟩
    · have chars : tableChars d s.toList = aliasedTable d name label := by
        rw [tableChars_eq unmarked]
        rcases split with split | ⟨split,same⟩
        · rw [split]
        · simp only [split,if_pos same]
      rw [table,chars,aliasedTable,String.ofList_append,String.ofList_append,Dialect.quote,
        String.toList_ofList (l := label),String.ofList_toList]
    · rw [String.toList_ofList]
      exact spells_dotted d name

theorem plain_names_contained_statement :
    Spells .sqlite "t.*;--".toList (column .sqlite " t.*;-- ").toList ∧
    orderItem? .postgres "name; dEsC DROP TABLE users" = some "\"name;\" DESC" ∧
    ∃ text, table .mysql "a.b;-- aS c" = text ++ " AS `c`" ∧
      Spells .mysql "a.b;--".toList text.toList := by
  obtain ⟨column,-⟩ := plain_names_contained .sqlite " t.*;-- " (by decide)
  obtain ⟨-,-,entry,-⟩ := plain_names_contained .postgres "name; dEsC DROP TABLE users" (by decide)
  obtain ⟨-,-,-,-,aliased⟩ := plain_names_contained .mysql "a.b;-- aS c" (by decide)
  refine ⟨column (by decide),?_,?_⟩
  · have split : words "name; dEsC DROP TABLE users".toList =
        ["name;","dEsC","DROP","TABLE","users"].map String.toList := by decide
    exact (entry _ _ split).1.trans (by decide)
  · obtain ⟨text,written,spells⟩ := aliased "a.b;--".toList "aS".toList ['c'] (.inr (by decide))
    exact ⟨text,written.trans (by rw [String.append_assoc]; rfl),spells⟩

end ParamSql.Identifier
