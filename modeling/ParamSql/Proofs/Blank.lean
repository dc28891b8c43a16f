import ParamSql.Batch.Insert
import ParamSql.Delete
import ParamSql.Proofs.Conflict.Text
import ParamSql.Proofs.Identifier.Words
import ParamSql.Proofs.Returning
import ParamSql.Proofs.Template
import ParamSql.Update

/-! Blank entries in the lists of a statement. A column is rendered to blank text exactly if it is blank,
and a blank ORDER BY entry is no entry. A RETURNING list keeps its blank columns: each is written as an
empty item. -/
namespace ParamSql

namespace Text

theorem isBlankText_ofList (cs : List Char) : isBlankText (String.ofList cs) = cs.all isBlank := by
  rw [isBlankText,String.toList_ofList]

theorem all_isBlank_trim (cs : List Char) : (trim cs).all isBlank = cs.all isBlank := by
  rw [Bool.eq_iff_iff,← words_eq_nil_iff,words_trim,words_eq_nil_iff]

end Text

namespace Identifier
open Text

variable (d : Dialect)

theorem exists_solid_dotted (name : List Char) : ∃ c ∈ dotted d name, isBlank c = false := by
  have solid (part : List Char) :
      ∃ c ∈ (if part = ['*'] then part else d.quoteChars part), isBlank c = false := by
    split
    next star => exact ⟨'*',by simp [star],by decide⟩
    next => exact ⟨d.quoteMark,List.mem_cons_self,by cases d <;> decide⟩
  rw [dotted]
  cases pieces : splitOnChar '.' name with
  | nil =>
    rw [splitOnChar_eq_splitOn] at pieces
    exact absurd pieces (List.splitOn_ne_nil _ _)
  | cons part parts =>
    obtain ⟨c,member,filled⟩ := solid part
    refine ⟨c,?_,filled⟩
    cases parts with
    | nil => simpa using member
    | cons next parts =>
      rw [List.map_cons,List.map_cons,List.intercalate_cons_cons,List.append_assoc]
      exact List.mem_append_left _ member

theorem all_isBlank_columnChars (written : List Char) :
    (columnChars d written).all isBlank = written.all isBlank := by
  rw [columnChars]
  split
  next => exact all_isBlank_trim written
  next =>
    split
    next none =>
      rw [← all_isBlank_trim written,List.isEmpty_iff.mp none]
    next some =>
      obtain ⟨c,member,filled⟩ := exists_solid_dotted d (trim written)
      have visible : (dotted d (trim written)).all isBlank = false :=
        List.all_eq_false.mpr ⟨c,member,by simp [filled]⟩
      have inked : written.all isBlank = false := by
        rw [Bool.eq_false_iff]
        exact fun blank => some (List.isEmpty_iff.mpr (trim_eq_nil_iff.mpr (words_eq_nil_iff.mpr blank)))
      rw [visible,inked]

/-- A column is written as blank text exactly if it is blank. -/
theorem isBlankText_column (written : String) : isBlankText (column d written) = isBlankText written := by
  rw [column,isBlankText_ofList,all_isBlank_columnChars,isBlankText]

variable {d} {s : String}

theorem column_of_blank (blank : isBlankText s) : column d s = "" := by
  have empty : trim s.toList = [] := trim_eq_nil_iff.mpr (words_eq_nil_iff.mpr blank)
  simp only [column,columnChars,empty]
  rfl

theorem exists_solid_direction {word direction : List Char} (known : direction? word = some direction) :
    ∃ c ∈ direction, isBlank c = false := by
  rw [direction?] at known
  split at known
  next => cases known; exact ⟨'A',by decide,by decide⟩
  next =>
    split at known <;> cases known
    exact ⟨'D',by decide,by decide⟩

theorem exists_orderChars {written : List Char} (inked : written.all isBlank = false) :
    ∃ item, orderChars? d written = some item ∧ item.all isBlank = false := by
  have kept : (trim written).all isBlank = false := (all_isBlank_trim written).trans inked
  have filled : ¬(trim written).isEmpty := fun empty => by
    rw [List.isEmpty_iff.mp empty] at kept
    cases kept
  have directed (head : List Char) {word direction : List Char}
      (known : direction? word = some direction) : (head ++ ' ' :: direction).all isBlank = false := by
    obtain ⟨c,member,solid⟩ := exists_solid_direction known
    exact List.all_eq_false.mpr ⟨c,by simp [member],by simp [solid]⟩
  have column {word : List Char} (member : word ∈ words (trim written)) :
      (columnChars d word).all isBlank = false := by
    obtain ⟨some,solid⟩ := solid_of_mem_words member
    obtain ⟨c,rest,rfl⟩ := List.exists_cons_of_ne_nil some
    rw [all_isBlank_columnChars,List.all_cons,solid c List.mem_cons_self,Bool.false_and]
  simp only [orderChars?,if_neg filled]
  split
  next =>
    split
    next head tail cut =>
      split
      next direction known => exact ⟨_,rfl,directed _ known⟩
      next => exact ⟨_,rfl,kept⟩
    next => exact ⟨_,rfl,kept⟩
  next =>
    cases split : words (trim written) with
    | nil => rw [words_eq_nil_iff.mp split] at kept; cases kept
    | cons first rest =>
      have inside : first ∈ words (trim written) := split ▸ List.mem_cons_self
      cases rest with
      | nil => exact ⟨_,rfl,column inside⟩
      | cons next rest =>
        dsimp only
        cases known : direction? next with
        | none => exact ⟨_,rfl,column inside⟩
        | some direction => exact ⟨_,rfl,directed _ known⟩

/-- An ORDER BY entry that is not blank is written as an item that is not blank. -/
theorem exists_orderItem (inked : isBlankText s = false) :
    ∃ item, orderItem? d s = some item ∧ isBlankText item = false := by
  obtain ⟨chars,item,visible⟩ := exists_orderChars (d := d) inked
  exact ⟨String.ofList chars,by rw [orderItem?,item]; rfl,(isBlankText_ofList chars).trans visible⟩

end Identifier

/-! ## Clauses that list items -/

/-- How a clause lists its items: what it is without one, and what stands before them. -/
structure Listing where
  bare : String
  keyword : String

namespace Listing

/-- The items of a SELECT. -/
def selected : Listing := ⟨"*",""⟩

/-- The items of a RETURNING clause. -/
def returned : Listing := ⟨""," RETURNING "⟩

def text (listing : Listing) (items : List String) : String :=
  if items.isEmpty then listing.bare else listing.keyword ++ String.intercalate ", " items

variable {listing : Listing} {item : String}

/-- With one item more there is one comma more. -/
theorem length_intercalate_lt (first rest : List String) (others : first ++ rest ≠ []) (item : String) :
    (String.intercalate ", " (first ++ rest)).length <
      (String.intercalate ", " (first ++ item :: rest)).length := by
  have comma : ", ".length = 2 := by decide
  induction first with
  | nil =>
    obtain ⟨next,rest,rfl⟩ := List.exists_cons_of_ne_nil others
    rw [List.nil_append,List.nil_append,String.intercalate_cons_cons]
    simp only [String.length_append]
    omega
  | cons head first ih =>
    rw [List.cons_append,List.cons_append,
      String.intercalate_cons_of_ne_nil (List.append_ne_nil_of_right_ne_nil _ (List.cons_ne_nil item rest))]
    by_cases alone : first ++ rest = []
    · rw [alone,String.intercalate_singleton]
      simp only [String.length_append]
      omega
    · rw [String.intercalate_cons_of_ne_nil alone]
      have longer := ih alone
      simp only [String.length_append]
      omega

theorem text_insert_ne (first rest : List String) (shown : listing.bare ≠ listing.keyword ++ item) :
    listing.text (first ++ item :: rest) ≠ listing.text (first ++ rest) := by
  rw [text,text,if_neg (by simp)]
  split
  next none =>
    obtain ⟨rfl,rfl⟩ := List.append_eq_nil_iff.mp (List.isEmpty_iff.mp none)
    rw [List.nil_append,String.intercalate_singleton]
    exact shown.symm
  next others =>
    intro same
    have longer := length_intercalate_lt first rest (by simpa using others) item
    rw [(String.append_right_inj _).mp same] at longer
    exact Nat.lt_irrefl _ longer

end Listing

/-- A build with one item more in a list. It is refused as the build without the item, or it writes the
item at its place and nothing else changes: the two builds are equal only if both are refused. -/
structure ItemWritten (listing : Listing) (first : List String) (item : String) (rest : List String)
    (without listed : Except Error Statement) : Prop where
  refused : ∀ e, without = .error e → listed = .error e
  written : ∀ s, without = .ok s → ∃ head tail, s.sql = head ++ listing.text (first ++ rest) ++ tail ∧
    listed = .ok { s with sql := head ++ listing.text (first ++ item :: rest) ++ tail }
  changed : ∀ s, without = .ok s → listed ≠ without

theorem ItemWritten.of_refused (listing : Listing) (first : List String) (item : String)
    (rest : List String) (e : Error) : ItemWritten listing first item rest (.error e) (.error e) :=
  ⟨fun _ failed => failed,fun _ built => (nomatch built),fun _ built => (nomatch built)⟩

theorem ItemWritten.of_written {listing : Listing} {first rest : List String} {item : String}
    {without listed : Except Error Statement} (shown : listing.bare ≠ listing.keyword ++ item)
    (refused : ∀ e, without = .error e → listed = .error e)
    (written : ∀ s, without = .ok s → ∃ head tail,
      s.sql = head ++ listing.text (first ++ rest) ++ tail ∧
      listed = .ok { s with sql := head ++ listing.text (first ++ item :: rest) ++ tail }) :
    ItemWritten listing first item rest without listed := by
  refine ⟨refused,written,fun s built equal => ?_⟩
  obtain ⟨head,tail,sql,same⟩ := written s built
  rw [same,built] at equal
  have texts : head ++ listing.text (first ++ item :: rest) ++ tail = s.sql :=
    congrArg Statement.sql (Except.ok.inj equal)
  rw [sql,String.append_left_inj,String.append_right_inj] at texts
  exact Listing.text_insert_ne first rest shown texts

/-! ## RETURNING -/

theorem Fragment.build_returning (f : Fragment) {d : Dialect} (returns : d.hasReturning)
    (columns : List String) : f.buildReturning d none columns = (f.build d).map fun s =>
      { s with sql := s.sql ++ Listing.returned.text (columns.map (Identifier.column d)) } := by
  have listed : returningText d columns = Listing.returned.text (columns.map (Identifier.column d)) := by
    rw [returningText,Listing.text,List.isEmpty_map]
    rfl
  rw [buildReturning_none,if_pos (.inr returns),build,build,listed,mismatch_text]
  cases f.mismatch with
  | none =>
    simp only [Except.map,render_text,args_text]
    rfl
  | some mismatch => rfl

/-- What a blank column between others does in a RETURNING list. Where the dialect has RETURNING, it is
written as an empty item; elsewhere it counts as a column, so that alone it makes the build fail. -/
structure BlankReturned (d : Dialect) (s : String) (before after : List String)
    (build : List String → Except Error Statement) : Prop where
  written : d.hasReturning → ItemWritten .returned (before.map (Identifier.column d)) ""
    (after.map (Identifier.column d)) (build (before ++ after)) (build (before ++ s :: after))
  beside : d.hasReturning = false → before ++ after ≠ [] →
    build (before ++ s :: after) = build (before ++ after)
  alone : d.hasReturning = false → before ++ after = [] → ∀ t, build (before ++ after) = .ok t →
    build (before ++ s :: after) = .error (.unsupported "RETURNING" d)

section
variable {s : String} (blank : Text.isBlankText s) (d : Dialect) (before after : List String)
include blank

theorem Fragment.blankReturned (f : Fragment) (refusal? : Option Misuse) :
    BlankReturned d s before after fun columns => f.buildReturning d refusal? columns := by
  cases refusal? with
  | some misuse =>
    exact ⟨fun _ => .of_refused ..,fun _ _ => rfl,fun _ _ _ built => nomatch built⟩
  | none =>
    have listed : before ++ s :: after ≠ [] :=
      List.append_ne_nil_of_right_ne_nil _ (List.cons_ne_nil s after)
    have unsupported (none : d.hasReturning = false) {columns : List String} (some : columns ≠ []) :
        f.buildReturning d .none columns = .error (.unsupported "RETURNING" d) := by
      rw [buildReturning_none,if_neg (by simp [some,none])]
    refine ⟨fun returns => .of_written (by decide) (fun e => ?_) fun u built => ?_,
      fun none others => (unsupported none listed).trans (unsupported none others).symm,
      fun none _ _ _ => unsupported none listed⟩
    · rw [build_returning f returns,build_returning f returns]
      cases f.build d with
      | error e => exact id
      | ok base => intro failed; cases failed
    · rw [build_returning f returns] at built ⊢
      cases bare : f.build d with
      | error e => rw [bare] at built; cases built
      | ok base =>
        rw [bare] at built
        cases built
        refine ⟨base.sql,"",?_,?_⟩
        · rw [List.map_append,String.append_empty]
        · have items : (before ++ s :: after).map (Identifier.column d) =
              before.map (Identifier.column d) ++ "" :: after.map (Identifier.column d) := by
            rw [List.map_append,List.map_cons,Identifier.column_of_blank blank]
          rw [items,String.append_empty]
          rfl

theorem Insert.blankReturned (q : Insert) :
    BlankReturned d s before after fun columns => { q with returning := columns }.build d :=
  (q.writeTo d .empty).blankReturned blank d before after none

theorem Update.blankReturned (q : Update) :
    BlankReturned d s before after fun columns => { q with returning := columns }.build d :=
  (q.writeTo d .empty).blankReturned blank d before after q.refusal?

theorem Delete.blankReturned (q : Delete) :
    BlankReturned d s before after fun columns => { q with returning := columns }.build d :=
  (q.writeTo d .empty).blankReturned blank d before after q.refusal?

theorem Upsert.blankReturned (q : Upsert) : BlankReturned d s before after
    fun columns => { q with insert := { q.insert with returning := columns } }.build d := by
  simp only [build_eq]
  exact ((q.insert.writeTo d .empty).text (q.conflictText d)).blankReturned blank d before after q.refusal?

theorem BatchInsert.blankReturned (q : BatchInsert) :
    BlankReturned d s before after fun columns => { q with returning := columns }.build d :=
  (q.writeTo d .empty).blankReturned blank d before after q.refusal?

end

end ParamSql
