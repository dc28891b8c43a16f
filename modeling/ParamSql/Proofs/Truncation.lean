import ParamSql.Log
import Mathlib.Data.List.Infix

/-! Statements in the log, cut to a number of bytes. The cut is also a walk on bytes: it goes back from
the limit until it stands between two characters, and takes the bytes before. Main statement: the walk
never ends inside a character, it finds the longest run of leading characters that fits, and a log
reports a statement that is too long as that run and three dots. -/
namespace ParamSql

namespace Text

/-! ## Characters that fit -/

theorem utf8ByteSize_cons (c : Char) (cs : List Char) :
    (String.ofList (c :: cs)).utf8ByteSize = c.utf8Size + (String.ofList cs).utf8ByteSize := by
  rw [String.ofList_cons,String.utf8ByteSize_append,String.utf8ByteSize_singleton]

theorem fitting_leads (limit : Nat) (cs : List Char) : fitting limit cs <+: cs := by
  induction cs generalizing limit with
  | nil => exact List.nil_prefix
  | cons c cs ih =>
    rw [fitting]
    split
    next => exact List.cons_prefix_cons.mpr ⟨rfl,ih _⟩
    next => exact List.nil_prefix

theorem fitting_fits (limit : Nat) (cs : List Char) :
    (String.ofList (fitting limit cs)).utf8ByteSize ≤ limit := by
  induction cs generalizing limit with
  | nil => exact Nat.zero_le limit
  | cons c cs ih =>
    rw [fitting]
    split
    next fits =>
      have rest := ih (limit - c.utf8Size)
      rw [utf8ByteSize_cons]
      omega
    next => exact Nat.zero_le limit

theorem leading_fitting {limit : Nat} {leading cs : List Char} (leads : leading <+: cs)
    (fits : (String.ofList leading).utf8ByteSize ≤ limit) : leading <+: fitting limit cs := by
  induction cs generalizing limit leading with
  | nil => exact leads
  | cons c cs ih =>
    obtain rfl | ⟨rest,rfl,follows⟩ := List.prefix_cons_iff.mp leads
    · exact List.nil_prefix
    · rw [utf8ByteSize_cons] at fits
      rw [fitting,if_pos (by omega)]
      exact List.cons_prefix_cons.mpr ⟨rfl,ih follows (by omega)⟩

theorem fitting_eq_self {limit : Nat} {cs : List Char}
    (fits : (String.ofList cs).utf8ByteSize ≤ limit) : fitting limit cs = cs := by
  have whole : cs <+: fitting limit cs := leading_fitting List.prefix_rfl fits
  exact (fitting_leads limit cs).eq_of_length_le whole.length_le

/-- A character that is left out does not fit, so less than one character is left of the limit. -/
theorem limit_le_fitting {limit : Nat} {cs : List Char}
    (exceeds : limit < (String.ofList cs).utf8ByteSize) :
    limit ≤ (String.ofList (fitting limit cs)).utf8ByteSize + 3 := by
  obtain ⟨rest,split⟩ := fitting_leads limit cs
  cases rest with
  | nil =>
    have fits := fitting_fits limit cs
    rw [List.append_nil] at split
    rw [split] at fits
    omega
  | cons c rest =>
    by_contra short
    have small : c.utf8Size ≤ 4 := c.utf8Size_le_four
    have further : fitting limit cs ++ [c] <+: fitting limit cs := by
      apply leading_fitting
      · exact ⟨rest,by rw [List.append_assoc,List.singleton_append,split]⟩
      · rw [String.ofList_append,String.utf8ByteSize_append,String.ofList_cons,String.ofList_nil,
          String.append_empty,String.utf8ByteSize_singleton]
        omega
    have longer := further.length_le
    rw [List.length_append,List.length_singleton] at longer
    omega

/-! ## The walk on bytes -/

/-- Goes back to the last place between characters, or to the start. -/
def walkBack (s : String) : Nat → Nat
  | 0 => 0
  | n + 1 => if (⟨n + 1⟩ : String.Pos.Raw).isValid s then n + 1 else walkBack s n

/-- The bytes before a place. Inside a character they are no text. -/
def before? (s : String) (n : Nat) : Option String :=
  if valid : (⟨n⟩ : String.Pos.Raw).IsValid s then
    some ⟨s.toByteArray.extract 0 n,valid.isValidUTF8_extract_zero⟩
  else none

def cutBytes? (s : String) (limit : Nat) : Option String :=
  if s.utf8ByteSize ≤ limit then some s else before? s (walkBack s limit)

theorem isValid_walkBack (s : String) (n : Nat) : (⟨walkBack s n⟩ : String.Pos.Raw).IsValid s := by
  induction n with
  | zero => exact String.Pos.Raw.isValid_zero
  | succ n ih =>
    rw [walkBack]
    split
    next valid => exact String.Pos.Raw.isValid_eq_true_iff.mp valid
    next => exact ih

theorem walkBack_le (s : String) (n : Nat) : walkBack s n ≤ n := by
  induction n with
  | zero => exact Nat.le_refl 0
  | succ n ih =>
    rw [walkBack]
    split
    next => exact Nat.le_refl (n + 1)
    next => exact Nat.le_succ_of_le ih

theorem le_walkBack {s : String} {place n : Nat} (valid : (⟨place⟩ : String.Pos.Raw).IsValid s)
    (within : place ≤ n) : place ≤ walkBack s n := by
  induction n with
  | zero => exact within
  | succ n ih =>
    rw [walkBack]
    split
    next => exact within
    next inside =>
      apply ih
      have other : place ≠ n + 1 := by
        rintro rfl
        exact inside (String.Pos.Raw.isValid_eq_true_iff.mpr valid)
      omega

theorem isValid_of_leading {s : String} {leading : List Char} (leads : leading <+: s.toList) :
    (⟨(String.ofList leading).utf8ByteSize⟩ : String.Pos.Raw).IsValid s := by
  apply String.Pos.Raw.isValid_iff_exists_take_toList.mpr
  exact ⟨leading.length,by rw [← List.prefix_iff_eq_take.mp leads]⟩

theorem before?_of_leading {s : String} {leading : List Char} (leads : leading <+: s.toList) :
    before? s (String.ofList leading).utf8ByteSize = some (String.ofList leading) := by
  obtain ⟨rest,split⟩ := leads
  have joined : s = String.ofList leading ++ String.ofList rest := by
    rw [← String.ofList_append,split,String.ofList_toList]
  rw [before?,dif_pos (isValid_of_leading ⟨rest,split⟩),Option.some_inj,← String.toByteArray_inj]
  change s.toByteArray.extract 0 _ = _
  rw [joined,String.toByteArray_append]
  exact ByteArray.extract_append_eq_left String.size_toByteArray.symm

/-- The walk ends behind the characters that fit. -/
theorem walkBack_eq (s : String) (limit : Nat) :
    walkBack s limit = (String.ofList (fitting limit s.toList)).utf8ByteSize := by
  apply Nat.le_antisymm
  · obtain ⟨count,place⟩ :=
      String.Pos.Raw.isValid_iff_exists_take_toList.mp (isValid_walkBack s limit)
    have within : (String.ofList (s.toList.take count)).utf8ByteSize ≤ limit :=
      place ▸ walkBack_le s limit
    obtain ⟨rest,split⟩ := leading_fitting (List.take_prefix count s.toList) within
    change walkBack s limit = _ at place
    rw [place,← split,String.ofList_append,String.utf8ByteSize_append]
    exact Nat.le_add_right _ _
  · exact le_walkBack (isValid_of_leading (fitting_leads limit s.toList)) (fitting_fits limit s.toList)

theorem cutBytes?_eq (s : String) (limit : Nat) :
    cutBytes? s limit = some (String.ofList (fitting limit s.toList)) := by
  rw [cutBytes?]
  split
  next fits => rw [fitting_eq_self (by rwa [String.ofList_toList]),String.ofList_toList]
  next => rw [walkBack_eq,before?_of_leading (fitting_leads limit s.toList)]

theorem truncate_eq_self {s : String} {limit : Option Nat} (fits : ∀ n ∈ limit, s.utf8ByteSize ≤ n) :
    truncate limit s = s := by
  cases limit with
  | none => rfl
  | some n => exact if_neg (Nat.not_lt.mpr (fits n rfl))

end Text

/-! ## What a log reports -/

def LogEvent.sql? : LogEvent → Option String
  | statement _ _ _ sql | slowQuery _ _ sql => some sql
  | keyNotReported .. | keyNotStored .. => none

namespace SqlLog
open Text

theorem sql?_of_mem (l : SqlLog) (statement : Statement) (elapsed : Duration) {event : LogEvent}
    (reported : event ∈ l.before statement ++ l.after statement elapsed) :
    event.sql? = some (truncate l.maxLength statement.sql) := by
  rw [List.mem_append,before,after] at reported
  rcases reported with first | later
  · split at first
    next => rw [List.mem_singleton.mp first]; rfl
    next => cases first
  · split at later
    next =>
      split at later
      next => rw [List.mem_singleton.mp later]; rfl
      next => cases later
    next => cases later

/-- The walk on bytes keeps the longest run of leading characters that fits. Text within the limit is
reported as it is, and other text as that run and three dots. -/
theorem statements_cut (l : SqlLog) (s : String) (limit : Nat) :
    let kept := fitting limit s.toList
    cutBytes? s limit = some (String.ofList kept) ∧
    kept <+: s.toList ∧ (String.ofList kept).utf8ByteSize ≤ limit ∧
    (∀ leading, leading <+: s.toList → (String.ofList leading).utf8ByteSize ≤ limit →
      leading <+: kept) ∧
    (limit < s.utf8ByteSize → truncate (some limit) s = String.ofList kept ++ "..." ∧
      limit ≤ (String.ofList kept).utf8ByteSize + 3) ∧
    (∀ most : Option Nat, (∀ n ∈ most, s.utf8ByteSize ≤ n) → truncate most s = s) ∧
    ∀ (args : List Value) (tag : Option String) (timeout : Option Duration) (elapsed : Duration),
      ∀ event ∈ l.before ⟨s,args,tag,timeout⟩ ++ l.after ⟨s,args,tag,timeout⟩ elapsed,
        event.sql? = some (truncate l.maxLength s) := by
  intro kept
  refine ⟨cutBytes?_eq s limit,fitting_leads limit _,fitting_fits limit _,
    fun leading leads fits => leading_fitting leads fits,fun exceeds => ⟨if_pos exceeds,?_⟩,
    fun most fits => truncate_eq_self fits,
    fun args tag timeout elapsed event reported => l.sql?_of_mem _ elapsed reported⟩
  exact limit_le_fitting (by rwa [String.ofList_toList])

theorem statements_cut_accent :
    let sql := "SELECT 'é'"
    9 < sql.utf8ByteSize ∧ Text.cutBytes? sql 9 = some "SELECT '" ∧
      Text.truncate (some 9) sql = "SELECT '..." ∧ Text.truncate (some 11) sql = sql ∧
      ∀ event ∈ SqlLog.default.before (.ofSql sql []), event.sql? = some sql := by
  intro sql
  have exceeds : 9 < sql.utf8ByteSize := by decide
  have within : ∀ n ∈ some 11, sql.utf8ByteSize ≤ n := by decide
  have kept : String.ofList (fitting 9 sql.toList) = "SELECT '" := by decide
  obtain ⟨walked,-,-,-,shortened,whole,logged⟩ := SqlLog.statements_cut .default sql 9
  rw [kept] at walked shortened
  refine ⟨exceeds,walked,(shortened exceeds).1,whole (some 11) within,fun event reported => ?_⟩
  exact logged [] none none ⟨0⟩ event (List.mem_append_left _ reported)

end SqlLog

end ParamSql
