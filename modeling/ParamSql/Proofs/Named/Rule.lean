import ParamSql.Named
import Mathlib.Data.List.Infix

/-! Where a named parameter starts in the bytes of a text. The rule looks at one colon: no quote is
open before it, a letter or an underscore follows, and it ends an odd run of colons. One pass over
the bytes, which keeps the state of the quotes and the parity of the run, finds the same. -/
namespace ParamSql.NamedSql

/-! ## The rule -/

def utf8 (s : String) : List UInt8 := s.toUTF8.data.toList

/-- Outside quotes, or inside those of one mark. -/
inductive Quoting where
  | outside
  | single
  | double
  deriving DecidableEq

namespace Quoting

/-- A mark opens and closes its own quotes. -/
def next : Quoting → UInt8 → Quoting
  | outside, b => if b = 39 then single else if b = 34 then double else outside
  | single, b => if b = 39 then outside else single
  | double, b => if b = 34 then outside else double

def mark? : Quoting → Option Char
  | outside => none
  | single => some '\x27'
  | double => some '\x22'

end Quoting

/-- An underscore or an ASCII letter. -/
def isStartByte (b : UInt8) : Bool :=
  b.toNat = 95 || (65 ≤ b.toNat && b.toNat ≤ 90) || (97 ≤ b.toNat && b.toNat ≤ 122)

def isNameByte (b : UInt8) : Bool := isStartByte b || (48 ≤ b.toNat && b.toNat ≤ 57)

def quotingAfter (bytes : List UInt8) : Quoting := bytes.foldl .next .outside

/-- The length of the run of colons at the end. A run has no mark in it, so all of it is on the same
side of the quotes as its last colon. -/
def colonRun (bytes : List UInt8) : Nat := (bytes.reverse.takeWhile (· = 58)).length

/-- A parameter starts at the position. -/
structure StartsParam (bytes : List UInt8) (p : Nat) : Prop where
  colon : bytes[p]? = some 58
  outside : quotingAfter (bytes.take p) = .outside
  named : bytes[p + 1]?.any isStartByte
  odd : colonRun (bytes.take (p + 1)) % 2 = 1

def nameAt (bytes : List UInt8) (p : Nat) : List UInt8 := (bytes.drop (p + 1)).takeWhile isNameByte

/-! ## One pass -/

/-- Finds parameters from left to right; `odd` tells whether an odd run of colons ends right before
the bytes. -/
def pass : (state : Quoting) → (odd : Bool) → (start : Nat) → List UInt8 → List (Nat × List UInt8)
  | _, _, _, [] => []
  | state, odd, start, b :: bytes =>
    let here := b = 58 && !odd
    let found := here && state = .outside && bytes.head?.any isStartByte
    (if found then [(start,bytes.takeWhile isNameByte)] else []) ++
      pass (state.next b) here (start + 1) bytes

def endsOdd (bytes : List UInt8) : Bool := colonRun bytes % 2 = 1

theorem endsOdd_snoc (before : List UInt8) (b : UInt8) :
    endsOdd (before ++ [b]) = (b = 58 && !endsOdd before) := by
  rw [endsOdd,colonRun,List.reverse_append,List.reverse_singleton,List.singleton_append,
    List.takeWhile_cons]
  by_cases colon : b = 58
  · simp only [colon,decide_true,if_true,List.length_cons,Bool.true_and]
    rw [← colonRun,endsOdd,← decide_not,decide_eq_decide]
    omega
  · simp [colon]

theorem startsParam_iff (before : List UInt8) (b : UInt8) (bytes : List UInt8) :
    StartsParam (before ++ b :: bytes) before.length ↔
      endsOdd (before ++ [b]) && quotingAfter before = .outside && bytes.head?.any isStartByte := by
  have here : (before ++ b :: bytes)[before.length]? = some b := by simp
  have next : (before ++ b :: bytes)[before.length + 1]? = bytes.head? := by
    rw [List.getElem?_append_right (Nat.le_add_right _ _),Nat.add_sub_cancel_left,List.getElem?_cons_succ,
      List.head?_eq_getElem?]
  have upTo : (before ++ b :: bytes).take before.length = before := List.take_left
  have through : (before ++ b :: bytes).take (before.length + 1) = before ++ [b] := by
    rw [List.append_cons]
    exact List.take_left' (by simp)
  have colon (odd : endsOdd (before ++ [b])) : b = 58 := by
    rw [endsOdd_snoc,Bool.and_eq_true] at odd
    simpa using odd.1
  simp only [Bool.and_eq_true,decide_eq_true_eq]
  constructor
  · intro starts
    have outside := starts.outside
    have named := starts.named
    have odd := starts.odd
    rw [upTo] at outside
    rw [next] at named
    rw [through] at odd
    exact ⟨⟨decide_eq_true odd,outside⟩,named⟩
  · rintro ⟨⟨odd,outside⟩,named⟩
    refine ⟨by rw [here,colon odd],by rw [upTo,outside],by rwa [next],?_⟩
    rw [through]
    exact of_decide_eq_true odd

/-- The pass finds what the rule accepts. -/
theorem mem_pass (before bytes : List UInt8) {p : Nat} {name : List UInt8} :
    (p,name) ∈ pass (quotingAfter before) (endsOdd before) before.length bytes ↔
      before.length ≤ p ∧ StartsParam (before ++ bytes) p ∧ name = nameAt (before ++ bytes) p := by
  induction bytes generalizing before with
  | nil =>
    refine ⟨nofun,fun ⟨late,starts,_⟩ => ?_⟩
    have none : (before ++ [])[p]? = none := by simpa using late
    have colon := starts.colon
    rw [none] at colon
    cases colon
  | cons b bytes ih =>
    have later := ih (before ++ [b])
    rw [quotingAfter,List.foldl_append,List.foldl_cons,List.foldl_nil,← quotingAfter,endsOdd_snoc,
      List.length_append,List.length_singleton,← List.append_cons] at later
    have here := startsParam_iff before b bytes
    rw [endsOdd_snoc] at here
    have spelled : nameAt (before ++ b :: bytes) before.length = bytes.takeWhile isNameByte := by
      rw [nameAt,List.append_cons,List.drop_left' (by simp)]
    rw [pass,List.mem_append,later]
    -- What is found here starts at the position of `b`; everything that is found later starts behind it.
    constructor
    · rintro (member | ⟨late,starts,same⟩)
      · split at member
        next found =>
          obtain ⟨rfl,rfl⟩ := Prod.mk.inj (List.mem_singleton.mp member)
          exact ⟨Nat.le_refl _,here.mpr found,spelled.symm⟩
        next => cases member
      · exact ⟨Nat.le_of_succ_le late,starts,same⟩
    · rintro ⟨late,starts,same⟩
      rcases Nat.eq_or_lt_of_le late with rfl | later
      · rw [if_pos (here.mp starts),same,spelled]
        exact .inl List.mem_cons_self
      · exact .inr ⟨later,starts,same⟩

theorem ascending_pass (state : Quoting) (odd : Bool) (start : Nat) (bytes : List UInt8) :
    (∀ e ∈ pass state odd start bytes, start ≤ e.1) ∧
      (pass state odd start bytes).Pairwise (·.1 < ·.1) := by
  induction bytes generalizing state odd start with
  | nil => exact ⟨nofun,.nil⟩
  | cons b bytes ih =>
    obtain ⟨late,sorted⟩ := ih (state.next b) (b = 58 && !odd) (start + 1)
    rw [pass]
    split
    · refine ⟨?_,List.pairwise_cons.mpr ⟨fun e member => late e member,sorted⟩⟩
      intro e member
      rcases List.mem_cons.mp member with rfl | member
      · exact Nat.le_refl _
      · exact Nat.le_of_succ_le (late e member)
    · exact ⟨fun e member => Nat.le_of_succ_le (late e member),sorted⟩

/-! ## Characters and bytes -/

def encoded (cs : List Char) : List UInt8 := cs.flatMap String.utf8EncodeChar

theorem utf8_eq (s : String) : utf8 s = encoded s.toList := by
  have bytes : s.toByteArray = s.toList.utf8Encode := by
    rw [← String.toByteArray_ofList,String.ofList_toList]
  rw [utf8,String.toUTF8_eq_toByteArray,bytes,List.utf8Encode]
  simp [encoded]

theorem utf8_injective : Function.Injective utf8 := by
  intro s t same
  have arrays : s.toByteArray.data = t.toByteArray.data := Array.toList_inj.mp same
  exact String.toByteArray_inj.mp (ByteArray.ext arrays)

/-- A character is one byte of its own number, or only bytes beyond ASCII. -/
theorem utf8EncodeChar_cases (c : Char) :
    (c.toNat < 128 ∧ String.utf8EncodeChar c = [UInt8.ofNat c.toNat]) ∨
      128 ≤ c.toNat ∧ ∀ b ∈ String.utf8EncodeChar c, 128 ≤ b.toNat := by
  by_cases ascii : c.val.toNat ≤ 127
  · exact .inl ⟨Nat.lt_succ_of_le ascii,if_pos ascii⟩
  · refine .inr ⟨Nat.lt_of_not_le ascii,?_⟩
    have high (n k : Nat) (least : 128 ≤ k) (most : n + k < 256) : 128 ≤ (UInt8.ofNat (n + k)).toNat := by
      rw [UInt8.toNat_ofNat',Nat.mod_eq_of_lt most]
      omega
    unfold String.utf8EncodeChar
    dsimp only
    rw [if_neg ascii]
    intro b member
    split at member
    · rcases List.mem_pair.mp member with rfl | rfl
      · exact high _ _ (by decide) (by omega)
      · exact high _ _ (by decide) (by omega)
    · split at member <;> simp only [List.mem_cons,List.not_mem_nil,or_false] at member
      · rcases member with rfl | rfl | rfl <;> exact high _ _ (by decide) (by omega)
      · rcases member with rfl | rfl | rfl | rfl <;> exact high _ _ (by decide) (by omega)

theorem isNameStart_eq (c : Char) : isNameStart c =
    (c.toNat = 95 || (65 ≤ c.toNat && c.toNat ≤ 90) || (97 ≤ c.toNat && c.toNat ≤ 122)) := by
  have underscore : c = '_' ↔ c.toNat = 95 := Char.toNat_inj.symm
  have letter : c.isAlpha = (decide (c.val ≥ 'A'.val ∧ c.val ≤ 'Z'.val) ||
    (c.val ≥ 'a'.val && c.val ≤ 'z'.val)) := rfl
  rw [isNameStart,letter,Bool.eq_iff_iff]
  simp only [underscore,UInt32.le_iff_toNat_le,ge_iff_le,Bool.or_eq_true,Bool.and_eq_true,
    decide_eq_true_eq,or_assoc]
  rfl

theorem isNameChar_eq (c : Char) :
    isNameChar c = (isNameStart c || (48 ≤ c.toNat && c.toNat ≤ 57)) := by
  rw [isNameChar,isNameStart,Char.isAlphanum,← Bool.or_assoc]
  congr 1

theorem isStartByte_ascii {c : Char} (ascii : c.toNat < 128) :
    isStartByte (UInt8.ofNat c.toNat) = isNameStart c := by
  have number : (UInt8.ofNat c.toNat).toNat = c.toNat := by
    rw [UInt8.toNat_ofNat',Nat.mod_eq_of_lt (by omega)]
  rw [isStartByte,number,isNameStart_eq]

theorem isNameByte_ascii {c : Char} (ascii : c.toNat < 128) :
    isNameByte (UInt8.ofNat c.toNat) = isNameChar c := by
  have number : (UInt8.ofNat c.toNat).toNat = c.toNat := by
    rw [UInt8.toNat_ofNat',Nat.mod_eq_of_lt (by omega)]
  rw [isNameByte,isStartByte_ascii ascii,number,isNameChar_eq]

theorem isNameChar_beyond {c : Char} (beyond : 128 ≤ c.toNat) : isNameChar c = false := by
  rw [isNameChar_eq,isNameStart_eq]
  simp
  omega

theorem isNameByte_beyond {b : UInt8} (beyond : 128 ≤ b.toNat) : isNameByte b = false := by
  simp [isNameByte,isStartByte]
  omega

theorem encoded_cons (c : Char) (cs : List Char) :
    encoded (c :: cs) = String.utf8EncodeChar c ++ encoded cs := List.flatMap_cons

theorem encoded_append (cs cs' : List Char) : encoded (cs ++ cs') = encoded cs ++ encoded cs' :=
  List.flatMap_append

theorem length_encoded (name : String) : (encoded name.toList).length = name.utf8ByteSize := by
  rw [← utf8_eq,utf8,Array.length_toList,String.toUTF8_eq_toByteArray]
  exact String.size_toByteArray

theorem takeWhile_encoded (cs : List Char) :
    (encoded cs).takeWhile isNameByte = encoded (cs.takeWhile isNameChar) := by
  induction cs with
  | nil => rfl
  | cons c cs ih =>
    rw [encoded_cons,List.takeWhile_cons]
    rcases utf8EncodeChar_cases c with ⟨ascii,byte⟩ | ⟨beyond,bytes⟩
    · rw [byte,List.singleton_append,List.takeWhile_cons,isNameByte_ascii ascii,ih]
      split
      · rw [encoded_cons,byte,List.singleton_append]
      · rfl
    · obtain ⟨b,rest,split⟩ := List.exists_cons_of_ne_nil (String.utf8EncodeChar_ne_nil (c := c))
      have first := bytes b (split ▸ List.mem_cons_self)
      rw [isNameChar_beyond beyond,split,List.cons_append,List.takeWhile_cons,isNameByte_beyond first]
      rfl

theorem head_encoded (cs : List Char) :
    (encoded cs).head?.any isStartByte = cs.head?.any isNameStart := by
  cases cs with
  | nil => rfl
  | cons c cs =>
    rw [encoded_cons]
    rcases utf8EncodeChar_cases c with ⟨ascii,byte⟩ | ⟨beyond,bytes⟩
    · rw [byte]
      exact isStartByte_ascii ascii
    · obtain ⟨b,rest,split⟩ := List.exists_cons_of_ne_nil (String.utf8EncodeChar_ne_nil (c := c))
      have first := isNameByte_beyond (bytes b (split ▸ List.mem_cons_self))
      have other := isNameChar_beyond beyond
      rw [isNameByte,Bool.or_eq_false_iff] at first
      rw [isNameChar_eq,Bool.or_eq_false_iff] at other
      rw [split]
      exact first.1.trans other.1.symm

end ParamSql.NamedSql
