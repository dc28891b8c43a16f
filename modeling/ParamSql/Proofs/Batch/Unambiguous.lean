import ParamSql.Proofs.Batch.CaseUpdate
import ParamSql.Proofs.Quoted
import ParamSql.Proofs.Rendering

/-! The text of an UPDATE with CASE assignments has one reading. An identifier ends at the first quote
mark that is not doubled, an arm and the end of a CASE differ in their first letter, and the
placeholders are numbered from left to right. -/
namespace ParamSql

/-- A quoted identifier ends where no further quote mark follows. -/
theorem Dialect.quoteChars_append_inj {d : Dialect} {a b x y : List Char}
    (left : x.head? ≠ some d.quoteMark) (right : y.head? ≠ some d.quoteMark)
    (same : d.quoteChars a ++ x = d.quoteChars b ++ y) : a = b ∧ x = y := by
  have read := readQuoted?_append a left
  rw [same,readQuoted?_append b right] at read
  obtain ⟨rfl,rfl⟩ := Prod.mk.inj (Option.some_inj.mp read)
  exact ⟨rfl,rfl⟩

/-- Numbers that continue after `count` others. -/
def Numbered (count : Nat) (numbers : List Nat) : Prop :=
  numbers = List.range' (count + 1) numbers.length

theorem numbered_cons {count n : Nat} {numbers : List Nat} :
    Numbered count (n :: numbers) ↔ n = count + 1 ∧ Numbered (count + 1) numbers := by
  simp [Numbered,List.range'_succ]

theorem numbered_append {count : Nat} {first second : List Nat} : Numbered count (first ++ second) ↔
    Numbered count first ∧ Numbered (count + first.length) second := by
  rw [Numbered,List.length_append,← List.range'_append_1,Numbered,Numbered,Nat.add_right_comm]
  exact ⟨fun same => List.append_inj same (by simp),fun ⟨h,k⟩ => by rw [← h,← k]⟩

namespace CaseAssignment

variable {d : Dialect} {count : Nat}

theorem arms_inj {xs ys : List (Nat × Nat)} {x y : List Char}
    (left : Numbered count (xs.flatMap fun arm => [arm.1,arm.2]))
    (right : Numbered count (ys.flatMap fun arm => [arm.1,arm.2]))
    (same : xs.flatMap (fun arm => (armText d arm).toList) ++ (" ELSE ".toList ++ x) =
      ys.flatMap (fun arm => (armText d arm).toList) ++ (" ELSE ".toList ++ y)) : xs = ys ∧ x = y := by
  induction xs generalizing ys count with
  | nil =>
    cases ys with
    | nil => exact ⟨rfl,by simpa using same⟩
    | cons arm ys => simp [armText] at same
  | cons arm xs ih =>
    cases ys with
    | nil => simp [armText] at same
    | cons other ys =>
      obtain ⟨k,v⟩ := arm
      obtain ⟨k',v'⟩ := other
      simp only [List.flatMap_cons,List.cons_append,List.nil_append,numbered_cons] at left right
      obtain ⟨rfl,rfl,left⟩ := left
      obtain ⟨rfl,rfl,right⟩ := right
      simp only [List.flatMap_cons,List.append_assoc] at same
      obtain ⟨rfl,rest⟩ := ih left right (List.append_cancel_left same)
      exact ⟨rfl,rest⟩

theorem toList_text (d : Dialect) (key : String) (a : CaseAssignment Nat) : (a.text d key).toList =
    d.quoteChars a.column.toList ++ (" = CASE ".toList ++ (d.quoteChars key.toList ++
      (a.arms.flatMap (fun arm => (armText d arm).toList) ++ (" ELSE ".toList ++
        (d.quoteChars a.column.toList ++ " END".toList))))) := by
  simp [text,Dialect.quote,String.toList_append,String.toList_join,List.flatMap_map,List.append_assoc]

theorem text_inj {a b : CaseAssignment Nat} {key key' : String} {x y : List Char}
    (left : Numbered count a.slots) (right : Numbered count b.slots)
    (same : (a.text d key).toList ++ x = (b.text d key').toList ++ y) :
    a = b ∧ key = key' ∧ x = y := by
  have cased (rest : List Char) : (" = CASE ".toList ++ rest).head? ≠ some d.quoteMark := by
    cases d <;> simp [Dialect.quoteMark]
  have spaced (arms : List (Nat × Nat)) (rest : List Char) :
      (arms.flatMap (fun arm => (armText d arm).toList) ++ (" ELSE ".toList ++ rest)).head? ≠
        some d.quoteMark := by
    cases arms <;> cases d <;> simp [armText,Dialect.quoteMark]
  obtain ⟨column,arms⟩ := a
  obtain ⟨column',arms'⟩ := b
  rw [toList_text,toList_text] at same
  simp only [List.append_assoc] at same
  obtain ⟨columns,same⟩ := Dialect.quoteChars_append_inj (cased _) (cased _) same
  obtain rfl := String.toList_inj.mp columns
  obtain ⟨keys,same⟩ :=
    Dialect.quoteChars_append_inj (spaced _ _) (spaced _ _) (List.append_cancel_left same)
  obtain ⟨rfl,ended⟩ := arms_inj left right same
  exact ⟨rfl,String.toList_inj.mp keys,List.append_cancel_left (List.append_cancel_left ended)⟩

end CaseAssignment

namespace CaseUpdate
open CaseAssignment

variable {d : Dialect} {count : Nat}

/-- What stands behind the first of several parts. -/
def following (parts : List String) : List Char := parts.flatMap fun s => ", ".toList ++ s.toList

theorem toList_intercalate_cons (s : String) (parts : List String) :
    (String.intercalate ", " (s :: parts)).toList = s.toList ++ following parts := by
  rw [intercalate_cons,String.toList_append,String.toList_join,List.flatMap_map]
  simp [following]

theorem following_assignments_inj {key : String} {as bs : List (CaseAssignment Nat)} {x y : List Char}
    (left : Numbered count (as.flatMap (·.slots))) (right : Numbered count (bs.flatMap (·.slots)))
    (same : following (as.map (·.text d key)) ++ (" WHERE ".toList ++ x) =
      following (bs.map (·.text d key)) ++ (" WHERE ".toList ++ y)) : as = bs ∧ x = y := by
  induction as generalizing bs count with
  | nil =>
    cases bs with
    | nil => exact ⟨rfl,by simpa using same⟩
    | cons b bs => simp [following] at same
  | cons a as ih =>
    cases bs with
    | nil => simp [following] at same
    | cons b bs =>
      simp only [List.flatMap_cons,numbered_append] at left right
      simp only [List.map_cons,following,List.flatMap_cons,List.append_assoc] at same
      obtain ⟨rfl,-,more⟩ := text_inj left.1 right.1 (List.append_cancel_left same)
      obtain ⟨rfl,rest⟩ := ih left.2 right.2 more
      exact ⟨rfl,rest⟩

theorem following_keys_inj {ks ls : List Nat} (left : Numbered count ks) (right : Numbered count ls)
    (same : following (ks.map d.placeholder) ++ ")".toList =
      following (ls.map d.placeholder) ++ ")".toList) : ks = ls := by
  induction ks generalizing ls count with
  | nil =>
    cases ls with
    | nil => rfl
    | cons l ls => simp [following] at same
  | cons k ks ih =>
    cases ls with
    | nil => simp [following] at same
    | cons l ls =>
      rw [numbered_cons] at left right
      obtain ⟨rfl,left⟩ := left
      obtain ⟨rfl,right⟩ := right
      simp only [List.map_cons,following,List.flatMap_cons,List.append_assoc] at same
      rw [ih left right (List.append_cancel_left (List.append_cancel_left same))]

theorem keys_inj {ks ls : List Nat} (left : Numbered count ks) (right : Numbered count ls)
    (same : (String.intercalate ", " (ks.map d.placeholder)).toList ++ ")".toList =
      (String.intercalate ", " (ls.map d.placeholder)).toList ++ ")".toList) : ks = ls := by
  have opened (n : Nat) (rest : List Char) : (d.placeholder n).toList ++ rest ≠ ")".toList := by
    cases d <;> simp [Dialect.placeholder,Dialect.isNumbered]
  cases ks with
  | nil =>
    cases ls with
    | nil => rfl
    | cons l ls =>
      rw [List.map_cons,toList_intercalate_cons,List.append_assoc] at same
      exact absurd same.symm (opened l _)
  | cons k ks =>
    cases ls with
    | nil =>
      rw [List.map_cons,toList_intercalate_cons,List.append_assoc] at same
      exact absurd same (opened k _)
    | cons l ls =>
      rw [numbered_cons] at left right
      obtain ⟨rfl,left⟩ := left
      obtain ⟨rfl,right⟩ := right
      rw [List.map_cons,List.map_cons,toList_intercalate_cons,toList_intercalate_cons,
        List.append_assoc,List.append_assoc] at same
      rw [following_keys_inj left right (List.append_cancel_left same)]

def conditionChars (d : Dialect) (key : String) (keys : List Nat) : List Char :=
  d.quoteChars key.toList ++ (" IN (".toList ++
    ((String.intercalate ", " (keys.map d.placeholder)).toList ++ ")".toList))

theorem toList_text (d : Dialect) (u : CaseUpdate Nat) : (u.text d).toList =
    ("UPDATE " ++ Identifier.table d u.table ++ " SET ").toList ++
      ((String.intercalate ", " (u.assignments.map (·.text d u.key))).toList ++
        (" WHERE ".toList ++ conditionChars d u.key u.keys)) := by
  unfold CaseUpdate.text
  simp only [conditionChars,Dialect.quote,String.toList_append,String.toList_ofList,List.append_assoc]

theorem conditionChars_inj {key key' : String} {ks ls : List Nat} (left : Numbered count ks)
    (right : Numbered count ls) (same : conditionChars d key ks = conditionChars d key' ls) :
    key = key' ∧ ks = ls := by
  have blank (rest : List Char) : (" IN (".toList ++ rest).head? ≠ some d.quoteMark := by
    cases d <;> simp [Dialect.quoteMark]
  rw [conditionChars,conditionChars] at same
  obtain ⟨keys,listed⟩ := Dialect.quoteChars_append_inj (blank _) (blank _) same
  exact ⟨String.toList_inj.mp keys,keys_inj left right (List.append_cancel_left listed)⟩

/-- The text of a statement for a table has one reading. -/
theorem text_inj {u v : CaseUpdate Nat} (table : u.table = v.table) (left : Numbered 0 u.slots)
    (right : Numbered 0 v.slots) (same : u.text d = v.text d) : u = v := by
  have assigned (a : CaseAssignment Nat) (key : String) (x y : List Char) :
      (a.text d key).toList ++ x ≠ " WHERE ".toList ++ y := by
    cases d <;> simp [CaseAssignment.toList_text,Dialect.quoteChars,Dialect.quoteMark]
  obtain ⟨tableName,key,as,ks⟩ := u
  obtain ⟨tableName',key',bs,ls⟩ := v
  obtain rfl : tableName = tableName' := table
  have chars := congrArg String.toList same
  rw [toList_text,toList_text] at chars
  replace chars := List.append_cancel_left chars
  simp only [slots,numbered_append] at left right
  cases as with
  | nil =>
    cases bs with
    | nil =>
      obtain ⟨rfl,rfl⟩ := conditionChars_inj left.2 right.2 (List.append_cancel_left chars)
      rfl
    | cons b bs =>
      rw [List.map_cons,toList_intercalate_cons,List.append_assoc] at chars
      exact absurd chars.symm (assigned b _ _ _)
  | cons a as =>
    cases bs with
    | nil =>
      rw [List.map_cons,toList_intercalate_cons,List.append_assoc] at chars
      exact absurd chars (assigned a _ _ _)
    | cons b bs =>
      rw [List.map_cons,List.map_cons,toList_intercalate_cons,toList_intercalate_cons,
        List.append_assoc,List.append_assoc] at chars
      simp only [List.flatMap_cons,numbered_append] at left right
      obtain ⟨rfl,rfl,more⟩ := CaseAssignment.text_inj left.1.1 right.1.1 chars
      obtain ⟨rfl,found⟩ := following_assignments_inj left.1.2 right.1.2 more
      obtain ⟨-,rfl⟩ := conditionChars_inj left.2 right.2 found
      rfl

end CaseUpdate

end ParamSql
