import ParamSql.Wire.Binary
import Mathlib.Algebra.Ring.Int.Defs

/-! Parameters and columns of one type, for all codecs that follow the documented forms. The types that
hold whole numbers, truth values, text, bytes, identifiers and instants take exactly the values that they
can hold; a column of the type gives such a value back. -/
namespace ParamSql

/-- An instant that a count of microseconds tells, outside leap seconds. -/
def Timestamp.IsMicros (t : Timestamp) : Prop := t.nanos < 1000000000 ∧ t.nanos % 1000 = 0

namespace Wire

/-! ## Forms that are read back -/

theorem ofSigned_twosComplement {width : Nat} {n : Int} (low : -(Octets.count width : Int) ≤ 2 * n)
    (high : 2 * n < Octets.count width) : ofSigned (twosComplement width n) = n := by
  have read : Octets.toNat (twosComplement width n) = (n % Octets.count width).toNat := by
    rw [twosComplement,Octets.toNat_bigEndian]
    refine Nat.mod_eq_of_lt ?_
    have := Int.emod_lt_of_pos n (b := Octets.count width) (by omega)
    omega
  have length : (twosComplement width n).length = width := Octets.bigEndian_length _ _
  simp only [ofSigned,read,length]
  -- A number below zero is held as one of the upper half, which is read as what it stands for.
  rcases Int.lt_or_le n 0 with negative | natural
  · have wrapped : n % Octets.count width = n + Octets.count width := by
      rw [Int.emod_eq_add_self_emod,Int.emod_eq_of_lt (by omega) (by omega)]
    rw [wrapped]
    split <;> omega
  · rw [Int.emod_eq_of_lt natural (by omega)]
    split <;> omega

theorem ofUtf8?_utf8 (s : String) : ofUtf8? (utf8 s) = some s := by
  have valid : (ByteArray.mk (utf8 s).toArray).IsValidUTF8 := s.isValidUTF8
  rw [ofUtf8?,String.fromUTF8?,dif_pos valid]
  rfl

namespace Form

variable {α : Type}

/-- Every value is read back from its bytes. -/
def IsExact (f : Form α) : Prop := ∀ a, f.decode? (f.encode a) = some a

theorem isExact_bool : bool.IsExact := by
  intro b
  cases b <;> rfl

theorem isExact_signed {width : Nat} {toInt : α → Int} {ofInt : Int → α} (back : ∀ a, ofInt (toInt a) = a)
    (held : ∀ a, -(Octets.count width : Int) ≤ 2 * toInt a ∧ 2 * toInt a < Octets.count width) :
    (signed width toInt ofInt).IsExact := by
  intro a
  have length : (twosComplement width (toInt a)).length = width := Octets.bigEndian_length _ _
  show (if (twosComplement width (toInt a)).length = width then
    some (ofInt (ofSigned (twosComplement width (toInt a)))) else none) = some a
  rw [if_pos length,ofSigned_twosComplement (held a).1 (held a).2,back]

theorem isExact_unsigned {width : Nat} {toNat : α → Nat} {ofNat : Nat → α}
    (back : ∀ a, ofNat (toNat a) = a) (high : ∀ a, toNat a < Octets.count width) :
    (unsigned width toNat ofNat).IsExact := by
  intro a
  show (if (Octets.bigEndian width (toNat a)).length = width then
    some (ofNat (Octets.toNat (Octets.bigEndian width (toNat a)))) else none) = some a
  rw [if_pos (Octets.bigEndian_length _ _),Octets.toNat_bigEndian,Nat.mod_eq_of_lt (high a),back]

theorem isExact_int2 : (signed 2 Int16.toInt Int16.ofInt).IsExact := by
  have width : Octets.count 2 = 65536 := rfl
  refine isExact_signed Int16.ofInt_toInt fun n => ?_
  have low := n.le_toInt
  have high := n.toInt_lt
  omega

theorem isExact_int4 : (signed 4 Int32.toInt Int32.ofInt).IsExact := by
  have width : Octets.count 4 = 4294967296 := rfl
  refine isExact_signed Int32.ofInt_toInt fun n => ?_
  have low := n.le_toInt
  have high := n.toInt_lt
  omega

theorem isExact_int8 : (signed 8 Int64.toInt Int64.ofInt).IsExact := by
  have width : Octets.count 8 = 18446744073709551616 := rfl
  refine isExact_signed Int64.ofInt_toInt fun n => ?_
  have low := n.le_toInt
  have high := n.toInt_lt
  omega

theorem isExact_oid : (unsigned 4 UInt32.toNat UInt32.ofNat).IsExact :=
  isExact_unsigned (fun _ => UInt32.ofNat_toNat) fun n => n.toNat_lt

theorem isExact_double : double.IsExact :=
  isExact_unsigned (fun _ => congrArg Double.mk UInt64.ofNat_toNat) fun x => x.bits.toNat_lt

theorem isExact_text : text.IsExact := ofUtf8?_utf8

theorem isExact_bytea : bytea.IsExact := fun _ => rfl

theorem isExact_uuid : uuid.IsExact := by
  intro u
  simp only [uuid,Uuid.ofOctets_octets]

end Form

/-! ## Documented codecs -/

/-- The codec is for the types that are listed, and follows a form for each of them. What it makes of
other bytes is left open. -/
structure Codec.Documented {α : Type} (c : Codec α) (types : List WireType) (form : WireType → Form α) :
    Prop where
  takes : ∀ type, c.takes type ↔ type ∈ types
  gives : ∀ type, c.gives type ↔ type ∈ types
  writes : ∀ type ∈ types, ∀ a, c.write? type a = some ((form type).encode a)
  reads : ∀ type ∈ types, ∀ bytes a, (form type).decode? bytes = some a → c.read? type bytes = some a

/-- The codec is for one type, of counts of microseconds since 2000-01-01. Finer instants are sent as a
count that is less than a microsecond off, and leap seconds are not read. -/
structure Codec.CountsMicros (c : Codec Timestamp) (type : WireType) : Prop where
  takes : ∀ other, c.takes other ↔ other = type
  gives : ∀ other, c.gives other ↔ other = type
  writes : ∀ t, ∃ micros : Int, (1000 * micros - sinceEpoch t).natAbs < 1000 ∧
    c.write? type t = some (twosComplement 8 micros)
  reads : ∀ bytes t, bytes.length = 8 → t.nanos < 1000000000 → 1000 * ofSigned bytes = sinceEpoch t →
    c.read? type bytes = some t

/-- What the driver is documented to do with the types that a value can be bound to. -/
structure Codecs.Documented (k : Codecs) : Prop where
  bool : k.bool.Documented [.bool] fun _ => .bool
  int2 : k.int2.Documented [.int2] fun _ => .signed 2 Int16.toInt Int16.ofInt
  int4 : k.int4.Documented [.int4] fun _ => .signed 4 Int32.toInt Int32.ofInt
  int8 : k.int8.Documented [.int8] fun _ => .signed 8 Int64.toInt Int64.ofInt
  oid : k.oid.Documented [.oid] fun _ => .unsigned 4 UInt32.toNat UInt32.ofNat
  float8 : k.float8.Documented [.float8] fun _ => .double
  text : k.text.Documented textTypes fun type => if type ∈ labelTypes then .versioned .text else .text
  bytea : k.bytea.Documented [.bytea] fun _ => .bytea
  json : ∀ type, k.json.takes type ↔ type ∈ [.json,.jsonb]
  instant : k.instant.CountsMicros .timestamptz
  localTime : k.localTime.CountsMicros .timestamp
  uuid : k.uuid.Documented [.uuid] fun _ => .uuid

theorem Form.documented_codec {α : Type} (types : List WireType) (form : WireType → Form α) :
    (codec types form).Documented types form where
  takes _ := List.contains_iff_mem
  gives _ := List.contains_iff_mem
  writes _ _ _ := rfl
  reads _ _ _ _ read := read

theorem ofMicros?_eq {t : Timestamp} {micros : Int} (plain : t.nanos < 1000000000)
    (whole : 1000 * micros = sinceEpoch t) : ofMicros? micros = some t := by
  rw [sinceEpoch] at whole
  have seconds : epoch + micros / 1000000 = t.seconds := by omega
  have nanos : (micros % 1000000 * 1000).toNat = t.nanos := by omega
  rw [ofMicros?,seconds,nanos,Timestamp.ofUnix?,dif_pos t.inRange]

theorem Form.countsMicros_codec (type : WireType) : (codec [type] fun _ => instant).CountsMicros type where
  takes _ := List.contains_iff_mem.trans List.mem_singleton
  gives _ := List.contains_iff_mem.trans List.mem_singleton
  writes t := by
    refine ⟨(sinceEpoch t).tdiv 1000,?_,rfl⟩
    have divided := Int.mul_tdiv_add_tmod (sinceEpoch t) 1000
    have low := Int.lt_tmod_of_pos (sinceEpoch t) (show (0 : Int) < 1000 by decide)
    have high := Int.tmod_lt_of_pos (sinceEpoch t) (show (0 : Int) < 1000 by decide)
    omega
  reads bytes t length plain whole := by
    show (if bytes.length = 8 then ofMicros? (ofSigned bytes) else none) = some t
    rw [if_pos length,ofMicros?_eq plain whole]

theorem documented_binary : Codecs.binary.Documented where
  bool := Form.documented_codec _ _
  int2 := Form.documented_codec _ _
  int4 := Form.documented_codec _ _
  int8 := Form.documented_codec _ _
  oid := Form.documented_codec _ _
  float8 := Form.documented_codec _ _
  text := Form.documented_codec _ _
  bytea := Form.documented_codec _ _
  json _ := List.contains_iff_mem
  instant := Form.countsMicros_codec _
  localTime := Form.countsMicros_codec _
  uuid := Form.documented_codec _ _

/-! ## What a type takes -/

/-- The types whose columns give back what was bound. -/
def exactTypes : List WireType :=
  [.bool,.int2,.int4,.int8,.oid,.bytea,.text,.varchar,.bpchar,.name,.uuid,.timestamp,.timestamptz]

def plainTextTypes : List WireType := [.text,.varchar,.bpchar,.name]

theorem mem_textTypes {type : WireType} (plain : type ∈ plainTextTypes) : type ∈ textTypes :=
  List.mem_append_left _ (List.mem_append_left _ plain)

/-- A value that an exact type can hold; any of them holds NULL. -/
inductive Fits : WireType → Value → Prop
  | null (type : WireType) : Fits type .null
  | bool (b : Bool) : Fits .bool (.bool b)
  | int2 {n : Int64} (low : -2 ^ 15 ≤ n.toInt) (high : n.toInt < 2 ^ 15) : Fits .int2 (.int n)
  | int4 {n : Int64} (low : -2 ^ 31 ≤ n.toInt) (high : n.toInt < 2 ^ 31) : Fits .int4 (.int n)
  | int8 (n : Int64) : Fits .int8 (.int n)
  | oid {n : Int64} (low : 0 ≤ n.toInt) (high : n.toInt < 2 ^ 32) : Fits .oid (.int n)
  | text {type : WireType} (plain : type ∈ plainTextTypes) (s : String) : Fits type (.text s)
  | bytea (data : List UInt8) : Fits .bytea (.bytes data)
  | uuid (u : Uuid) : Fits .uuid (.uuid u)
  | timestamp (t : Timestamp) : Fits .timestamp (.timestamp t)
  | timestamptz (t : Timestamp) : Fits .timestamptz (.timestamp t)

/-- The value is bound, and a column of the type gives it back; of instants only those that the count
of microseconds tells. -/
def Codecs.Returns (k : Codecs) (type : WireType) (v : Value) : Prop :=
  ∃ cell, k.param? type v = some cell ∧ (cell = none ↔ v = .null) ∧
    ((∀ t, v = .timestamp t → t.IsMicros) → k.column type cell = .ok v)

theorem holds_iff {t : NarrowInt} {n : Int64} :
    t.holds n ↔ t.bounds.1 ≤ n.toInt ∧ n.toInt ≤ t.bounds.2 := by
  rw [NarrowInt.holds,Bool.and_eq_true,decide_eq_true_iff,decide_eq_true_iff]

theorem holds_i16_iff {n : Int64} : NarrowInt.i16.holds n ↔ -2 ^ 15 ≤ n.toInt ∧ n.toInt < 2 ^ 15 := by
  simp only [holds_iff,NarrowInt.bounds]
  omega

theorem holds_i32_iff {n : Int64} : NarrowInt.i32.holds n ↔ -2 ^ 31 ≤ n.toInt ∧ n.toInt < 2 ^ 31 := by
  simp only [holds_iff,NarrowInt.bounds]
  omega

theorem holds_u32_iff {n : Int64} : NarrowInt.u32.holds n ↔ 0 ≤ n.toInt ∧ n.toInt < 2 ^ 32 := by
  simp only [holds_iff,NarrowInt.bounds]
  omega

theorem toInt64_toInt16 {n : Int64} (low : -2 ^ 15 ≤ n.toInt) (high : n.toInt < 2 ^ 15) :
    n.toInt16.toInt64 = n := by
  rw [← Int64.toInt_inj,Int16.toInt_toInt64,Int64.toInt_toInt16]
  exact Int.bmod_eq_of_le (by omega) (by omega)

theorem toInt64_toInt32 {n : Int64} (low : -2 ^ 31 ≤ n.toInt) (high : n.toInt < 2 ^ 31) :
    n.toInt32.toInt64 = n := by
  rw [← Int64.toInt_inj,Int32.toInt_toInt64,Int64.toInt_toInt32]
  exact Int.bmod_eq_of_le (by omega) (by omega)

theorem ofNat_toUInt32 {n : Int64} (low : 0 ≤ n.toInt) (high : n.toInt < 2 ^ 32) :
    Int64.ofNat (UInt32.ofNat n.toInt.toNat).toNat = n := by
  have small : n.toInt.toNat < 2 ^ 32 := by omega
  rw [UInt32.toNat_ofNat_of_lt' small,← Int64.ofInt_eq_ofNat,Int.toNat_of_nonneg low,Int64.ofInt_toInt]

section
variable {α : Type} {k : Codecs} {c : Codec α} {types : List WireType} {form : WireType → Form α}
  {type : WireType} {kind : Kind} {value : α → Value} {a : α} {v : Value} {cell : Option (List UInt8)}
  {picked : Option (List UInt8)}

theorem Codec.takes_of_checked (bound : (c.checked? type a).map some = some cell) : c.takes type := by
  rw [checked?] at bound
  split at bound
  next takes => exact takes
  next => cases bound

theorem Codecs.returns_of_bytes {bytes : List UInt8} (bound : k.param? type v = some (some bytes))
    (given : v ≠ .null)
    (reads : (∀ t, v = .timestamp t → t.IsMicros) → k.column type (some bytes) = .ok v) :
    k.Returns type v :=
  ⟨some bytes,bound,by simpa using given,reads⟩

namespace Codec.Documented

/-- A codec for one type refuses all others. -/
theorem eq_of_checked {own : WireType} (documented : c.Documented [own] form)
    (bound : (c.checked? type a).map some = some cell) : type = own :=
  List.mem_singleton.mp ((documented.takes type).mp (takes_of_checked bound))

theorem column_null (documented : c.Documented types form) (member : type ∈ types)
    (column : k.column type = c.cell type kind value) : k.column type none = .ok .null := by
  rw [column]
  exact if_pos ((documented.gives type).mpr member)

/-- What a codec writes of a value comes back, if the form is exact. -/
theorem returns (documented : c.Documented types form) (member : type ∈ types)
    (exact : (form type).IsExact) (bound : k.param? type v = picked.map some)
    (written : picked = c.write? type a) (column : k.column type = c.cell type kind value)
    (same : value a = v) (given : v ≠ .null) : k.Returns type v := by
  rw [written,documented.writes type member] at bound
  refine Codecs.returns_of_bytes bound given fun _ => ?_
  rw [column,Reader.cell,if_pos ((documented.gives type).mpr member),
    documented.reads type member _ _ (exact a),← same]

theorem returns_checked (documented : c.Documented types form) (member : type ∈ types)
    (exact : (form type).IsExact) (bound : k.param? type (value a) = (c.checked? type a).map some)
    (column : k.column type = c.cell type kind value) (given : value a ≠ .null) :
    k.Returns type (value a) :=
  documented.returns member exact bound (if_pos ((documented.takes type).mpr member)) column rfl given

end Codec.Documented

namespace Codec.CountsMicros

variable {c : Codec Timestamp} {t : Timestamp}

/-- The years of instants are few enough for microseconds in 64 bits. -/
theorem ofSigned_micros {micros : Int} (near : (1000 * micros - sinceEpoch t).natAbs < 1000) :
    ofSigned (twosComplement 8 micros) = micros := by
  obtain ⟨early,late,small⟩ := t.inRange
  have width : Octets.count 8 = 18446744073709551616 := rfl
  rw [sinceEpoch,epoch] at near
  exact ofSigned_twosComplement (by omega) (by omega)

theorem returns (documented : c.CountsMicros type)
    (bound : k.param? type (.timestamp t) = picked.map some) (written : picked = c.write? type t)
    (column : k.column type = c.cell type kind .timestamp) : k.Returns type (.timestamp t) := by
  obtain ⟨micros,near,bytes⟩ := documented.writes t
  rw [written,bytes] at bound
  refine Codecs.returns_of_bytes bound Value.noConfusion fun whole => ?_
  obtain ⟨plain,whole⟩ := whole t rfl
  -- A whole count is the only one that is less than a microsecond off.
  have exact : 1000 * micros = sinceEpoch t := by
    rw [sinceEpoch] at near ⊢
    omega
  have length : (twosComplement 8 micros).length = 8 := Octets.bigEndian_length _ _
  rw [column,Reader.cell,if_pos ((documented.gives type).mpr rfl),
    documented.reads _ t length plain (by rw [ofSigned_micros near,exact])]

end Codec.CountsMicros

end

namespace Codecs.Documented

variable {k : Codecs} {type : WireType} {v : Value} {cell : Option (List UInt8)}

theorem column_text (documented : k.Documented) (plain : type ∈ plainTextTypes) :
    k.column type = k.text.cell type .text .text := by
  have given := (documented.text.gives type).mpr (mem_textTypes plain)
  simp only [plainTextTypes,List.mem_cons,List.not_mem_nil,or_false] at plain
  rcases plain with rfl | rfl | rfl | rfl <;> exact if_pos given

theorem column_null (documented : k.Documented) (listed : type ∈ exactTypes) :
    k.column type none = .ok .null := by
  have text {type : WireType} (plain : type ∈ plainTextTypes) : k.column type none = .ok .null :=
    documented.text.column_null (mem_textTypes plain) (documented.column_text plain)
  simp only [exactTypes,List.mem_cons,List.not_mem_nil,or_false] at listed
  rcases listed with rfl | rfl | rfl | rfl | rfl | rfl | rfl | rfl | rfl | rfl | rfl | rfl | rfl
  · exact documented.bool.column_null List.mem_cons_self rfl
  · exact documented.int2.column_null List.mem_cons_self rfl
  · exact documented.int4.column_null List.mem_cons_self rfl
  · exact documented.int8.column_null List.mem_cons_self rfl
  · exact documented.oid.column_null List.mem_cons_self rfl
  · exact documented.bytea.column_null List.mem_cons_self rfl
  iterate 4 exact text (by decide)
  · exact documented.uuid.column_null List.mem_cons_self rfl
  · exact if_pos ((documented.localTime.gives _).mpr rfl)
  · exact if_pos ((documented.instant.gives _).mpr rfl)

theorem returns (documented : k.Documented) (listed : type ∈ exactTypes) (fits : Fits type v) :
    k.Returns type v := by
  cases fits with
  | null => exact ⟨none,rfl,by simp,fun _ => documented.column_null listed⟩
  | bool b =>
    exact documented.bool.returns_checked List.mem_cons_self Form.isExact_bool rfl rfl Value.noConfusion
  | int2 low high =>
    have held := holds_i16_iff.mpr ⟨low,high⟩
    exact documented.int2.returns List.mem_cons_self Form.isExact_int2 rfl (if_pos held) rfl
      (congrArg _ (toInt64_toInt16 low high)) Value.noConfusion
  | int4 low high =>
    have held := holds_i32_iff.mpr ⟨low,high⟩
    exact documented.int4.returns List.mem_cons_self Form.isExact_int4 rfl (if_pos held) rfl
      (congrArg _ (toInt64_toInt32 low high)) Value.noConfusion
  | int8 n =>
    exact documented.int8.returns_checked List.mem_cons_self Form.isExact_int8 rfl rfl Value.noConfusion
  | oid low high =>
    have held := holds_u32_iff.mpr ⟨low,high⟩
    exact documented.oid.returns List.mem_cons_self Form.isExact_oid rfl (if_pos held) rfl
      (congrArg _ (ofNat_toUInt32 low high)) Value.noConfusion
  | text plain s =>
    have unversioned : ∀ type ∈ plainTextTypes, type ∉ labelTypes := by decide
    have exact : (if type ∈ labelTypes then Form.versioned .text else .text).IsExact := by
      rw [if_neg (unversioned type plain)]
      exact Form.isExact_text
    exact documented.text.returns_checked (mem_textTypes plain) exact rfl (documented.column_text plain)
      Value.noConfusion
  | bytea data =>
    exact documented.bytea.returns_checked List.mem_cons_self Form.isExact_bytea rfl rfl
      Value.noConfusion
  | uuid u =>
    exact documented.uuid.returns_checked List.mem_cons_self Form.isExact_uuid rfl rfl Value.noConfusion
  | timestamp t => exact documented.localTime.returns rfl rfl rfl
  | timestamptz t =>
    have taken := (documented.instant.takes .timestamptz).mpr rfl
    exact documented.instant.returns rfl (if_pos taken) rfl

theorem returns_float (documented : k.Documented) (x : Double) : k.Returns .float8 (.float x) :=
  documented.float8.returns_checked List.mem_cons_self Form.isExact_double rfl rfl Value.noConfusion

theorem fits_of_int (documented : k.Documented) {n : Int64}
    (bound : k.param? type (.int n) = some cell) :
    type = .float4 ∨ type = .float8 ∨ type ∈ exactTypes ∧ Fits type (.int n) := by
  have held {p : Bool} {written : Option (List UInt8)}
      (bound : (if p then written else none).map some = some cell) : p := by
    cases p with
    | true => rfl
    | false => cases bound
  rw [param?] at bound
  unfold int? at bound
  split at bound
  next =>
    obtain ⟨low,high⟩ := holds_i16_iff.mp (held bound)
    exact .inr (.inr ⟨by decide,.int2 low high⟩)
  next =>
    obtain ⟨low,high⟩ := holds_i32_iff.mp (held bound)
    exact .inr (.inr ⟨by decide,.int4 low high⟩)
  next =>
    obtain ⟨low,high⟩ := holds_u32_iff.mp (held bound)
    exact .inr (.inr ⟨by decide,.oid low high⟩)
  next => exact .inl rfl
  next => exact .inr (.inl rfl)
  next =>
    obtain rfl := documented.int8.eq_of_checked bound
    exact .inr (.inr ⟨by decide,.int8 n⟩)

/-- An exact type takes nothing that it cannot hold. -/
theorem fits (documented : k.Documented) (listed : type ∈ exactTypes)
    (bound : k.param? type v = some cell) : Fits type v := by
  cases v with
  | null => exact .null type
  | bool b =>
    obtain rfl := documented.bool.eq_of_checked bound
    exact .bool b
  | int n =>
    rcases documented.fits_of_int bound with rfl | rfl | ⟨-,fits⟩
    · exact absurd listed (by decide)
    · exact absurd listed (by decide)
    · exact fits
  | float x =>
    rw [param?] at bound
    unfold float? at bound
    split at bound
    next => exact absurd listed (by decide)
    next =>
      obtain rfl := documented.float8.eq_of_checked bound
      exact absurd listed (by decide)
  | text s =>
    have plain : ∀ type ∈ textTypes, type ∈ exactTypes → type ∈ plainTextTypes := by decide
    have taken := (documented.text.takes type).mp (Codec.takes_of_checked bound)
    exact .text (plain type taken listed) s
  | bytes data =>
    obtain rfl := documented.bytea.eq_of_checked bound
    exact .bytea data
  | json document =>
    have apart : ∀ type ∈ [WireType.json,.jsonb], type ∉ exactTypes := by decide
    exact absurd listed (apart type ((documented.json type).mp (Codec.takes_of_checked bound)))
  | timestamp t =>
    rw [param?] at bound
    unfold timestamp? at bound
    split at bound
    next => exact .timestamp t
    next =>
      obtain rfl := (documented.instant.takes type).mp (Codec.takes_of_checked bound)
      exact .timestamptz t
  | uuid u =>
    obtain rfl := documented.uuid.eq_of_checked bound
    exact .uuid u

end Codecs.Documented

/-- **Parameters and columns.** An exact type takes the values that it can hold, which `Fits` lists, and
no other; its columns give them back. So do columns of doubles with doubles. An integer that any type
takes comes back as it was, unless it was made a floating-point number. -/
theorem parameters_return {k : Codecs} (documented : k.Documented) :
    (∀ type ∈ exactTypes, ∀ v : Value, ((∃ cell, k.param? type v = some cell) ↔ Fits type v) ∧
      (Fits type v → k.Returns type v)) ∧
    (∀ x : Double, k.Returns .float8 (.float x)) ∧
    (∀ (type : WireType) (n : Int64), (∃ cell, k.param? type (.int n) = some cell) →
      type = .float4 ∨ type = .float8 ∨ k.Returns type (.int n)) := by
  refine ⟨fun type listed v => ⟨⟨fun taken => ?_,fun fits => ?_⟩,documented.returns listed⟩,
    documented.returns_float,fun type n taken => ?_⟩
  · obtain ⟨cell,bound⟩ := taken
    exact documented.fits listed bound
  · obtain ⟨cell,bound,-⟩ := documented.returns listed fits
    exact ⟨cell,bound⟩
  · obtain ⟨cell,bound⟩ := taken
    rcases documented.fits_of_int bound with single | double | ⟨listed,fits⟩
    · exact .inl single
    · exact .inr (.inl double)
    · exact .inr (.inr (documented.returns listed fits))

/-- With the binary form: the least number of two bytes returns, the one after the greatest is refused,
and an instant before 1970 returns. -/
theorem parameters_return_bounds :
    Codecs.binary.Documented ∧ Codecs.binary.Returns .int2 (.int (-32768)) ∧
      Codecs.binary.param? .int2 (.int 32768) = none ∧
      ∃ cell, Codecs.binary.param? .timestamp (.timestamp ⟨-1,999999000,by decide⟩) = some cell ∧
        Codecs.binary.column .timestamp cell = .ok (.timestamp ⟨-1,999999000,by decide⟩) := by
  obtain ⟨exact,-,-⟩ := parameters_return documented_binary
  refine ⟨documented_binary,?_,?_,?_⟩
  · exact (exact .int2 (by decide) _).2 (.int2 (by decide) (by decide))
  · cases bound : Codecs.binary.param? .int2 (.int 32768) with
    | none => rfl
    | some cell =>
      cases (exact .int2 (by decide) _).1.mp ⟨cell,bound⟩ with
      | int2 low high => exact absurd high (by decide)
  · obtain ⟨cell,bound,-,back⟩ :=
      (exact .timestamp (by decide) _).2 (.timestamp ⟨-1,999999000,by decide⟩)
    exact ⟨cell,bound,back fun t same => by cases same; exact ⟨by decide,by decide⟩⟩

end Wire

end ParamSql
