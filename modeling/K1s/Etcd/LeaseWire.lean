import Mathlib

/-!
# Messages about leases

The lease client writes and reads the protocol buffers of etcd's lease service itself.  A
value that it skips need not be there in full: the position is moved past the end of the
bytes, where the loop ends.
-/

namespace K1s
namespace Etcd

/-! ## Writing and reading -/

/-- The loop of `_encode_varint`. -/
def varintLoop (raw : Int) : List UInt8 :=
  if 0x7F < raw then UInt8.ofNat ((raw % 128).toNat + 128) :: varintLoop (raw / 128)
  else [UInt8.ofNat (raw % 128).toNat]
termination_by raw.toNat
decreasing_by omega

def encodeVarint (value : Int) : List UInt8 :=
  varintLoop (if value < 0 then value + 2 ^ 64 else value)

/-- The loop of `_decode_varint`: the value, and the bytes after it. -/
def varintFrom (shift value : Nat) : List UInt8 → Except String (Nat × List UInt8)
  | [] => .error "invalid protobuf varint"
  | chunk :: rest =>
      let value := value ||| (chunk.toNat % 128) <<< shift
      if chunk.toNat < 128 then .ok (value, rest)
      else if 64 ≤ shift + 7 then .error "invalid protobuf varint"
      else varintFrom (shift + 7) value rest

def decodeVarint (data : List UInt8) : Except String (Nat × List UInt8) :=
  varintFrom 0 0 data

/-- `_skip_wire_value`: a position after the end leaves no bytes. -/
def skipWireValue (data : List UInt8) (wireType : Nat) : Except String (List UInt8) :=
  if wireType = 0 then do
    let (_, data) ← decodeVarint data
    return data
  else if wireType = 1 then return data.drop 8
  else if wireType = 2 then do
    let (size, data) ← decodeVarint data
    return data.drop size
  else if wireType = 5 then return data.drop 4
  else throw s!"unsupported protobuf wire type {wireType}"

def encodeLeaseGrantRequest (ttlSeconds leaseId : Int) : List UInt8 :=
  encodeVarint 0x08 ++ encodeVarint ttlSeconds ++
    if leaseId ≠ 0 then encodeVarint 0x10 ++ encodeVarint leaseId else []

def encodeLeaseKeepaliveRequest (leaseId : Int) : List UInt8 :=
  encodeVarint 0x08 ++ encodeVarint leaseId

def encodeLeaseRevokeRequest (leaseId : Int) : List UInt8 :=
  encodeVarint 0x08 ++ encodeVarint leaseId

/-- What a response has said so far. -/
structure Lease where
  leaseId : Nat := 0
  ttl : Nat := 0
  deriving DecidableEq

/-- The body of the loop over a response. -/
def decodeField (lease : Lease) (data : List UInt8) : Except String (Lease × List UInt8) := do
  let (tag, data) ← decodeVarint data
  let fieldNum := tag / 8
  let wireType := tag % 8
  if fieldNum = 2 ∧ wireType = 0 then
    let (leaseId, data) ← decodeVarint data
    return ({ lease with leaseId }, data)
  else if fieldNum = 3 ∧ wireType = 0 then
    let (ttl, data) ← decodeVarint data
    return ({ lease with ttl }, data)
  else
    let data ← skipWireValue data wireType
    return (lease, data)

theorem length_varintFrom
    {data rest : List UInt8} {shift value result : Nat}
    (read : varintFrom shift value data = .ok (result, rest)) :
    rest.length < data.length := by
  induction data generalizing shift value with
  | nil => cases read
  | cons chunk others ih =>
      rw [varintFrom] at read
      split at read
      · cases read
        exact Nat.lt_succ_self _
      · split at read
        · cases read
        · exact (ih read).trans (Nat.lt_succ_self _)

theorem length_skipWireValue
    {data rest : List UInt8} {wireType : Nat}
    (skipped : skipWireValue data wireType = .ok rest) : rest.length ≤ data.length := by
  unfold skipWireValue at skipped
  have drop_le : ∀ count, (data.drop count).length ≤ data.length := fun count => by simp
  split at skipped
  · cases read : decodeVarint data <;> rw [read] at skipped <;> cases skipped
    exact (length_varintFrom read).le
  · split at skipped
    · cases skipped
      exact drop_le 8
    · split at skipped
      · cases read : decodeVarint data <;> rw [read] at skipped <;> cases skipped
        rw [List.length_drop]
        exact (Nat.sub_le _ _).trans (length_varintFrom read).le
      · split at skipped <;> cases skipped
        exact drop_le 4

/-- Every turn of the loop uses up a byte. -/
theorem length_decodeField
    {lease next : Lease} {data rest : List UInt8}
    (read : decodeField lease data = .ok (next, rest)) : rest.length < data.length := by
  unfold decodeField at read
  cases tagged : decodeVarint data with
  | error text => rw [tagged] at read; cases read
  | ok tag =>
      have shorter := length_varintFrom tagged
      rw [tagged] at read
      simp only [bind, Except.bind, pure, Except.pure] at read
      split at read
      · cases valued : decodeVarint tag.2 <;> rw [valued] at read <;> cases read
        exact (length_varintFrom valued).trans shorter
      · split at read
        · cases valued : decodeVarint tag.2 <;> rw [valued] at read <;> cases read
          exact (length_varintFrom valued).trans shorter
        · cases skipped : skipWireValue tag.2 (tag.1 % 8) <;> rw [skipped] at read <;> cases read
          exact (length_skipWireValue skipped).trans_lt shorter

/-- The loop over a response. -/
def decodeFields (lease : Lease) (data : List UInt8) : Except String Lease :=
  if data.isEmpty then .ok lease
  else
    match _read : decodeField lease data with
    | .error text => .error text
    | .ok (lease, data) => decodeFields lease data
termination_by data.length
decreasing_by exact length_decodeField (by assumption)

/-- The two decoders differ in the text about a missing lease. -/
def decodeLease (missing : String) (data : List UInt8) : Except String (Nat × Nat) := do
  let lease ← decodeFields {} data
  if lease.leaseId ≤ 0 then throw missing
  return (lease.leaseId, lease.ttl)

def decodeLeaseGrantResponse : List UInt8 → Except String (Nat × Nat) :=
  decodeLease "etcd lease grant failed: missing lease id"

def decodeLeaseKeepaliveResponse : List UInt8 → Except String (Nat × Nat) :=
  decodeLease "etcd lease keepalive failed: missing lease id"

/-! ## Varints -/

/-- The number whose groups of seven bits are these, the lowest first. -/
def groupsValue : List UInt8 → Nat
  | [] => 0
  | chunk :: rest => chunk.toNat % 128 + 128 * groupsValue rest

/-- At most ten bytes with a value, of which all but the last have the high bit. -/
structure VarintOf (bytes : List UInt8) (value : Nat) : Prop where
  ended : ∃ front last, bytes = front ++ [last] ∧ (∀ chunk ∈ front, ¬ chunk.toNat < 128) ∧
    last.toNat < 128
  short : bytes.length ≤ 10
  valued : groupsValue bytes = value

theorem varintFrom_groups
    {front : List UInt8} {last : UInt8} (continued : ∀ chunk ∈ front, ¬ chunk.toNat < 128)
    (ends : last.toNat < 128) {count value : Nat} (short : count + front.length < 10)
    (small : value < 2 ^ (7 * count)) (rest : List UInt8) :
    varintFrom (7 * count) value (front ++ last :: rest) =
      .ok (value + 2 ^ (7 * count) * groupsValue (front ++ [last]), rest) := by
  have added : ∀ group : Nat,
      value ||| group <<< (7 * count) = value + 2 ^ (7 * count) * group := by
    intro group
    rw [Nat.shiftLeft_eq, Nat.or_comm, Nat.mul_comm, ← Nat.two_pow_add_eq_or_of_lt small,
      Nat.add_comm]
  induction front generalizing count value with
  | nil => simp [varintFrom, ends, groupsValue, added]
  | cons chunk others ih =>
      rw [List.forall_mem_cons] at continued
      rw [List.length_cons] at short
      have room : ¬ 64 ≤ 7 * count + 7 := by omega
      have grown : 2 ^ (7 * (count + 1)) = 2 ^ (7 * count) * 128 := by
        rw [Nat.mul_succ, Nat.pow_add]
      have smaller : value + 2 ^ (7 * count) * (chunk.toNat % 128) < 2 ^ (7 * (count + 1)) := by
        have := Nat.mul_le_mul_left (2 ^ (7 * count)) (Nat.mod_lt chunk.toNat (by omega : 0 < 128))
        rw [grown]
        grind
      rw [List.cons_append, varintFrom, added]
      simp only [continued.1, if_false, room]
      rw [← Nat.mul_succ, ih continued.2 (by omega) smaller, List.cons_append,
        groupsValue, grown]
      · congr 2
        ring
      · intro group
        rw [Nat.shiftLeft_eq, Nat.or_comm, Nat.mul_comm, ← Nat.two_pow_add_eq_or_of_lt smaller,
          Nat.add_comm]

theorem VarintOf.decode
    {bytes : List UInt8} {value : Nat} (varint : VarintOf bytes value) (rest : List UInt8) :
    decodeVarint (bytes ++ rest) = .ok (value, rest) := by
  obtain ⟨⟨front, last, rfl, continued, ends⟩, short, rfl⟩ := varint
  rw [List.length_append, List.length_singleton] at short
  simpa [decodeVarint] using
    varintFrom_groups continued ends (by omega : 0 + front.length < 10) Nat.zero_lt_one rest

theorem varintFrom_continued
    {bytes : List UInt8} (continued : ∀ chunk ∈ bytes, ¬ chunk.toNat < 128) (shift value : Nat) :
    varintFrom shift value bytes = .error "invalid protobuf varint" := by
  induction bytes generalizing shift value with
  | nil => rfl
  | cons chunk others ih =>
      rw [List.forall_mem_cons] at continued
      rw [varintFrom]
      simp only [continued.1, if_false]
      split
      · rfl
      · exact ih continued.2 _ _

theorem VarintOf.decode_take
    {bytes : List UInt8} {value kept : Nat} (varint : VarintOf bytes value)
    (cut : kept < bytes.length) :
    decodeVarint (bytes.take kept) = .error "invalid protobuf varint" := by
  obtain ⟨front, last, rfl, continued, _⟩ := varint.ended
  rw [List.length_append, List.length_singleton, Nat.lt_succ_iff] at cut
  rw [List.take_append_of_le_length cut]
  exact varintFrom_continued (fun chunk inside => continued chunk (List.mem_of_mem_take inside)) _ _

theorem varintLoop_groups {raw count : Nat} (small : raw < 2 ^ (7 * (count + 1))) :
    ∃ front last, varintLoop raw = front ++ [last] ∧ (∀ chunk ∈ front, ¬ chunk.toNat < 128) ∧
      last.toNat < 128 ∧ front.length ≤ count ∧ groupsValue (front ++ [last]) = raw := by
  induction count generalizing raw with
  | zero =>
      have single : varintLoop raw = [UInt8.ofNat raw] := by
        rw [varintLoop, if_neg (by omega)]
        congr 2
        omega
      have byte : (UInt8.ofNat raw).toNat = raw := by
        rw [UInt8.toNat_ofNat']
        omega
      refine ⟨[], UInt8.ofNat raw, single, by simp, by omega, le_rfl, ?_⟩
      simp only [List.nil_append, groupsValue, byte]
      omega
  | succ count ih =>
      by_cases large : 0x7F < raw
      · have divided : raw / 128 < 2 ^ (7 * (count + 1)) := by
          rw [Nat.div_lt_iff_lt_mul (by omega), ← Nat.pow_add (n := 7)]
          exact small
        obtain ⟨front, last, written, continued, ends, short, valued⟩ :=
          ih divided
        have byte : (UInt8.ofNat (raw % 128 + 128)).toNat = raw % 128 + 128 := by
          rw [UInt8.toNat_ofNat']
          omega
        refine ⟨UInt8.ofNat (raw % 128 + 128) :: front, last, ?_, ?_, ends, by simpa using short, ?_⟩
        · rw [varintLoop, if_pos (by omega), List.cons_append, ← written]
          congr 2
        · rw [List.forall_mem_cons]
          exact ⟨by omega, continued⟩
        · rw [List.cons_append, groupsValue, valued, byte]
          omega
      · have low : raw < 2 ^ (7 * (count + 1)) := by
          have : 2 ^ 7 ≤ 2 ^ (7 * (count + 1)) := Nat.pow_le_pow_right (by omega) (by omega)
          omega
        obtain ⟨front, last, written, continued, ends, short, valued⟩ := ih low
        exact ⟨front, last, written, continued, ends, short.trans (Nat.le_succ _), valued⟩

/-- A number of 64 bits is written as its two's complement. -/
theorem varintOf_encodeVarint (value : BitVec 64) :
    VarintOf (encodeVarint value.toInt) value.toNat := by
  have raw : encodeVarint value.toInt = varintLoop value.toNat := by
    rw [encodeVarint]
    congr 1
    have := value.isLt
    rw [BitVec.toInt_eq_toNat_cond]
    split <;> split <;> omega
  have bounded : value.toNat < 2 ^ (7 * (9 + 1)) := value.isLt.trans (by norm_num)
  obtain ⟨front, last, written, continued, ends, short, valued⟩ := varintLoop_groups bounded
  rw [raw]
  refine ⟨⟨front, last, written, continued, ends⟩, ?_, written ▸ valued⟩
  rw [written, List.length_append]
  exact Nat.succ_le_succ short

/-! ## Messages -/

/-- A value after its tag, of one of the wire types that `_skip_wire_value` knows. -/
inductive WireValue
  | varint (bytes : List UInt8) (value : Nat) (encoded : VarintOf bytes value)
  | fixed64 (bytes : List UInt8) (full : bytes.length = 8)
  | delimited (size bytes : List UInt8) (encoded : VarintOf size bytes.length)
  | fixed32 (bytes : List UInt8) (full : bytes.length = 4)

namespace WireValue

def wireType : WireValue → Nat
  | .varint .. => 0
  | .fixed64 .. => 1
  | .delimited .. => 2
  | .fixed32 .. => 5

theorem wireType_lt (value : WireValue) : value.wireType < 8 := by
  cases value <;> simp [wireType]

/-- What the decoder reads of a value. -/
def read : WireValue → List UInt8
  | .varint bytes .. => bytes
  | .delimited size .. => size
  | _ => []

/-- What the decoder only moves past. -/
def skipped : WireValue → List UInt8
  | .varint .. => []
  | .fixed64 bytes _ | .delimited _ bytes _ | .fixed32 bytes _ => bytes

end WireValue

/-- A field of a message, with the bytes of its tag. -/
structure Field where
  number : Nat
  value : WireValue
  tag : List UInt8
  tagged : VarintOf tag (number * 8 + value.wireType)

namespace Field

def head (field : Field) : List UInt8 := field.tag ++ field.value.read

def bytes (field : Field) : List UInt8 := field.head ++ field.value.skipped

/-- What is known of the lease after the field. -/
def update (lease : Lease) (field : Field) : Lease :=
  match field.number, field.value with
  | 2, .varint _ leaseId _ => { lease with leaseId }
  | 3, .varint _ ttl _ => { lease with ttl }
  | _, _ => lease

variable (field : Field) (lease : Lease)

theorem decodeField_head (rest : List UInt8) :
    decodeField lease (field.head ++ rest) =
      .ok (update lease field, rest.drop field.value.skipped.length) := by
  obtain ⟨number, value, tag, tagged⟩ := field
  have small := value.wireType_lt
  have numbered : (number * 8 + value.wireType) / 8 = number := by omega
  have typed : (number * 8 + value.wireType) % 8 = value.wireType := by omega
  have tagRead := tagged.decode (value.read ++ rest)
  simp only [decodeField, head, List.append_assoc, tagRead, bind, Except.bind, numbered, typed]
  cases value with
  | varint bytes amount encoded =>
      have amountRead := encoded.decode rest
      simp only [WireValue.wireType, WireValue.read, amountRead, pure, Except.pure, and_true,
        skipWireValue, if_true, bind, Except.bind]
      grind [update, WireValue.skipped]
  | fixed64 bytes full => simp [WireValue.wireType, WireValue.read, skipWireValue, full, update,
      WireValue.skipped, pure, Except.pure]
  | delimited size bytes encoded =>
      have sizeRead := encoded.decode rest
      simp [WireValue.wireType, WireValue.read, skipWireValue, update, WireValue.skipped, sizeRead,
        pure, Except.pure, bind, Except.bind]
  | fixed32 bytes full => simp [WireValue.wireType, WireValue.read, skipWireValue, full, update,
      WireValue.skipped, pure, Except.pure]

theorem decodeField_take {kept : Nat} (cut : kept < field.head.length) :
    decodeField lease (field.head.take kept) = .error "invalid protobuf varint" := by
  obtain ⟨number, value, tag, tagged⟩ := field
  rw [head, List.length_append] at cut
  by_cases inTag : kept < tag.length
  · rw [head, List.take_append_of_le_length inTag.le, decodeField, tagged.decode_take inTag]
    rfl
  · obtain ⟨within, rfl⟩ := Nat.exists_eq_add_of_le (not_lt.mp inTag)
    have small := value.wireType_lt
    have numbered : (number * 8 + value.wireType) / 8 = number := by omega
    have typed : (number * 8 + value.wireType) % 8 = value.wireType := by omega
    have tagRead := tagged.decode (value.read.take within)
    simp only [decodeField, head, List.take_length_add_append, tagRead, bind, Except.bind,
      numbered, typed]
    cases value with
    | varint bytes amount encoded =>
        have amountCut := encoded.decode_take (by simpa [WireValue.read] using cut : within < _)
        simp [WireValue.wireType, WireValue.read, amountCut, skipWireValue, bind, Except.bind]
    | delimited size bytes encoded =>
        have sizeCut := encoded.decode_take (by simpa [WireValue.read] using cut : within < _)
        simp [WireValue.wireType, WireValue.read, sizeCut, skipWireValue, bind, Except.bind]
    | fixed64 | fixed32 => simp [WireValue.read] at cut

end Field

/-- The bytes of a message. -/
def message (fields : List Field) : List UInt8 := fields.flatMap Field.bytes

/-- The last lease and the last time to live of a message. -/
def lastLease (fields : List Field) : Lease := fields.foldl Field.update {}

section Loop

variable {lease next : Lease} {data rest : List UInt8}

theorem decodeFields_nil : decodeFields lease [] = .ok lease := by
  rw [decodeFields]
  rfl

theorem decodeFields_next
    (some : data ≠ []) (read : decodeField lease data = .ok (next, rest)) :
    decodeFields lease data = decodeFields next rest := by
  rw [decodeFields, if_neg (by simpa using some)]
  split <;> simp_all

theorem decodeFields_refused
    {text : String} (some : data ≠ []) (read : decodeField lease data = .error text) :
    decodeFields lease data = .error text := by
  rw [decodeFields, if_neg (by simpa using some)]
  split <;> simp_all

end Loop

theorem Field.head_ne_nil (field : Field) : field.head ≠ [] := by
  obtain ⟨_, _, tag, _⟩ := field.tagged.ended
  simp [head, tag]

theorem decodeFields_message (fields : List Field) (lease : Lease) (rest : List UInt8) :
    decodeFields lease (message fields ++ rest) =
      decodeFields (fields.foldl Field.update lease) rest := by
  induction fields generalizing lease with
  | nil => rfl
  | cons field others ih =>
      have whole : message (field :: others) ++ rest =
          field.head ++ (field.value.skipped ++ (message others ++ rest)) := by
        simp [message, Field.bytes]
      have first := field.decodeField_head lease (field.value.skipped ++ (message others ++ rest))
      rw [List.drop_left] at first
      rw [whole, decodeFields_next (by simp [field.head_ne_nil]) first, ih]
      rfl

theorem decodeLease_message (missing : String) (fields : List Field) :
    decodeLease missing (message fields) =
      if (lastLease fields).leaseId ≤ 0 then .error missing
      else .ok ((lastLease fields).leaseId, (lastLease fields).ttl) := by
  have read := decodeFields_message fields {} []
  rw [List.append_nil, decodeFields_nil] at read
  rw [decodeLease, read]
  rfl

/-- A message that ends inside a field. -/
structure Truncated where
  fields : List Field
  field : Field
  kept : Nat
  started : 0 < kept
  unfinished : kept < field.bytes.length

namespace Truncated

def bytes (cut : Truncated) : List UInt8 := message cut.fields ++ cut.field.bytes.take cut.kept

def Rejected (missing : String) (cut : Truncated) : Prop :=
  ∃ text, decodeLease missing cut.bytes = .error text

/-- What the decoder reads of the last field decides; what it skips it does not miss. -/
theorem rejected_iff (missing : String) (cut : Truncated) :
    cut.Rejected missing ↔
      cut.kept < cut.field.head.length ∨ (lastLease cut.fields).leaseId = 0 := by
  have begun : cut.field.bytes.take cut.kept ≠ [] := by
    rw [← List.length_pos_iff, List.length_take]
    exact lt_min cut.started (cut.started.trans cut.unfinished)
  rw [Rejected, decodeLease, bytes, decodeFields_message]
  by_cases inHead : cut.kept < cut.field.head.length
  · rw [Field.bytes, List.take_append_of_le_length inHead.le] at begun ⊢
    rw [decodeFields_refused begun (cut.field.decodeField_take _ inHead)]
    exact iff_of_true ⟨_, rfl⟩ (.inl inHead)
  · obtain ⟨within, kept⟩ := Nat.exists_eq_add_of_le (not_lt.mp inHead)
    have skips : (cut.field.value.skipped.take within).drop cut.field.value.skipped.length = [] := by
      simp
    have last := cut.field.decodeField_head (lastLease cut.fields)
      (cut.field.value.skipped.take within)
    have unchanged : Field.update (lastLease cut.fields) cut.field = lastLease cut.fields := by
      have unfinished := cut.unfinished
      rw [Field.bytes, List.length_append] at unfinished
      cases value : cut.field.value with
      | varint bytes amount encoded => simp [value, WireValue.skipped] at unfinished; omega
      | fixed64 | delimited | fixed32 => simp [Field.update, value]
    rw [kept, Field.bytes, List.take_length_add_append] at begun ⊢
    rw [skips, unchanged] at last
    rw [← lastLease, decodeFields_next begun last, decodeFields_nil, ← kept]
    by_cases missed : (lastLease cut.fields).leaseId ≤ 0
    · exact iff_of_true ⟨missing, if_pos missed⟩ (.inr (Nat.le_zero.mp missed))
    · refine iff_of_false ?_ (by omega)
      rintro ⟨text, refused⟩
      rw [show (Except.ok (lastLease cut.fields) >>= _) = _ from if_neg missed] at refused
      cases refused

end Truncated

/-! ## The codec -/

/-- The data are these numbers as varints. -/
def Reads (data : List UInt8) : List Nat → Prop
  | [] => data = []
  | value :: values => ∃ rest, decodeVarint data = .ok (value, rest) ∧ Reads rest values

theorem reads_encodeVarint (values : List (BitVec 64)) :
    Reads (values.flatMap fun value => encodeVarint value.toInt) (values.map BitVec.toNat) := by
  induction values with
  | nil => rfl
  | cons value others ih =>
      exact ⟨_, (varintOf_encodeVarint value).decode _, ih⟩

/-- A field with a number of 64 bits, written as the encoders write theirs. -/
def encodedField
    (number : Nat) (tag value : BitVec 64)
    (tagged : tag.toNat = number * 8) : Field where
  number := number
  value := .varint (encodeVarint value.toInt) value.toNat (varintOf_encodeVarint value)
  tag := encodeVarint tag.toInt
  tagged := tagged ▸ varintOf_encodeVarint tag

/-- What the codec is for: the fields of a request can be read back, a response is read
back, the last lease of a message is the one returned, and a message that ends inside a field
is refused. -/
structure Codec (missing : String) (cut : Truncated) : Prop where
  grant : ∀ ttl leaseId : BitVec 64, Reads (encodeLeaseGrantRequest ttl.toInt leaseId.toInt)
      (0x08 :: ttl.toNat :: if leaseId ≠ 0 then [0x10, leaseId.toNat] else [])
  keepalive : ∀ leaseId : BitVec 64,
    Reads (encodeLeaseKeepaliveRequest leaseId.toInt) [0x08, leaseId.toNat]
  revoke : ∀ leaseId : BitVec 64,
    Reads (encodeLeaseRevokeRequest leaseId.toInt) [0x08, leaseId.toNat]
  response : ∀ leaseId ttl : BitVec 64, leaseId ≠ 0 →
    decodeLease missing (encodeVarint 0x10 ++ encodeVarint leaseId.toInt ++
      encodeVarint 0x18 ++ encodeVarint ttl.toInt) = .ok (leaseId.toNat, ttl.toNat)
  lastFields : ∀ fields, decodeLease missing (message fields) =
    if (lastLease fields).leaseId ≤ 0 then .error missing
    else .ok ((lastLease fields).leaseId, (lastLease fields).ttl)
  refused : cut.Rejected missing

theorem decodeLease_response (missing : String) {leaseId : BitVec 64} (ttl : BitVec 64)
    (granted : leaseId ≠ 0) :
    decodeLease missing (encodeVarint 0x10 ++ encodeVarint leaseId.toInt ++
      encodeVarint 0x18 ++ encodeVarint ttl.toInt) = .ok (leaseId.toNat, ttl.toNat) := by
  have read := decodeLease_message missing
    [encodedField 2 0x10 leaseId rfl, encodedField 3 0x18 ttl rfl]
  have positive : ¬ leaseId.toNat ≤ 0 := by
    simpa [BitVec.toNat_eq] using granted
  rw [lastLease] at read
  simp only [List.foldl_cons, List.foldl_nil, Field.update, encodedField, positive, if_false,
    message, List.flatMap_cons, List.flatMap_nil, Field.bytes, Field.head, WireValue.read,
    WireValue.skipped, List.append_nil, ← List.append_assoc] at read
  exact read

/-- The codec does its work for a message that ends inside a field exactly when the end is
inside the tag, the size or the number of the field, or the message has no lease before it. -/
theorem codec_iff (missing : String) (cut : Truncated) :
    Codec missing cut ↔ cut.kept < cut.field.head.length ∨ (lastLease cut.fields).leaseId = 0 := by
  rw [← cut.rejected_iff missing]
  refine ⟨Codec.refused, fun refused => ⟨fun ttl leaseId => ?_, fun leaseId => ?_,
    fun leaseId => ?_, fun _ ttl granted => decodeLease_response missing ttl granted,
    decodeLease_message missing, refused⟩⟩
  · have written := reads_encodeVarint (0x08 :: ttl :: if leaseId ≠ 0 then [0x10, leaseId] else [])
    by_cases given : leaseId = 0
    · simpa [encodeLeaseGrantRequest, given] using written
    · have nonzero : leaseId.toInt ≠ 0 := fun zero => given (BitVec.eq_of_toInt_eq zero)
      rw [if_pos given] at written ⊢
      simpa [encodeLeaseGrantRequest, given, nonzero] using written
  · simpa [encodeLeaseKeepaliveRequest] using reads_encodeVarint [0x08, leaseId]
  · simpa [encodeLeaseRevokeRequest] using reads_encodeVarint [0x08, leaseId]

/-- Lease 7, and a text of five bytes of which there is none. -/
def cutText : Truncated where
  fields := [encodedField 2 0x10 7 rfl]
  field := ⟨1, .delimited (encodeVarint 5) [0, 0, 0, 0, 0] (varintOf_encodeVarint 5),
    encodeVarint 0x0A, varintOf_encodeVarint 0x0A⟩
  kept := 2
  started := by omega
  unfinished := by
    simp [Field.bytes, Field.head, WireValue.read, WireValue.skipped, encodeVarint, varintLoop]

theorem not_codec_cutText :
    cutText.bytes = [0x10, 0x07, 0x0A, 0x05] ∧
      ¬ Codec "etcd lease grant failed: missing lease id" cutText := by
  have read : cutText.field.head = [0x0A, 0x05] := by
    simp [cutText, Field.head, WireValue.read, encodeVarint, varintLoop]
  constructor
  · simp [Truncated.bytes, Field.bytes, message, cutText, encodedField, Field.head,
      WireValue.read, WireValue.skipped, encodeVarint, varintLoop]
  · intro codec
    have missed := (cutText.rejected_iff _).mp codec.refused
    rw [read] at missed
    revert missed
    decide

end Etcd
end K1s
