import RdGateway.Wirekit.Outcome

/-!
# Fixed-width byte codecs

A `FixedCodec` writes every value in the same number of bytes, and writing and
reading are inverse in both directions. Reading through `FixedCodec.get` takes
the value off the front of a cursor and crashes on a remainder that is too short.
-/

set_option autoImplicit false

namespace Wirekit

abbrev Bytes := List UInt8

/-! ## Little-endian numbers -/

def leBytes : Nat → Nat → Bytes
  | 0, _ => []
  | width + 1, value => UInt8.ofNat value :: leBytes width (value / 256)

def leNat : Bytes → Nat
  | [] => 0
  | byte :: rest => byte.toNat + 256 * leNat rest

@[simp] theorem leBytes_length (width value : Nat) : (leBytes width value).length = width := by
  induction width generalizing value with
  | zero => rfl
  | succ width ih => simp [leBytes, ih]

theorem leNat_leBytes (width value : Nat) : leNat (leBytes width value) = value % 256 ^ width := by
  induction width generalizing value with
  | zero => simp [leBytes, leNat, Nat.mod_one]
  | succ width ih =>
      have digits : value % (256 * 256 ^ width) = value % 256 + 256 * (value / 256 % 256 ^ width) :=
        Nat.mod_mul
      simp only [leBytes, leNat, ih, Nat.pow_succ, Nat.mul_comm (256 ^ width) 256, digits]
      simp

theorem leBytes_leNat (bytes : Bytes) : leBytes bytes.length (leNat bytes) = bytes := by
  induction bytes with
  | nil => rfl
  | cons byte rest ih =>
      have small := byte.toNat_lt
      have quotient : (byte.toNat + 256 * leNat rest) / 256 = leNat rest := by omega
      have digit : UInt8.ofNat (byte.toNat + 256 * leNat rest) = byte := by
        apply UInt8.toNat_inj.mp
        simp only [UInt8.toNat_ofNat']
        omega
      simp only [List.length_cons, leNat, leBytes, quotient, digit, ih]

theorem leNat_lt (bytes : Bytes) : leNat bytes < 256 ^ bytes.length := by
  induction bytes with
  | nil => simp [leNat]
  | cons byte rest ih =>
      have small := byte.toNat_lt
      simp only [leNat, List.length_cons, Nat.pow_succ]
      omega

/-! ## Codecs -/

structure FixedCodec (α : Type) where
  width : Nat
  put : α → Bytes
  decode : Bytes → α
  put_length : ∀ value, (put value).length = width
  decode_put : ∀ value, decode (put value) = value
  put_decode : ∀ bytes, bytes.length = width → put (decode bytes) = bytes

namespace FixedCodec

variable {ε α β : Type}

attribute [simp] put_length decode_put

def get (codec : FixedCodec α) (buf : Bytes) : Outcome ε (α × Bytes) :=
  if codec.width ≤ buf.length then
    .ok (codec.decode (buf.take codec.width), buf.drop codec.width)
  else .panicked

@[simp] theorem get_put_append (codec : FixedCodec α) (value : α) (rest : Bytes) :
    (codec.get (codec.put value ++ rest) : Outcome ε (α × Bytes)) = .ok (value, rest) := by
  have enough : codec.width ≤ (codec.put value ++ rest).length := by simp
  have front : (codec.put value ++ rest).take codec.width = codec.put value :=
    List.take_left' (codec.put_length value)
  have back : (codec.put value ++ rest).drop codec.width = rest :=
    List.drop_left' (codec.put_length value)
  rw [get, if_pos enough, front, back, codec.decode_put]

@[simp] theorem get_put (codec : FixedCodec α) (value : α) :
    (codec.get (codec.put value) : Outcome ε (α × Bytes)) = .ok (value, []) := by
  have whole : (codec.get (codec.put value ++ []) : Outcome ε (α × Bytes)) = .ok (value, []) :=
    codec.get_put_append value []
  rwa [List.append_nil] at whole

/-- A read succeeds exactly on buffers that start with the encoding of its result. -/
theorem get_eq_ok {codec : FixedCodec α} {buf rest : Bytes} {value : α} :
    (codec.get buf : Outcome ε (α × Bytes)) = .ok (value, rest) ↔ buf = codec.put value ++ rest := by
  constructor
  · intro returned
    unfold get at returned
    split at returned
    · next enough =>
      simp only [Outcome.ok.injEq, Prod.mk.injEq] at returned
      obtain ⟨rfl, rfl⟩ := returned
      rw [codec.put_decode _ (by simp [enough]), List.take_append_drop]
    · cases returned
  · rintro rfl
    exact codec.get_put_append value rest

/-- Bytes that are long enough start with the encoding of some value. -/
theorem exists_put (codec : FixedCodec α) (buf : Bytes) (enough : codec.width ≤ buf.length) :
    ∃ value rest, buf = codec.put value ++ rest := by
  refine ⟨codec.decode (buf.take codec.width), buf.drop codec.width, ?_⟩
  rw [codec.put_decode _ (by simp [enough]), List.take_append_drop]

/-- A value is read back at the offset where it was written. -/
theorem decode_at (codec : FixedCodec α) (front : Bytes) {offset : Nat} (starts : front.length = offset)
    (value : α) (rest : Bytes) :
    codec.decode (((front ++ (codec.put value ++ rest)).drop offset).take codec.width) = value := by
  rw [List.drop_left' starts, List.take_left' (codec.put_length value), codec.decode_put]

theorem get_sat (codec : FixedCodec α) {buf : Bytes} (enough : codec.width ≤ buf.length) :
    Outcome.Sat (fun read => read.2.length = buf.length - codec.width)
      (codec.get buf : Outcome ε (α × Bytes)) := by
  simp [get, enough]

/-- The rule for a read in the middle of a parser: it needs its width, and what
follows sees a cursor that is shorter by that width. -/
theorem bind_sat (codec : FixedCodec α) {size : Nat} (sized : codec.width = size) {buf : Bytes}
    {next : α × Bytes → Outcome ε β} {post : β → Prop} (enough : size ≤ buf.length)
    (continued : ∀ value rest, rest.length = buf.length - size → Outcome.Sat post (next (value, rest))) :
    Outcome.Sat post (codec.get buf >>= next) := by
  subst sized
  exact (codec.get_sat enough).bind fun read shorter => continued read.1 read.2 shorter

def prod (first : FixedCodec α) (second : FixedCodec β) : FixedCodec (α × β) where
  width := first.width + second.width
  put pair := first.put pair.1 ++ second.put pair.2
  decode bytes := (first.decode (bytes.take first.width), second.decode (bytes.drop first.width))
  put_length pair := by simp
  decode_put pair := by
    rw [List.take_left' (first.put_length _), List.drop_left' (first.put_length _)]
    simp
  put_decode bytes exact := by
    rw [first.put_decode _ (by simp; omega), second.put_decode _ (by simp; omega),
      List.take_append_drop]

/-- The same bytes read as another type. -/
def map (codec : FixedCodec α) (wrap : α → β) (unwrap : β → α)
    (wrap_unwrap : ∀ value, wrap (unwrap value) = value)
    (unwrap_wrap : ∀ value, unwrap (wrap value) = value) : FixedCodec β where
  width := codec.width
  put value := codec.put (unwrap value)
  decode bytes := wrap (codec.decode bytes)
  put_length value := by simp
  decode_put value := by rw [codec.decode_put, wrap_unwrap]
  put_decode bytes exact := by rw [unwrap_wrap, codec.put_decode bytes exact]

end FixedCodec

def advance {ε : Type} (count : Nat) (buf : Bytes) : Outcome ε Bytes :=
  if count ≤ buf.length then .ok (buf.drop count) else .panicked

theorem advance_sat {ε : Type} {count : Nat} {buf : Bytes} (enough : count ≤ buf.length) :
    Outcome.Sat (fun rest => rest.length = buf.length - count)
      (advance count buf : Outcome ε Bytes) := by
  simp [advance, enough]

theorem advance_bind_sat {ε β : Type} {count : Nat} {buf : Bytes} {next : Bytes → Outcome ε β}
    {post : β → Prop} (enough : count ≤ buf.length)
    (continued : ∀ rest, rest.length = buf.length - count → Outcome.Sat post (next rest)) :
    Outcome.Sat post (advance count buf >>= next) :=
  (advance_sat enough).bind continued

theorem advance_append {ε : Type} {count : Nat} {front : Bytes} (back : Bytes)
    (exact : front.length = count) :
    (advance count (front ++ back) : Outcome ε Bytes) = .ok back := by
  have enough : count ≤ (front ++ back).length := by simp; omega
  rw [advance, if_pos enough, List.drop_left' exact]

theorem advance_eq_ok {ε : Type} {count : Nat} {buf rest : Bytes} :
    (advance count buf : Outcome ε Bytes) = .ok rest ↔
      ∃ skipped : Bytes, skipped.length = count ∧ buf = skipped ++ rest := by
  constructor
  · intro skipped
    unfold advance at skipped
    split at skipped
    · next enough =>
      cases skipped
      exact ⟨buf.take count, by simp [enough], (List.take_append_drop count buf).symm⟩
    · cases skipped
  · intro holds
    obtain ⟨skipped, exact, rfl⟩ := holds
    exact advance_append rest exact

/-! ## Sequences of known length -/

/-- A counted loop over a cursor, with the remaining number of rounds. -/
def getMany {ε α : Type} (read : Bytes → Outcome ε (α × Bytes)) :
    Nat → Bytes → Outcome ε (List α × Bytes)
  | 0, buf => .ok ([], buf)
  | remaining + 1, buf => do
      let (value, buf) ← read buf
      let (values, buf) ← getMany read remaining buf
      pure (value :: values, buf)

/-- When one item is read exactly from its encoding, a counted sequence is read
exactly from the encodings in order. -/
theorem getMany_eq_ok {ε α : Type} {read : Bytes → Outcome ε (α × Bytes)} {put : α → Bytes}
    (exact : ∀ {buf value rest}, read buf = .ok (value, rest) ↔ buf = put value ++ rest)
    {count : Nat} {buf rest : Bytes} {values : List α} :
    getMany read count buf = .ok (values, rest) ↔
      values.length = count ∧ buf = values.flatMap put ++ rest := by
  induction count generalizing buf values with
  | zero =>
      simp only [getMany, Outcome.ok.injEq, Prod.mk.injEq, List.length_eq_zero_iff]
      constructor
      · intro holds
        obtain ⟨rfl, rfl⟩ := holds
        simp
      · intro holds
        obtain ⟨rfl, rfl⟩ := holds
        simp
  | succ count ih =>
      simp only [getMany, Outcome.bind_eq_ok, Prod.exists, Outcome.pure_eq, Outcome.ok.injEq,
        Prod.mk.injEq, exact]
      constructor
      · intro holds
        obtain ⟨value, tail, rfl, others, tailRest, tailRead, rfl, rfl⟩ := holds
        obtain ⟨counted, rfl⟩ := ih.mp tailRead
        simp [counted]
      · intro holds
        obtain ⟨counted, rfl⟩ := holds
        obtain ⟨value, others, rfl⟩ := List.exists_cons_of_length_eq_add_one counted
        have othersRead := ih.mpr ⟨Nat.succ.inj counted, rfl⟩
        exact ⟨value, others.flatMap put ++ rest, by simp, others, rest, othersRead, rfl, rfl⟩

/-- A counted loop is crash free when its reads are, and like them it never
leaves a longer cursor. -/
theorem getMany_sat {ε α : Type} {read : Bytes → Outcome ε (α × Bytes)}
    (sat : ∀ buf, (read buf).Sat fun item => item.2.length ≤ buf.length) (count : Nat) (buf : Bytes) :
    (getMany read count buf).Sat fun items => items.2.length ≤ buf.length := by
  induction count generalizing buf with
  | zero => exact Nat.le_refl _
  | succ count ih =>
      refine (sat buf).bind fun item itemLeft => ?_
      refine (ih item.2).bind fun items itemsLeft => ?_
      exact Nat.le_trans itemsLeft itemLeft

/-! ## Machine words -/

def u8 : FixedCodec UInt8 where
  width := 1
  put value := [value]
  decode
    | byte :: _ => byte
    | [] => 0
  put_length _ := rfl
  decode_put _ := rfl
  put_decode bytes exact := by
    obtain ⟨byte, rfl⟩ := List.length_eq_one_iff.mp exact
    rfl

/-- The little-endian codec of a word type that counts modulo `256 ^ width`. -/
def littleEndian {α : Type} (width : Nat) (toNat : α → Nat) (ofNat : Nat → α)
    (bounded : ∀ value, toNat value < 256 ^ width) (ofNat_toNat : ∀ value, ofNat (toNat value) = value)
    (toNat_ofNat : ∀ value, toNat (ofNat value) = value % 256 ^ width) : FixedCodec α where
  width := width
  put value := leBytes width (toNat value)
  decode bytes := ofNat (leNat bytes)
  put_length value := leBytes_length width (toNat value)
  decode_put value := by
    rw [leNat_leBytes, Nat.mod_eq_of_lt (bounded value), ofNat_toNat]
  put_decode bytes exact := by
    have small := leNat_lt bytes
    rw [exact] at small
    rw [toNat_ofNat, Nat.mod_eq_of_lt small, ← exact, leBytes_leNat]

def u16Le : FixedCodec UInt16 :=
  littleEndian 2 UInt16.toNat UInt16.ofNat UInt16.toNat_lt (fun _ => UInt16.ofNat_toNat)
    (fun _ => UInt16.toNat_ofNat')

def u32Le : FixedCodec UInt32 :=
  littleEndian 4 UInt32.toNat UInt32.ofNat UInt32.toNat_lt (fun _ => UInt32.ofNat_toNat)
    (fun _ => UInt32.toNat_ofNat')

def u64Le : FixedCodec UInt64 :=
  littleEndian 8 UInt64.toNat UInt64.ofNat UInt64.toNat_lt (fun _ => UInt64.ofNat_toNat)
    (fun _ => UInt64.toNat_ofNat')

def byteArray (size : Nat) : FixedCodec (Vector UInt8 size) where
  width := size
  put value := value.toList
  decode bytes :=
    if exact : bytes.length = size then ⟨bytes.toArray, by simpa using exact⟩
    else Vector.replicate size 0
  put_length value := by simp
  decode_put value := by
    have exact : value.toList.length = size := by simp
    rw [dif_pos exact]
    apply Vector.toArray_inj.mp
    simp [Vector.toList]
  put_decode bytes exact := by simp [exact]

@[simp] theorem u8_width : u8.width = 1 := rfl
@[simp] theorem u16Le_width : u16Le.width = 2 := rfl
@[simp] theorem u32Le_width : u32Le.width = 4 := rfl
@[simp] theorem u64Le_width : u64Le.width = 8 := rfl
@[simp] theorem byteArray_width (size : Nat) : (byteArray size).width = size := rfl

end Wirekit
