import RdGateway.Wirekit.Codec

/-!
# UTF-16

Code units of a string of scalar values, and the decoder that reports each
unpaired surrogate on its own and reconsiders the unit behind it.
-/

set_option autoImplicit false

namespace Wirekit

def encodeUtf16Char (scalar : Char) : List UInt16 :=
  if scalar.toNat < 0x10000 then [UInt16.ofNat scalar.toNat]
  else
    let offset := scalar.toNat - 0x10000
    [UInt16.ofNat (0xD800 + offset / 0x400), UInt16.ofNat (0xDC00 + offset % 0x400)]

def encodeUtf16 (scalars : List Char) : List UInt16 :=
  scalars.flatMap encodeUtf16Char

/-- One entry for each scalar value or unpaired surrogate, in order. -/
def decodeUtf16 : List UInt16 → List (Option Char)
  | [] => []
  | unit :: rest =>
      if unit.toNat < 0xD800 ∨ 0xDFFF < unit.toNat then
        some (Char.ofNat unit.toNat) :: decodeUtf16 rest
      else if 0xDC00 ≤ unit.toNat then none :: decodeUtf16 rest
      else
        match rest with
        | [] => [none]
        | low :: tail =>
            if low.toNat < 0xDC00 ∨ 0xDFFF < low.toNat then none :: decodeUtf16 (low :: tail)
            else
              some (Char.ofNat (0x10000 + (unit.toNat - 0xD800) * 0x400 + (low.toNat - 0xDC00))) ::
                decodeUtf16 tail

def fromUtf16 (units : List UInt16) : Option (List Char) :=
  (decodeUtf16 units).mapM id

/-- Lossy decoding writes the replacement character for an unpaired surrogate. -/
def fromUtf16Lossy (units : List UInt16) : List Char :=
  (decodeUtf16 units).map (·.getD '\uFFFD')

theorem decodeUtf16_basic {unit : UInt16} (rest : List UInt16)
    (basic : unit.toNat < 0xD800 ∨ 0xDFFF < unit.toNat) :
    decodeUtf16 (unit :: rest) = some (Char.ofNat unit.toNat) :: decodeUtf16 rest := by
  cases rest <;> simp only [decodeUtf16, if_pos basic]

theorem scalar_cases (scalar : Char) :
    scalar.toNat < 0xD800 ∨ (0xDFFF < scalar.toNat ∧ scalar.toNat < 0x110000) :=
  scalar.valid

/-- An encoded scalar value is read back whole, whatever units follow it. -/
theorem decodeUtf16_encodeChar (scalar : Char) (rest : List UInt16) :
    decodeUtf16 (encodeUtf16Char scalar ++ rest) = some scalar :: decodeUtf16 rest := by
  have cases := scalar_cases scalar
  by_cases basic : scalar.toNat < 0x10000
  · have exact : (UInt16.ofNat scalar.toNat).toNat = scalar.toNat := by
      rw [UInt16.toNat_ofNat', Nat.mod_eq_of_lt basic]
    have plain : scalar.toNat < 0xD800 ∨ 0xDFFF < scalar.toNat := by omega
    rw [encodeUtf16Char, if_pos basic, List.singleton_append, decodeUtf16_basic rest (by rwa [exact]),
      exact, Char.ofNat_toNat]
  · obtain ⟨offset, shifted, bounded⟩ :
        ∃ offset, scalar.toNat = 0x10000 + offset ∧ offset < 0x100000 :=
      ⟨scalar.toNat - 0x10000, by omega, by omega⟩
    have high : (UInt16.ofNat (0xD800 + offset / 0x400)).toNat = 0xD800 + offset / 0x400 := by
      rw [UInt16.toNat_ofNat', Nat.mod_eq_of_lt (by omega)]
    have low : (UInt16.ofNat (0xDC00 + offset % 0x400)).toNat = 0xDC00 + offset % 0x400 := by
      rw [UInt16.toNat_ofNat', Nat.mod_eq_of_lt (by omega)]
    have rejoined : 0x10000 + (0xD800 + offset / 0x400 - 0xD800) * 0x400 +
        (0xDC00 + offset % 0x400 - 0xDC00) = scalar.toNat := by omega
    have surrogate : ¬ (0xD800 + offset / 0x400 < 0xD800 ∨ 0xDFFF < 0xD800 + offset / 0x400) := by
      omega
    have leading : ¬ 0xDC00 ≤ 0xD800 + offset / 0x400 := by omega
    have trailing :
        ¬ (0xDC00 + offset % 0x400 < 0xDC00 ∨ 0xDFFF < 0xDC00 + offset % 0x400) := by omega
    have back : scalar.toNat - 0x10000 = offset := by omega
    simp only [encodeUtf16Char, if_neg basic, back, List.cons_append, List.nil_append, decodeUtf16,
      high, low, if_neg surrogate, if_neg leading, if_neg trailing, rejoined, Char.ofNat_toNat]

theorem decodeUtf16_encode (scalars : List Char) :
    decodeUtf16 (encodeUtf16 scalars) = scalars.map some := by
  induction scalars with
  | nil => rfl
  | cons scalar rest ih =>
      rw [encodeUtf16, List.flatMap_cons, decodeUtf16_encodeChar, List.map_cons]
      exact congrArg _ ih

theorem fromUtf16_encode (scalars : List Char) : fromUtf16 (encodeUtf16 scalars) = some scalars := by
  rw [fromUtf16, decodeUtf16_encode]
  induction scalars with
  | nil => rfl
  | cons scalar rest ih => simp [ih]

theorem fromUtf16Lossy_encode (scalars : List Char) :
    fromUtf16Lossy (encodeUtf16 scalars) = scalars := by
  rw [fromUtf16Lossy, decodeUtf16_encode, List.map_map]
  exact List.map_id scalars

theorem zero_mem_encodeUtf16Char {scalar : Char} :
    (0 : UInt16) ∈ encodeUtf16Char scalar ↔ scalar = '\x00' := by
  constructor
  · intro member
    have cases := scalar_cases scalar
    unfold encodeUtf16Char at member
    split at member
    · next basic =>
      have same := congrArg UInt16.toNat (List.mem_singleton.mp member)
      rw [UInt16.toNat_ofNat', Nat.mod_eq_of_lt basic] at same
      exact Char.toNat_inj.mp same.symm
    · next extended =>
      simp only [List.mem_cons, List.not_mem_nil, or_false] at member
      rcases member with same | same
      all_goals
        have numbers := congrArg UInt16.toNat same
        rw [UInt16.toNat_ofNat', Nat.mod_eq_of_lt (by omega)] at numbers
        change 0 = _ at numbers
        omega
  · rintro rfl
    decide

/-- Cutting the code units at the first zero unit cuts the string at its first U+0000. -/
theorem takeWhile_encodeUtf16 (scalars : List Char) (later : List UInt16) :
    (encodeUtf16 scalars ++ 0 :: later).takeWhile (· != 0) =
      encodeUtf16 (scalars.takeWhile (· != '\x00')) := by
  induction scalars with
  | nil => rfl
  | cons scalar rest ih =>
      simp only [encodeUtf16, List.flatMap_cons, List.append_assoc] at ih ⊢
      by_cases terminator : scalar = '\x00'
      · subst terminator
        rfl
      · have nonzero : ∀ unit ∈ encodeUtf16Char scalar, (unit != 0) = true := by
          intro unit member
          simp only [bne_iff_ne]
          rintro rfl
          exact terminator (zero_mem_encodeUtf16Char.mp member)
        rw [List.takeWhile_append_of_pos nonzero, ih,
          List.takeWhile_cons_of_pos (by simpa using terminator), List.flatMap_cons]

/-! ## Little-endian byte form -/

/-- `chunks_exact(2)` read as little-endian units; an odd last byte is dropped. -/
def unitsOfBytes : Bytes → List UInt16
  | low :: high :: rest => u16Le.decode [low, high] :: unitsOfBytes rest
  | _ => []

def bytesOfUnits (units : List UInt16) : Bytes :=
  units.flatMap u16Le.put

@[simp] theorem bytesOfUnits_length (units : List UInt16) :
    (bytesOfUnits units).length = 2 * units.length := by
  induction units with
  | nil => rfl
  | cons unit rest ih =>
      simp only [bytesOfUnits, List.flatMap_cons, List.length_append, List.length_cons] at ih ⊢
      rw [ih, u16Le.put_length, u16Le_width]
      omega

theorem bytesOfUnits_append (front back : List UInt16) :
    bytesOfUnits (front ++ back) = bytesOfUnits front ++ bytesOfUnits back :=
  List.flatMap_append

@[simp] theorem unitsOfBytes_bytesOfUnits (units : List UInt16) :
    unitsOfBytes (bytesOfUnits units) = units := by
  induction units with
  | nil => rfl
  | cons unit rest ih =>
      obtain ⟨low, high, spelled⟩ := List.length_eq_two.mp (u16Le.put_length unit)
      have decoded := u16Le.decode_put unit
      simp only [bytesOfUnits, List.flatMap_cons, spelled] at ih decoded ⊢
      simp only [List.cons_append, List.nil_append, unitsOfBytes, decoded, ih]

end Wirekit
