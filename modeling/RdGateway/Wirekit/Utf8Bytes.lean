import RdGateway.Wirekit.Codec
import Mathlib.Algebra.BigOperators.Group.List.Basic

/-!
# The bytes of a text

How many bytes a text has in UTF-8, and which of them are below 0x80.
-/

set_option autoImplicit false

namespace Wirekit

theorem utf8_bytes (text : String) : text.toUTF8.data.toList = text.toList.flatMap String.utf8EncodeChar := by
  rw [String.toUTF8, ← String.utf8Encode_toList, List.utf8Encode]
  simp

theorem utf8ByteSize_eq (text : String) : text.utf8ByteSize = (text.toList.map Char.utf8Size).sum := by
  rw [← String.size_toByteArray, ← String.utf8Encode_toList, List.utf8Encode]
  simp [List.length_flatMap]

theorem utf8Size_eq_one {c : Char} : c.utf8Size = 1 ↔ c.toNat < 128 := by
  rw [Char.utf8Size_eq_one_iff, UInt32.le_iff_toNat_le]
  exact Nat.lt_succ_iff.symm

/-- A text has as many bytes as characters exactly when it is ASCII. -/
theorem utf8ByteSize_eq_length {text : String} :
    text.utf8ByteSize = text.toList.length ↔ ∀ c ∈ text.toList, c.toNat < 128 := by
  rw [utf8ByteSize_eq]
  generalize text.toList = chars
  induction chars with
  | nil => simp
  | cons c chars ih =>
      have long : chars.length ≤ (chars.map Char.utf8Size).sum := by
        rw [← List.length_map Char.utf8Size]
        apply List.length_le_sum_of_one_le
        intro size member
        obtain ⟨c, _, rfl⟩ := List.mem_map.mp member
        exact c.utf8Size_pos
      have positive := c.utf8Size_pos
      rw [List.forall_mem_cons, ← ih, ← utf8Size_eq_one, List.map_cons, List.sum_cons, List.length_cons]
      omega

theorem utf8EncodeChar_ascii {c : Char} (ascii : c.toNat < 128) :
    String.utf8EncodeChar c = [UInt8.ofNat c.toNat] :=
  if_pos (Nat.le_of_lt_succ ascii)

theorem utf8EncodeChar_high {c : Char} (high : 128 ≤ c.toNat) :
    ∀ byte ∈ String.utf8EncodeChar c, 128 ≤ byte.toNat := by
  have long : ¬ c.val.toNat ≤ 0x7f := Nat.not_le_of_lt high
  have lead (value : Nat) (front : 192 ≤ value) (fits : value < 256) : 128 ≤ (UInt8.ofNat value).toNat := by
    rw [UInt8.toNat_ofNat', Nat.mod_eq_of_lt fits]
    omega
  have continuation (value : Nat) : 128 ≤ (UInt8.ofNat (value % 64 + 128)).toNat := by
    rw [UInt8.toNat_ofNat', Nat.mod_eq_of_lt (by omega)]
    omega
  dsimp only [String.utf8EncodeChar]
  rw [if_neg long]
  split
  · simp only [List.forall_mem_cons]
    exact ⟨lead _ (by omega) (by omega), continuation _, nofun⟩
  · split
    · simp only [List.forall_mem_cons]
      exact ⟨lead _ (by omega) (by omega), continuation _, continuation _, nofun⟩
    · simp only [List.forall_mem_cons]
      exact ⟨lead _ (by omega) (by omega), continuation _, continuation _, continuation _, nofun⟩

/-- A byte below 0x80 stands for itself, and is no part of another character. -/
theorem mem_utf8EncodeChar {c : Char} {byte : UInt8} (ascii : byte.toNat < 128) :
    byte ∈ String.utf8EncodeChar c ↔ c.toNat = byte.toNat := by
  by_cases small : c.toNat < 128
  · rw [utf8EncodeChar_ascii small, List.mem_singleton, ← UInt8.toNat_inj, UInt8.toNat_ofNat',
      Nat.mod_eq_of_lt (by omega), eq_comm]
  · constructor
    · intro member
      have high := utf8EncodeChar_high (Nat.le_of_not_lt small) byte member
      omega
    · intro same
      omega

theorem mem_utf8_bytes {text : String} {byte : UInt8} (ascii : byte.toNat < 128) :
    byte ∈ text.toUTF8.data.toList ↔ ∃ c ∈ text.toList, c.toNat = byte.toNat := by
  rw [utf8_bytes, List.mem_flatMap]
  exact exists_congr fun c => and_congr_right fun _ => mem_utf8EncodeChar ascii

end Wirekit
