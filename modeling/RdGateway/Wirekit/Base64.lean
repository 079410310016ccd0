import RdGateway.Wirekit.Codec

/-!
# URL-safe base64 without padding

Three bytes as four characters, and a shorter rest as two or three. The reader refuses a
single character behind the last group, and a rest whose unused bits are not zero.
-/

set_option autoImplicit false

namespace Wirekit.Base64Url

def alphabet : List Char :=
  "ABCDEFGHIJKLMNOPQRSTUVWXYZabcdefghijklmnopqrstuvwxyz0123456789-_".toList

def toChar (sextet : Nat) : Char := alphabet.getD sextet 'A'

def ofChar (c : Char) : Option Nat := alphabet.idxOf? c

theorem toChar_mem {sextet : Nat} : toChar sextet ∈ alphabet := by
  rw [toChar, List.getD_eq_getElem?_getD]
  cases found : alphabet[sextet]? with
  | none => decide
  | some c => exact List.mem_of_getElem? found

theorem ofChar_toChar {sextet : Nat} (small : sextet < 64) : ofChar (toChar sextet) = some sextet := by
  have all : ∀ sextet < 64, ofChar (toChar sextet) = some sextet := by decide +kernel
  exact all sextet small

/-- The value of some sextets, the first one highest. -/
def ofSextets : List Nat → Nat := List.foldl (fun value sextet => value * 64 + sextet) 0

def encode : Bytes → List Char
  | a :: b :: c :: rest =>
      let value := a.toNat * 65536 + b.toNat * 256 + c.toNat
      [value / 262144, value / 4096 % 64, value / 64 % 64, value % 64].map toChar ++ encode rest
  | [a, b] =>
      let value := a.toNat * 1024 + b.toNat * 4
      [value / 4096, value / 64 % 64, value % 64].map toChar
  | [a] =>
      let value := a.toNat * 16
      [value / 64, value % 64].map toChar
  | [] => []

def decode : List Char → Option Bytes
  | c₁ :: c₂ :: c₃ :: c₄ :: rest => do
      let value := ofSextets (← [c₁, c₂, c₃, c₄].mapM ofChar)
      let later ← decode rest
      some (.ofNat (value / 65536) :: .ofNat (value / 256) :: .ofNat value :: later)
  | [c₁, c₂, c₃] => do
      let value := ofSextets (← [c₁, c₂, c₃].mapM ofChar)
      if value % 4 = 0 then some [.ofNat (value / 1024), .ofNat (value / 4)] else none
  | [c₁, c₂] => do
      let value := ofSextets (← [c₁, c₂].mapM ofChar)
      if value % 16 = 0 then some [.ofNat (value / 16)] else none
  | [_] => none
  | [] => some []

theorem mem_encode {bytes : Bytes} {c : Char} (member : c ∈ encode bytes) : c ∈ alphabet := by
  induction bytes using encode.induct with
  | case1 a b d rest ih =>
      rw [encode] at member
      rcases List.mem_append.mp member with here | later
      · obtain ⟨sextet, _, rfl⟩ := List.mem_map.mp here
        exact toChar_mem
      · exact ih later
  | case2 a b =>
      obtain ⟨sextet, _, rfl⟩ := List.mem_map.mp member
      exact toChar_mem
  | case3 a =>
      obtain ⟨sextet, _, rfl⟩ := List.mem_map.mp member
      exact toChar_mem
  | case4 => cases member

theorem mapM_toChar {sextets : List Nat} (small : ∀ sextet ∈ sextets, sextet < 64) :
    (sextets.map toChar).mapM ofChar = some sextets := by
  induction sextets with
  | nil => rfl
  | cons sextet sextets ih =>
      obtain ⟨here, later⟩ := List.forall_mem_cons.mp small
      rw [List.map_cons, List.mapM_cons, ofChar_toChar here, ih later]
      rfl

theorem ofNat_eq {value : Nat} {byte : UInt8} (same : value % 256 = byte.toNat) :
    UInt8.ofNat value = byte := by
  rw [← UInt8.toNat_inj, UInt8.toNat_ofNat']
  exact same

theorem decode_encode (bytes : Bytes) : decode (encode bytes) = some bytes := by
  induction bytes using encode.induct with
  | case1 a b c rest ih =>
      have aSmall := a.toNat_lt
      have bSmall := b.toNat_lt
      have cSmall := c.toNat_lt
      generalize read : a.toNat * 65536 + b.toNat * 256 + c.toNat = value
      have sextets := @mapM_toChar [value / 262144, value / 4096 % 64, value / 64 % 64, value % 64]
        (by simp; omega)
      have whole : ofSextets [value / 262144, value / 4096 % 64, value / 64 % 64, value % 64] = value := by
        simp only [ofSextets, List.foldl_cons, List.foldl_nil]
        omega
      simp only [List.map_cons, List.map_nil] at sextets
      simp only [encode, read, List.map_cons, List.map_nil, List.cons_append, List.nil_append, decode]
      rw [sextets, ih]
      simp only [Option.bind_eq_bind, Option.bind_some, whole]
      rw [@ofNat_eq (value / 65536) a (by omega), @ofNat_eq (value / 256) b (by omega),
        @ofNat_eq value c (by omega)]
  | case2 a b =>
      have aSmall := a.toNat_lt
      have bSmall := b.toNat_lt
      generalize read : a.toNat * 1024 + b.toNat * 4 = value
      have sextets := @mapM_toChar [value / 4096, value / 64 % 64, value % 64] (by simp; omega)
      have whole : ofSextets [value / 4096, value / 64 % 64, value % 64] = value := by
        simp only [ofSextets, List.foldl_cons, List.foldl_nil]
        omega
      have unused : value % 4 = 0 := by omega
      simp only [List.map_cons, List.map_nil] at sextets
      simp only [encode, read, List.map_cons, List.map_nil, decode]
      rw [sextets]
      simp only [Option.bind_eq_bind, Option.bind_some, whole]
      rw [if_pos unused, @ofNat_eq (value / 1024) a (by omega), @ofNat_eq (value / 4) b (by omega)]
  | case3 a =>
      have aSmall := a.toNat_lt
      generalize read : a.toNat * 16 = value
      have sextets := @mapM_toChar [value / 64, value % 64] (by simp; omega)
      have whole : ofSextets [value / 64, value % 64] = value := by
        simp only [ofSextets, List.foldl_cons, List.foldl_nil]
        omega
      have unused : value % 16 = 0 := by omega
      simp only [List.map_cons, List.map_nil] at sextets
      simp only [encode, read, List.map_cons, List.map_nil, decode]
      rw [sextets]
      simp only [Option.bind_eq_bind, Option.bind_some, whole]
      rw [if_pos unused, @ofNat_eq (value / 16) a (by omega)]
  | case4 => rfl

end Wirekit.Base64Url
