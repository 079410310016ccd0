import RdGateway.Wirekit.Codec

/-!
# Tagged values

Lists of values behind a tag and a length of 16 bits, up to an empty value under the
tag that ends the list.
-/

set_option autoImplicit false

namespace Wirekit

variable {τ : Type}

structure Tagged (τ : Type) where
  tag : τ
  value : Bytes
  short : value.length < 2 ^ 16

def Tagged.put (tags : FixedCodec τ) (entry : Tagged τ) : Bytes :=
  tags.put entry.tag ++ (u16Le.put (UInt16.ofNat entry.value.length) ++ entry.value)

def readTagged (tags : FixedCodec τ) (buf : Bytes) : Option ((τ × Bytes) × Bytes) :=
  if buf.length < tags.width + 2 then none
  else
    let length := (u16Le.decode ((buf.drop tags.width).take 2)).toNat
    let rest := buf.drop (tags.width + 2)
    if rest.length < length then none
    else some ((tags.decode (buf.take tags.width), rest.take length), rest.drop length)

/-- The values in front of the end of the list, and the bytes behind it. -/
def readTaggedList [DecidableEq τ] (tags : FixedCodec τ) (last : τ) :
    Nat → Bytes → Option (List (τ × Bytes) × Bytes)
  | 0, _ => none
  | fuel + 1, buf =>
      match readTagged tags buf with
      | none => none
      | some ((tag, value), rest) =>
          if tag = last then (if value = [] then some ([], rest) else none)
          else
            match readTaggedList tags last fuel rest with
            | none => none
            | some (entries, rest) => some ((tag, value) :: entries, rest)

theorem Tagged.put_length (tags : FixedCodec τ) (entry : Tagged τ) :
    (entry.put tags).length = tags.width + 2 + entry.value.length := by
  simp only [Tagged.put, List.length_append, FixedCodec.put_length, u16Le_width]
  omega

theorem readTagged_put (tags : FixedCodec τ) (entry : Tagged τ) (rest : Bytes) :
    readTagged tags (entry.put tags ++ rest) = some ((entry.tag, entry.value), rest) := by
  have size := entry.put_length tags
  have tagged : (entry.put tags ++ rest).take tags.width = tags.put entry.tag := by
    rw [Tagged.put, List.append_assoc]
    exact List.take_left' (tags.put_length _)
  have counted : (u16Le.decode (((entry.put tags ++ rest).drop tags.width).take 2)).toNat =
      entry.value.length := by
    have decoded := u16Le.decode_at (tags.put entry.tag) (tags.put_length _)
      (UInt16.ofNat entry.value.length) (entry.value ++ rest)
    rw [u16Le_width] at decoded
    rw [Tagged.put, List.append_assoc, List.append_assoc, decoded, UInt16.toNat_ofNat',
      Nat.mod_eq_of_lt entry.short]
  have behind : (entry.put tags ++ rest).drop (tags.width + 2) = entry.value ++ rest := by
    have front : (tags.put entry.tag ++ u16Le.put (UInt16.ofNat entry.value.length)).length =
        tags.width + 2 := by simp
    rw [Tagged.put, ← List.append_assoc, List.append_assoc]
    exact List.drop_left' front
  have long : ¬ (entry.put tags ++ rest).length < tags.width + 2 := by
    rw [List.length_append, size]
    omega
  have whole : ¬ (entry.value ++ rest).length < entry.value.length := by
    rw [List.length_append]
    omega
  rw [readTagged, if_neg long]
  dsimp only
  rw [counted, behind, if_neg whole, tagged, tags.decode_put, List.take_left, List.drop_left]

/-- Entries that are written with the end behind them are read back, and no byte more. -/
theorem readTaggedList_put [DecidableEq τ] (tags : FixedCodec τ) {last : τ} {entries : List (Tagged τ)}
    (inside : ∀ entry ∈ entries, entry.tag ≠ last) {fuel : Nat} (enough : entries.length < fuel)
    (rest : Bytes) :
    readTaggedList tags last fuel
      (entries.flatMap (Tagged.put tags) ++ (Tagged.put tags ⟨last, [], Nat.two_pow_pos 16⟩ ++ rest)) =
        some (entries.map fun entry => (entry.tag, entry.value), rest) := by
  induction entries generalizing fuel with
  | nil =>
      obtain ⟨fuel, rfl⟩ := Nat.exists_eq_add_one.mpr enough
      rw [readTaggedList, List.flatMap_nil, List.nil_append, readTagged_put]
      dsimp only
      rw [if_pos rfl, if_pos rfl]
      rfl
  | cons entry entries ih =>
      obtain ⟨other, inside⟩ := List.forall_mem_cons.mp inside
      obtain ⟨fuel, rfl⟩ := Nat.exists_eq_add_one.mpr (Nat.zero_lt_of_lt enough)
      have later := ih inside (Nat.lt_of_succ_lt_succ enough)
      rw [readTaggedList, List.flatMap_cons, List.append_assoc, readTagged_put]
      dsimp only
      rw [if_neg other, later]
      rfl

end Wirekit
