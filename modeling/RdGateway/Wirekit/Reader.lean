import RdGateway.Wirekit.Codec

/-!
# Streaming readers

A reader takes a value off the front of a cursor. It is streaming when the bytes behind
what it has read make no difference, and a streaming reader that reads some bytes as a
whole accepts no strict front of them.
-/

set_option autoImplicit false

namespace Wirekit

variable {ε α β : Type}

abbrev Reader (ε α : Type) := Bytes → Outcome ε (α × Bytes)

namespace Reader

def Streaming (read : Reader ε α) : Prop :=
  ∀ buf value rest, read buf = .ok (value, rest) →
    ∀ more, read (buf ++ more) = .ok (value, rest ++ more)

theorem Streaming.pure (value : α) : Streaming (fun buf => (.ok (value, buf) : Outcome ε (α × Bytes))) := by
  intro buf value rest read more
  cases read
  rfl

theorem Streaming.bind {read : Reader ε α} {next : α × Bytes → Outcome ε (β × Bytes)}
    (first : read.Streaming) (continued : ∀ value, Streaming fun rest => next (value, rest)) :
    Streaming fun buf => read buf >>= next := by
  intro buf result rest returned more
  obtain ⟨⟨value, left⟩, begun, ended⟩ := Outcome.bind_eq_ok.mp returned
  exact Outcome.bind_eq_ok.mpr
    ⟨(value, left ++ more), first _ _ _ begun more, continued value _ _ _ ended more⟩

/-- A length check in front of a reader only becomes easier with more bytes. -/
theorem Streaming.guarded {read : Reader ε α} {size : Nat} {error : Bytes → ε} (streaming : read.Streaming) :
    Streaming fun buf => if buf.length < size then .err (error buf) else read buf := by
  intro buf value rest returned more
  dsimp only at returned ⊢
  split at returned
  · cases returned
  · next enough =>
    rw [if_neg (by rw [List.length_append]; omega)]
    exact streaming _ _ _ returned more

theorem Streaming.checked {read : Reader ε α} {condition : Prop} [Decidable condition] {error : ε}
    (streaming : read.Streaming) : Streaming fun buf => if condition then .err error else read buf := by
  intro buf value rest returned more
  dsimp only at returned ⊢
  split at returned
  · cases returned
  · next passed =>
    rw [if_neg passed]
    exact streaming _ _ _ returned more

theorem streaming_get (codec : FixedCodec α) : Streaming (codec.get : Reader ε α) := by
  intro buf value rest read more
  rw [FixedCodec.get_eq_ok] at read ⊢
  rw [read, List.append_assoc]

theorem Streaming.advanced {count : Nat} {next : Reader ε α} (streaming : next.Streaming) :
    Streaming fun buf => advance count buf >>= next := by
  intro buf value rest returned more
  obtain ⟨left, skipped, read⟩ := Outcome.bind_eq_ok.mp returned
  refine Outcome.bind_eq_ok.mpr ⟨left ++ more, ?_, streaming _ _ _ read more⟩
  obtain ⟨front, exact, rfl⟩ := advance_eq_ok.mp skipped
  exact advance_eq_ok.mpr ⟨front, exact, List.append_assoc front left more⟩

/-- Nothing that is cut off is accepted. -/
theorem Streaming.refuses_front {read : Reader ε α} (streaming : read.Streaming) {whole front : Bytes}
    {value : α} (complete : read whole = .ok (value, [])) (starts : front <+: whole)
    (shorter : front.length < whole.length) (other : α) (rest : Bytes) : read front ≠ .ok (other, rest) := by
  intro accepted
  obtain ⟨more, rfl⟩ := starts
  have again := streaming _ _ _ accepted more
  rw [complete] at again
  have left := (Prod.mk.inj (Outcome.ok.inj again)).2
  have none := (List.append_eq_nil_iff.mp left.symm).2
  rw [none, List.append_nil] at shorter
  exact Nat.lt_irrefl _ shorter

end Reader

end Wirekit
