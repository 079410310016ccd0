import RdGateway.Wirekit.Codec

/-!
# Reading a body frame by frame

A body arrives in frames of any size. A reader collects them in a buffer until it
holds enough bytes. What it has read and what is still to come make up the same
bytes at every moment.
-/

set_option autoImplicit false

namespace Wirekit

inductive BodyFrame where
  | data (bytes : Bytes)
  | trailers
  | failed
deriving Repr, DecidableEq

def bodyBytes : List BodyFrame → Bytes
  | [] => []
  | .data bytes :: rest => bytes ++ bodyBytes rest
  | .trailers :: rest => bodyBytes rest
  | .failed :: _ => []

inductive Filled where
  | enough (buf : Bytes) (body : List BodyFrame)
  | ended (buf : Bytes)
deriving Repr, DecidableEq

/-- Read frames until the buffer holds as many bytes as needed, or the body ends. -/
def fill (needed : Nat) (buf : Bytes) (body : List BodyFrame) : Filled :=
  if needed ≤ buf.length then .enough buf body
  else
    match body with
    | .data bytes :: rest => fill needed (buf ++ bytes) rest
    | .trailers :: rest => fill needed buf rest
    | .failed :: _ => .ended buf
    | [] => .ended buf

/-- The buffer lengths at which a reader can stand between two frames. -/
def stops (filled : Nat) : List BodyFrame → List Nat
  | [] => [filled]
  | .data bytes :: rest => filled :: stops (filled + bytes.length) rest
  | .trailers :: rest => stops filled rest
  | .failed :: _ => [filled]

@[simp] theorem bodyBytes_map_data (frames : List Bytes) :
    bodyBytes (frames.map .data) = frames.flatten := by
  induction frames with
  | nil => rfl
  | cons frame rest ih => simp [bodyBytes, ih]

theorem fill_of_le {needed : Nat} {buf : Bytes} (body : List BodyFrame)
    (enough : needed ≤ buf.length) : fill needed buf body = .enough buf body := by
  unfold fill
  rw [if_pos enough]

theorem self_mem_stops (filled : Nat) (body : List BodyFrame) : filled ∈ stops filled body := by
  induction body with
  | nil => exact List.mem_singleton.mpr rfl
  | cons frame rest ih =>
      cases frame with
      | data bytes => exact List.mem_cons_self
      | trailers => exact ih
      | failed => exact List.mem_singleton.mpr rfl

/-- A filled buffer loses no byte, and stands where a frame ended. -/
theorem fill_enough {needed : Nat} {buf filledBuf : Bytes} {body rest : List BodyFrame}
    (filled : fill needed buf body = .enough filledBuf rest) :
    needed ≤ filledBuf.length ∧ filledBuf ++ bodyBytes rest = buf ++ bodyBytes body ∧
      ∀ stop ∈ stops filledBuf.length rest, stop ∈ stops buf.length body := by
  induction body generalizing buf with
  | nil =>
      unfold fill at filled
      split at filled
      · next enough =>
        cases filled
        exact ⟨enough, rfl, fun _ member => member⟩
      · cases filled
  | cons frame later ih =>
      unfold fill at filled
      split at filled
      · next enough =>
        cases filled
        exact ⟨enough, rfl, fun _ member => member⟩
      · cases frame with
        | data bytes =>
            obtain ⟨enough, same, within⟩ := ih filled
            refine ⟨enough, by simpa [bodyBytes] using same, fun stop member => ?_⟩
            have later := within stop member
            rw [List.length_append] at later
            exact List.mem_cons_of_mem _ later
        | trailers => exact ih filled
        | failed => cases filled

theorem fill_ended {needed : Nat} {buf filledBuf : Bytes} {body : List BodyFrame}
    (filled : fill needed buf body = .ended filledBuf) :
    filledBuf.length < needed ∧ filledBuf = buf ++ bodyBytes body := by
  induction body generalizing buf with
  | nil =>
      unfold fill at filled
      split at filled
      · cases filled
      · next short =>
        cases filled
        exact ⟨Nat.lt_of_not_le short, by simp [bodyBytes]⟩
  | cons frame later ih =>
      unfold fill at filled
      split at filled
      · cases filled
      · next short =>
        cases frame with
        | data bytes =>
            obtain ⟨still, same⟩ := ih filled
            exact ⟨still, by simpa [bodyBytes] using same⟩
        | trailers => exact ih filled
        | failed =>
            cases filled
            exact ⟨Nat.lt_of_not_le short, by simp [bodyBytes]⟩

/-- Whether a buffer can be filled depends on the bytes only, not on the frames. -/
theorem fill_total (needed : Nat) (buf : Bytes) (body : List BodyFrame) :
    (needed ≤ (buf ++ bodyBytes body).length ∧
      ∃ filledBuf rest, fill needed buf body = .enough filledBuf rest) ∨
    ((buf ++ bodyBytes body).length < needed ∧
      fill needed buf body = .ended (buf ++ bodyBytes body)) := by
  cases filled : fill needed buf body with
  | enough filledBuf rest =>
      obtain ⟨enough, same, _⟩ := fill_enough filled
      refine .inl ⟨?_, filledBuf, rest, rfl⟩
      rw [← same, List.length_append]
      omega
  | ended filledBuf =>
      obtain ⟨short, same⟩ := fill_ended filled
      rw [same] at short
      exact .inr ⟨short, by rw [same]⟩

/-- Taking bytes off the front of the buffer shifts the places where it stands. -/
theorem mem_stops_drop {taken filled stop : Nat} {body : List BodyFrame} (inside : taken ≤ filled)
    (member : stop ∈ stops (filled - taken) body) : stop + taken ∈ stops filled body := by
  induction body generalizing filled with
  | nil =>
      have same : stop = filled - taken := List.mem_singleton.mp member
      have back : stop + taken = filled := by omega
      rw [back]
      exact List.mem_singleton.mpr rfl
  | cons frame rest ih =>
      cases frame with
      | data bytes =>
          cases member with
          | head =>
              have back : filled - taken + taken = filled := by omega
              rw [back]
              exact List.mem_cons_self
          | tail _ later =>
              have moved : filled - taken + bytes.length = filled + bytes.length - taken := by omega
              rw [moved] at later
              exact List.mem_cons_of_mem _ (ih (by omega) later)
      | trailers => exact ih inside member
      | failed =>
          have same : stop = filled - taken := List.mem_singleton.mp member
          have back : stop + taken = filled := by omega
          rw [back]
          exact List.mem_singleton.mpr rfl

end Wirekit
