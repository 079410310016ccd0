import RdGateway.Core.Acl
import RdGateway.Wirekit.Glob
import RdGateway.Wirekit.Loop
import Mathlib.Data.List.TakeWhile

/-!
# What a wildcard pattern matches

`globMatches` compares bytes before it looks for a star. So it decides which hosts a
pattern covers with every star standing for a star alone, or for a part that does not
begin with one. A host that holds a star itself can be covered and not matched.
-/

set_option autoImplicit false

namespace RdGateway.Core

open Wirekit Wirekit.Glob

abbrev starByte : UInt8 := 42

/-! ## The loop with its indexing -/

theorem GlobState.star_lt_succ (state : GlobState) (star : Nat) (seen : state.starIdx = some star) :
    star < state.patternIdx + 1 :=
  Nat.lt_succ_of_lt (state.star_lt star seen)

/-- `pattern_idx += 1` of the second loop. -/
def GlobState.passStar (state : GlobState) : GlobState :=
  { state with patternIdx := state.patternIdx + 1, star_lt := state.star_lt_succ }

/-- `pattern_idx < pattern.len() && pattern[pattern_idx] == byte` -/
def patternHolds {ε : Type} (pattern : Bytes) (state : GlobState) (byte : Outcome ε UInt8) :
    Outcome ε Bool :=
  if state.patternIdx < pattern.length then do
    let found ← index pattern state.patternIdx
    let byte ← byte
    pure (found == byte)
  else pure false

/-- One round of the two loops of `glob_matches`, in which an index out of bounds crashes. -/
def globRound {ε : Type} (pattern candidate : Bytes) (state : GlobState) :
    Outcome ε (Round GlobState Bool) :=
  if state.candidateIdx < candidate.length then do
    if ← patternHolds pattern state (index candidate state.candidateIdx) then
      pure (.next state.matched)
    else if ← patternHolds pattern state (pure starByte) then pure (.next state.enterStar)
    else
      match state.starIdx with
      | some star => pure (.next (state.retry star))
      | none => pure (.done false)
  else do
    if ← patternHolds pattern state (pure starByte) then pure (.next state.passStar)
    else pure (.done (state.patternIdx == pattern.length))

/-- `globMatches` from the middle of its first loop. -/
def globAccepts (pattern candidate : Bytes) (state : GlobState) : Bool :=
  match globLoop pattern candidate state with
  | some patternIdx => (pattern.drop patternIdx).dropWhile (· == starByte) = []
  | none => false

theorem globMatches_eq (pattern candidate : String) :
    globMatches pattern candidate = globAccepts (asciiLower pattern) (asciiLower candidate) .start := rfl

section Rounds

variable {pattern candidate : Bytes} {state : GlobState}

abbrev LiteralHere (pattern candidate : Bytes) (state : GlobState) : Prop :=
  state.patternIdx < pattern.length ∧ pattern[state.patternIdx]? = candidate[state.candidateIdx]?

abbrev StarHere (pattern : Bytes) (state : GlobState) : Prop :=
  state.patternIdx < pattern.length ∧ pattern[state.patternIdx]? = some starByte

theorem globAccepts_matched (more : state.candidateIdx < candidate.length)
    (literal : LiteralHere pattern candidate state) :
    globAccepts pattern candidate state = globAccepts pattern candidate state.matched := by
  rw [globAccepts, globLoop, dif_pos more, if_pos literal, globAccepts]

theorem globAccepts_enterStar (more : state.candidateIdx < candidate.length)
    (differs : ¬ LiteralHere pattern candidate state) (star : StarHere pattern state) :
    globAccepts pattern candidate state = globAccepts pattern candidate state.enterStar := by
  rw [globAccepts, globLoop, dif_pos more, if_neg differs, dif_pos star, globAccepts]

theorem globAccepts_retry {star : Nat} (more : state.candidateIdx < candidate.length)
    (differs : ¬ LiteralHere pattern candidate state) (noStar : ¬ StarHere pattern state)
    (seen : state.starIdx = some star) :
    globAccepts pattern candidate state = globAccepts pattern candidate (state.retry star) := by
  have retried : globLoop pattern candidate state = globLoop pattern candidate (state.retry star) := by
    rw [globLoop, dif_pos more, if_neg differs, dif_neg noStar]
    split
    · next other same =>
      rw [seen] at same
      cases same
      rfl
    · next same =>
      rw [seen] at same
      cases same
  rw [globAccepts, retried, globAccepts]

theorem globAccepts_stuck (more : state.candidateIdx < candidate.length)
    (differs : ¬ LiteralHere pattern candidate state) (noStar : ¬ StarHere pattern state)
    (unseen : state.starIdx = none) : globAccepts pattern candidate state = false := by
  have stuck : globLoop pattern candidate state = none := by
    rw [globLoop, dif_pos more, if_neg differs, dif_neg noStar]
    split
    · next other same =>
      rw [unseen] at same
      cases same
    · rfl
  rw [globAccepts, stuck]

theorem globAccepts_ended (ended : ¬ state.candidateIdx < candidate.length) :
    globAccepts pattern candidate state =
      decide ((pattern.drop state.patternIdx).dropWhile (· == starByte) = []) := by
  rw [globAccepts, globLoop, dif_neg ended]

variable (pattern candidate) in
/-- The cases of one round, with the state that it leaves. -/
theorem globAccepts_induction {motive : GlobState → Prop}
    (matched : ∀ state, state.candidateIdx < candidate.length → LiteralHere pattern candidate state →
      motive state.matched → motive state)
    (enterStar : ∀ state, state.candidateIdx < candidate.length →
      ¬ LiteralHere pattern candidate state → StarHere pattern state →
      motive state.enterStar → motive state)
    (retry : ∀ state star, state.candidateIdx < candidate.length →
      ¬ LiteralHere pattern candidate state → ¬ StarHere pattern state → state.starIdx = some star →
      motive (state.retry star) → motive state)
    (stuck : ∀ state, state.candidateIdx < candidate.length →
      ¬ LiteralHere pattern candidate state → ¬ StarHere pattern state → state.starIdx = none →
      motive state)
    (ended : ∀ state, ¬ state.candidateIdx < candidate.length → motive state) (state : GlobState) :
    motive state := by
  induction state using globLoop.induct pattern candidate with
  | case1 state more literal ih => exact matched state more literal ih
  | case2 state more differs star ih => exact enterStar state more differs star ih
  | case3 state more differs noStar star seen ih => exact retry state star more differs noStar seen ih
  | case4 state more differs noStar unseen => exact stuck state more differs noStar unseen
  | case5 state finished => exact ended state finished

end Rounds

/-! ## The loop ends, and stays in bounds -/

section Halting

variable {ε : Type} {pattern candidate : Bytes} {state : GlobState}

theorem patternHolds_byte (byte : UInt8) :
    patternHolds pattern state (pure byte : Outcome ε UInt8) =
      .ok (decide (state.patternIdx < pattern.length ∧ pattern[state.patternIdx]? = some byte)) := by
  unfold patternHolds
  by_cases inside : state.patternIdx < pattern.length
  · rw [if_pos inside, index, List.getElem?_eq_getElem inside]
    simp [inside, beq_eq_decide]
  · rw [if_neg inside]
    simp [inside]

theorem patternHolds_candidate (more : state.candidateIdx < candidate.length) :
    patternHolds pattern state (index candidate state.candidateIdx : Outcome ε UInt8) =
      .ok (decide (LiteralHere pattern candidate state)) := by
  have found : (index candidate state.candidateIdx : Outcome ε UInt8) =
      pure candidate[state.candidateIdx] := by
    rw [index, List.getElem?_eq_getElem more]
    rfl
  rw [found, patternHolds_byte, ← List.getElem?_eq_getElem more]

/-- Behind the candidate the second loop goes over the stars that are left. -/
theorem globRound_ended (ended : ¬ state.candidateIdx < candidate.length) :
    globRound pattern candidate state =
      (.ok (if StarHere pattern state then .next state.passStar
        else .done (state.patternIdx == pattern.length)) : Outcome ε (Round GlobState Bool)) := by
  rw [globRound, if_neg ended, patternHolds_byte, Outcome.ok_bind]
  by_cases star : StarHere pattern state
  · rw [decide_eq_true star, if_pos rfl, if_pos star]
    rfl
  · rw [decide_eq_false star, if_neg Bool.false_ne_true, if_neg star]
    rfl

theorem globRound_more (more : state.candidateIdx < candidate.length) :
    globRound pattern candidate state =
      (.ok (if LiteralHere pattern candidate state then .next state.matched
        else if StarHere pattern state then .next state.enterStar
        else
          match state.starIdx with
          | some star => .next (state.retry star)
          | none => .done false) : Outcome ε (Round GlobState Bool)) := by
  rw [globRound, if_pos more, patternHolds_candidate more, Outcome.ok_bind]
  by_cases literal : LiteralHere pattern candidate state
  · rw [decide_eq_true literal, if_pos rfl, if_pos literal]
    rfl
  · rw [decide_eq_false literal, if_neg Bool.false_ne_true, if_neg literal, patternHolds_byte,
      Outcome.ok_bind]
    by_cases star : StarHere pattern state
    · rw [decide_eq_true star, if_pos rfl, if_pos star]
      rfl
    · rw [decide_eq_false star, if_neg Bool.false_ne_true, if_neg star]
      cases state.starIdx <;> rfl

theorem drop_of_getElem? {α : Type} {values : List α} {position : Nat} {value : α}
    (found : values[position]? = some value) :
    values.drop position = value :: values.drop (position + 1) := by
  obtain ⟨inside, rfl⟩ := List.getElem?_eq_some_iff.mp found
  exact List.drop_eq_getElem_cons inside

theorem halts_ended (ended : ¬ state.candidateIdx < candidate.length)
    (inside : state.patternIdx ≤ pattern.length) :
    Halts (globRound (ε := ε) pattern candidate) state
      (decide ((pattern.drop state.patternIdx).dropWhile (· == starByte) = [])) := by
  induction left : pattern.length - state.patternIdx generalizing state with
  | zero =>
      have full : state.patternIdx = pattern.length := by omega
      have noStar : ¬ StarHere pattern state := fun star => by omega
      refine .done ?_
      rw [globRound_ended ended, if_neg noStar, full, List.drop_length]
      simp
  | succ left ih =>
      have more : state.patternIdx < pattern.length := by omega
      have spelled := List.drop_eq_getElem_cons more
      by_cases star : StarHere pattern state
      · have found : pattern[state.patternIdx] = starByte := by
          rw [← Option.some.injEq, ← List.getElem?_eq_getElem more]
          exact star.2
        refine .next (by rw [globRound_ended ended, if_pos star]) ?_
        simp only [spelled, found, List.dropWhile_cons, beq_self_eq_true, if_true]
        exact @ih state.passStar ended more (by simp only [GlobState.passStar]; omega)
      · have other : pattern[state.patternIdx] ≠ starByte := by
          intro found
          exact star ⟨more, by rw [List.getElem?_eq_getElem more, found]⟩
        refine .done ?_
        rw [globRound_ended ended, if_neg star, spelled, List.dropWhile_cons_of_neg (by simpa using other)]
        have short : state.patternIdx ≠ pattern.length := Nat.ne_of_lt more
        rw [beq_false_of_ne short, decide_eq_false (List.cons_ne_nil _ _)]

theorem glob_halts (inside : state.patternIdx ≤ pattern.length) :
    Halts (globRound (ε := ε) pattern candidate) state (globAccepts pattern candidate state) := by
  induction state using globAccepts_induction pattern candidate with
  | matched state more literal ih =>
      rw [globAccepts_matched more literal]
      exact .next (by rw [globRound_more more, if_pos literal]) (ih literal.1)
  | enterStar state more differs star ih =>
      rw [globAccepts_enterStar more differs star]
      exact .next (by rw [globRound_more more, if_neg differs, if_pos star]) (ih star.1)
  | retry state star more differs noStar seen ih =>
      rw [globAccepts_retry more differs noStar seen]
      have behind := state.star_lt star seen
      exact .next (by rw [globRound_more more, if_neg differs, if_neg noStar, seen])
        (ih (Nat.le_trans behind inside))
  | stuck state more differs noStar unseen =>
      rw [globAccepts_stuck more differs noStar unseen]
      exact .done (by rw [globRound_more more, if_neg differs, if_neg noStar, unseen])
  | ended state finished =>
      rw [globAccepts_ended finished]
      exact halts_ended finished inside

end Halting

/-! ## What the loop accepts -/

/-- Since the last star was entered, the pattern behind it was matched literally. -/
def BlockMatched (pattern candidate : Bytes) (state : GlobState) : Prop :=
  ∀ star, state.starIdx = some star → ∃ block,
    pattern.drop (star + 1) = block ++ pattern.drop state.patternIdx ∧
      candidate.drop state.backtrackIdx = block ++ candidate.drop state.candidateIdx

/-- A match with the last star covering more than it does. -/
def CanRetry (pattern candidate : Bytes) (state : GlobState) : Prop :=
  ∃ star later, state.starIdx = some star ∧ later <:+ candidate.drop (state.backtrackIdx + 1) ∧
    Opens starByte (pattern.drop (star + 1)) later

section Accepting

variable {pattern candidate : Bytes} {state : GlobState}

/-- A match with the last star covering more comes to the place where the loop stands. -/
theorem CanRetry.exchange (retry : CanRetry pattern candidate state)
    (block : BlockMatched pattern candidate state) :
    ∃ rest, rest <:+ candidate.drop state.candidateIdx ∧
      Opens starByte (pattern.drop state.patternIdx) rest := by
  obtain ⟨star, later, seen, part, opens⟩ := retry
  obtain ⟨block, patternBlock, candidateBlock⟩ := block star seen
  rw [patternBlock] at opens
  refine opens.exchange (part.trans ?_)
  rw [← candidateBlock]
  exact List.drop_suffix_drop_left _ (Nat.le_succ _)

theorem suffix_drop_iff {α : Type} {values later : List α} {position : Nat} :
    later <:+ values.drop position ↔
      later = values.drop position ∨ later <:+ values.drop (position + 1) := by
  rcases Nat.lt_or_ge position values.length with inside | outside
  · rw [List.drop_eq_getElem_cons inside, List.suffix_cons_iff]
  · rw [List.drop_eq_nil_of_le outside, List.drop_eq_nil_of_le (Nat.le_succ_of_le outside),
      List.suffix_nil, or_self]

theorem not_opens_here (more : state.candidateIdx < candidate.length)
    (differs : ¬ LiteralHere pattern candidate state) (noStar : ¬ StarHere pattern state) :
    ¬ Opens starByte (pattern.drop state.patternIdx) (candidate.drop state.candidateIdx) := by
  rw [List.drop_eq_getElem_cons more]
  refine not_opens_cons ?_ ?_
  · rw [List.head?_drop]
    intro same
    obtain ⟨inside, _⟩ := List.getElem?_eq_some_iff.mp same
    exact differs ⟨inside, same.trans (List.getElem?_eq_getElem more).symm⟩
  · rw [List.head?_drop]
    intro same
    obtain ⟨inside, _⟩ := List.getElem?_eq_some_iff.mp same
    exact noStar ⟨inside, same⟩

theorem globAccepts_iff (block : BlockMatched pattern candidate state) :
    globAccepts pattern candidate state = true ↔
      Opens starByte (pattern.drop state.patternIdx) (candidate.drop state.candidateIdx) ∨
        CanRetry pattern candidate state := by
  induction state using globAccepts_induction pattern candidate with
  | matched state more literal ih =>
      obtain ⟨byte, found⟩ : ∃ byte, candidate[state.candidateIdx]? = some byte :=
        ⟨_, List.getElem?_eq_getElem more⟩
      have here := drop_of_getElem? (literal.2.trans found)
      have there := drop_of_getElem? found
      have grown : BlockMatched pattern candidate state.matched := by
        intro star seen
        obtain ⟨block, patternBlock, candidateBlock⟩ := block star seen
        refine ⟨block ++ [byte], ?_, ?_⟩
        · rw [patternBlock, here, List.append_assoc]
          rfl
        · exact candidateBlock.trans (by rw [there, List.append_assoc]; rfl)
      rw [globAccepts_matched more literal, ih grown, here, there, Opens.same_iff]
      rfl
  | enterStar state more differs star ih =>
      obtain ⟨byte, found⟩ : ∃ byte, candidate[state.candidateIdx]? = some byte :=
        ⟨_, List.getElem?_eq_getElem more⟩
      have here := drop_of_getElem? star.2
      have noStar : (candidate.drop state.candidateIdx).head? ≠ some starByte := by
        rw [List.head?_drop]
        exact fun same => differs ⟨star.1, star.2.trans same.symm⟩
      have fresh : BlockMatched pattern candidate state.enterStar := by
        intro star seen
        cases seen
        exact ⟨[], rfl, rfl⟩
      rw [globAccepts_enterStar more differs star, ih fresh]
      constructor
      · intro accepted
        refine .inl ?_
        rw [here]
        rcases accepted with opens | ⟨_, later, seen, part, opens⟩
        · exact .star noStar (List.suffix_refl _) opens
        · cases seen
          exact .star noStar (part.trans (List.drop_suffix_drop_left _ (Nat.le_succ _))) opens
      · intro accepted
        -- what the last star could do by covering more, the new star can do as well
        obtain ⟨rest, part, opens⟩ : ∃ rest, rest <:+ candidate.drop state.candidateIdx ∧
            Opens starByte (pattern.drop state.patternIdx) rest := by
          rcases accepted with opens | retry
          · exact ⟨_, List.suffix_refl _, opens⟩
          · exact retry.exchange block
        rw [here] at opens
        obtain ⟨later, behind, opens⟩ := opens.behind_star
        rcases suffix_drop_iff.mp (behind.trans part) with rfl | further
        · exact .inl opens
        · exact .inr ⟨_, later, rfl, further, opens⟩
  | retry state star more differs noStar seen ih =>
      have fresh : BlockMatched pattern candidate (state.retry star) := by
        intro star seen
        cases seen
        exact ⟨[], rfl, rfl⟩
      rw [globAccepts_retry more differs noStar seen, ih fresh]
      have stuck := not_opens_here more differs noStar
      constructor
      · rintro (opens | ⟨_, later, same, part, opens⟩)
        · exact .inr ⟨star, _, seen, List.suffix_refl _, opens⟩
        · cases same
          exact .inr ⟨star, later, seen, suffix_drop_iff.mpr (.inr part), opens⟩
      · rintro (opens | ⟨_, later, same, part, opens⟩)
        · exact absurd opens stuck
        · rw [seen] at same
          cases same
          rcases suffix_drop_iff.mp part with rfl | further
          · exact .inl opens
          · exact .inr ⟨star, later, rfl, further, opens⟩
  | stuck state more differs noStar unseen =>
      have stuck := not_opens_here more differs noStar
      rw [globAccepts_stuck more differs noStar unseen]
      constructor
      · nofun
      · rintro (opens | ⟨_, _, seen, _⟩)
        · exact absurd opens stuck
        · rw [unseen] at seen
          cases seen
  | ended state finished =>
      have nothing := List.drop_eq_nil_of_le (Nat.le_of_not_lt finished)
      rw [globAccepts_ended finished, nothing, decide_eq_true_iff, List.dropWhile_eq_nil_iff]
      simp only [beq_iff_eq]
      rw [← opens_nil_iff]
      constructor
      · exact .inl
      · rintro (opens | retry)
        · exact opens
        · obtain ⟨rest, part, opens⟩ := retry.exchange block
          rw [nothing] at part
          rw [List.suffix_nil.mp part] at opens
          exact opens

theorem globMatches_iff (pattern candidate : String) :
    globMatches pattern candidate = true ↔
      CoversPlainly starByte (asciiLower pattern) (asciiLower candidate) := by
  have initial : BlockMatched (asciiLower pattern) (asciiLower candidate) .start := nofun
  rw [globMatches_eq, globAccepts_iff initial, ← opens_iff]
  constructor
  · rintro (opens | ⟨_, _, seen, _⟩)
    · exact opens
    · cases seen
  · exact .inl

end Accepting

/-! ## Patterns and hosts -/

/-- The loops end without an index out of bounds, and a host that they accept is covered. -/
theorem glob_sound (pattern candidate : String) :
    Halts (ε := Empty) (globRound (asciiLower pattern) (asciiLower candidate)) .start
        (globMatches pattern candidate) ∧
      (globMatches pattern candidate = true →
        Covers starByte (asciiLower pattern) (asciiLower candidate)) := by
  refine ⟨?_, fun accepted => ?_⟩
  · rw [globMatches_eq]
    exact glob_halts (Nat.zero_le _)
  · exact ((globMatches_iff pattern candidate).mp accepted).covers

theorem glob_sound_example : Covers starByte (asciiLower "*.lan") (asciiLower "A.LAN") := by
  have covers : CoversPlainly starByte (asciiLower "*.lan") (asciiLower "A.LAN") := by
    have pattern : asciiLower "*.lan" = starByte :: [46, 108, 97, 110] := by decide +kernel
    have candidate : asciiLower "A.LAN" = [97] ++ [46, 108, 97, 110] := by decide +kernel
    rw [pattern, candidate]
    exact .star [97] (.inr (by decide))
      (.item (by decide) (.item (by decide) (.item (by decide) (.item (by decide) .done))))
  exact (glob_sound "*.lan" "A.LAN").2 ((globMatches_iff "*.lan" "A.LAN").mpr covers)

theorem asciiLower_star : asciiLower "*" = [starByte] := by decide +kernel

theorem coversPlainly_star_iff {star : UInt8} {text : Bytes} :
    CoversPlainly star [star] text ↔ PlainPart star text := by
  constructor
  · intro covers
    generalize single : [star] = pattern at covers
    cases covers with
    | done => cases single
    | item plain _ =>
        cases single
        exact absurd rfl plain
    | star part plain rest =>
        cases single
        cases rest
        rw [List.append_nil]
        exact plain
  · intro plain
    have covers := CoversPlainly.star text plain .done
    rw [List.append_nil] at covers
    exact covers

/-- A covered host is matched, exactly if it is covered with every star standing for a star
alone or for a part that does not begin with a star. The shortcut for the pattern `*`
differs from the loop on the hosts that are no such part. -/
theorem glob_complete_iff (pattern candidate : String) :
    ((Covers starByte (asciiLower pattern) (asciiLower candidate) →
        globMatches pattern candidate = true) ↔
      (Covers starByte (asciiLower pattern) (asciiLower candidate) →
        CoversPlainly starByte (asciiLower pattern) (asciiLower candidate))) ∧
    (hostMatches "*" candidate = globMatches "*" candidate ↔
      PlainPart starByte (asciiLower candidate)) := by
  constructor
  · rw [globMatches_iff]
  · have shortcut : hostMatches "*" candidate = true := if_pos rfl
    rw [shortcut, eq_comm, globMatches_iff, asciiLower_star, coversPlainly_star_iff]

theorem glob_complete_of_starless {pattern candidate : String}
    (starless : starByte ∉ asciiLower candidate)
    (covers : Covers starByte (asciiLower pattern) (asciiLower candidate)) :
    globMatches pattern candidate = true :=
  (globMatches_iff pattern candidate).mpr (covers.plainly starless)

/-- A host that begins with a star gets past the rule for a whole domain. -/
theorem covered_host_unmatched :
    ¬ ∀ pattern candidate : String,
      Covers starByte (asciiLower pattern) (asciiLower candidate) →
        globMatches pattern candidate = true := by
  intro complete
  have pattern : asciiLower "*.lan" = starByte :: [46, 108, 97, 110] := by decide +kernel
  have candidate : asciiLower "*a.lan" = [starByte, 97] ++ [46, 108, 97, 110] := by decide +kernel
  have covers : Covers starByte (asciiLower "*.lan") (asciiLower "*a.lan") := by
    rw [pattern, candidate]
    exact .star _ (.item (by decide) (.item (by decide) (.item (by decide) (.item (by decide) .done))))
  have opens := ((globMatches_iff "*.lan" "*a.lan").mp (complete _ _ covers)).opens
  rw [pattern, candidate] at opens
  cases opens with
  | same rest => exact not_opens_cons (by decide) (by decide) rest
  | star other _ _ => exact other rfl

end RdGateway.Core
