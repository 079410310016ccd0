import Mathlib.Data.List.Basic
import Mathlib.Data.List.Infix

/-!
# Wildcard patterns

A pattern is a list of items in which one item, the star, stands for any list. A matcher
that compares items before it looks for stars cannot let a star begin at an item that is a
star itself: such an item is taken literally. `Opens` is the relation that these matchers
decide, and `Covers` the one that the pattern means.
-/

set_option autoImplicit false

namespace Wirekit.Glob

variable {α : Type}

/-- The text is the pattern with every star replaced by some list, possibly empty. -/
inductive Covers (star : α) : List α → List α → Prop where
  | done : Covers star [] []
  | item {item : α} {pattern text : List α} (plain : item ≠ star) (rest : Covers star pattern text) :
      Covers star (item :: pattern) (item :: text)
  | star {pattern text : List α} (part : List α) (rest : Covers star pattern text) :
      Covers star (star :: pattern) (part ++ text)

/-- The star is replaced by a star alone, or by a list that does not begin with one. -/
def PlainPart (star : α) (part : List α) : Prop := part = [star] ∨ part.head? ≠ some star

/-- `Covers`, where every part that replaces a star is plain. -/
inductive CoversPlainly (star : α) : List α → List α → Prop where
  | done : CoversPlainly star [] []
  | item {item : α} {pattern text : List α} (plain : item ≠ star)
      (rest : CoversPlainly star pattern text) : CoversPlainly star (item :: pattern) (item :: text)
  | star {pattern text : List α} (part : List α) (plain : PlainPart star part)
      (rest : CoversPlainly star pattern text) : CoversPlainly star (star :: pattern) (part ++ text)

theorem CoversPlainly.covers {star : α} {pattern text : List α}
    (covers : CoversPlainly star pattern text) : Covers star pattern text := by
  induction covers with
  | done => exact .done
  | item plain _ ih => exact .item plain ih
  | star part _ _ ih => exact .star part ih

/-- A text is its own pattern. -/
theorem CoversPlainly.self [DecidableEq α] (star : α) (text : List α) : CoversPlainly star text text := by
  induction text with
  | nil => exact .done
  | cons item text ih =>
      by_cases literal : item = star
      · rw [literal]
        exact .star [star] (.inl rfl) ih
      · exact .item literal ih

/-- A text without stars is covered plainly, if it is covered. -/
theorem Covers.plainly {star : α} {pattern text : List α} (covers : Covers star pattern text)
    (starless : star ∉ text) : CoversPlainly star pattern text := by
  induction covers with
  | done => exact .done
  | item plain _ ih => exact .item plain (ih fun member => starless (List.mem_cons_of_mem _ member))
  | star part _ ih =>
      refine .star part (.inr fun head => ?_) (ih fun member => starless (List.mem_append_right _ member))
      exact starless (List.mem_append_left _ (List.mem_of_mem_head? head))

/-- A pattern without stars covers itself only. -/
theorem Covers.eq_of_starless {star : α} {pattern text : List α} (covers : Covers star pattern text)
    (starless : star ∉ pattern) : text = pattern := by
  induction covers with
  | done => rfl
  | @item item pattern text _ _ ih =>
      rw [ih fun member => starless (List.mem_cons_of_mem _ member)]
  | star => exact absurd List.mem_cons_self starless

/-! ## Literal first -/

/-- Equal items are taken together, also when they are stars; a star is opened only in
front of another item, or at the end of the text. -/
inductive Opens (star : α) : List α → List α → Prop where
  | done : Opens star [] []
  | same {item : α} {pattern text : List α} (rest : Opens star pattern text) :
      Opens star (item :: pattern) (item :: text)
  | star {pattern text later : List α} (other : text.head? ≠ some star) (part : later <:+ text)
      (rest : Opens star pattern later) : Opens star (star :: pattern) text

namespace Opens

variable {star : α} {pattern text : List α}

theorem coversPlainly (opens : Opens star pattern text) : CoversPlainly star pattern text := by
  induction opens with
  | done => exact .done
  | @same item pattern text _ ih =>
      by_cases isStar : item = star
      · subst isStar
        exact .star [item] (.inl rfl) ih
      · exact .item isStar ih
  | @star pattern text later other part _ ih =>
      obtain ⟨part, rfl⟩ := part
      refine .star part (.inr fun head => other ?_) ih
      rw [List.head?_append, head]
      rfl

theorem same_iff {item : α} : Opens star (item :: pattern) (item :: text) ↔ Opens star pattern text := by
  constructor
  · intro opens
    cases opens with
    | same rest => exact rest
    | star other _ _ => exact absurd rfl other
  · exact .same

/-- A star that stands for nothing can be put in front. -/
theorem star_cons (opens : Opens star pattern text) : Opens star (star :: pattern) text := by
  induction opens with
  | done => exact .star nofun (List.suffix_refl _) .done
  | @same item pattern text rest ih =>
      by_cases isStar : item = star
      · subst isStar
        exact .same ih
      · refine .star (fun head => isStar ?_) (List.suffix_refl _) (.same rest)
        exact Option.some.inj head
  | star other part rest _ => exact .star other (List.suffix_refl _) (.star other part rest)

/-- A star at the front of the pattern covers a part of the text, whichever way it is taken. -/
theorem behind_star (opens : Opens star (star :: pattern) text) :
    ∃ later, later <:+ text ∧ Opens star pattern later := by
  cases opens with
  | same rest => exact ⟨_, List.suffix_cons _ _, rest⟩
  | star _ part rest => exact ⟨_, part, rest⟩

/-- The exchange argument. The block was matched literally at the front of the text. A match
that begins further back in the same text gets through the block further back, too. -/
theorem exchange {block behind : List α} (opens : Opens star (block ++ pattern) text)
    (later : text <:+ block ++ behind) : ∃ rest, rest <:+ behind ∧ Opens star pattern rest := by
  induction block generalizing text with
  | nil => exact ⟨text, later, opens⟩
  | cons item block ih =>
      rcases List.suffix_cons_iff.mp later with spelled | further
      · -- the two matches stand at one place, where a star could only be taken literally
        rw [spelled] at opens
        cases opens with
        | same rest => exact ih rest (List.suffix_refl _)
        | star other _ _ => exact absurd rfl other
      · cases opens with
        | same rest => exact ih rest ((List.suffix_cons _ _).trans further)
        | star _ part rest => exact ih rest (part.trans further)

end Opens

theorem CoversPlainly.opens {star : α} {pattern text : List α}
    (covers : CoversPlainly star pattern text) : Opens star pattern text := by
  induction covers with
  | done => exact .done
  | item _ _ ih => exact .same ih
  | @star pattern text part plain _ ih =>
      rcases plain with rfl | other
      · exact .same ih
      · cases part with
        | nil => exact ih.star_cons
        | cons item part => exact .star other (List.suffix_append _ _) ih

theorem opens_iff {star : α} {pattern text : List α} :
    Opens star pattern text ↔ CoversPlainly star pattern text :=
  ⟨Opens.coversPlainly, CoversPlainly.opens⟩

theorem opens_nil_iff {star : α} {pattern : List α} :
    Opens star pattern [] ↔ ∀ item ∈ pattern, item = star := by
  constructor
  · intro opens
    induction pattern with
    | nil => simp
    | cons item pattern ih =>
        cases opens with
        | star _ part rest =>
            rw [List.suffix_nil.mp part] at rest
            exact List.forall_mem_cons.mpr ⟨rfl, ih rest⟩
  · intro stars
    induction pattern with
    | nil => exact .done
    | cons item pattern ih =>
        obtain ⟨rfl, others⟩ := List.forall_mem_cons.mp stars
        exact .star nofun (List.suffix_refl _) (ih others)

/-- Where neither the items agree nor a star stands, nothing matches. -/
theorem not_opens_cons {star item : α} {pattern text : List α}
    (differs : pattern.head? ≠ some item) (noStar : pattern.head? ≠ some star) :
    ¬ Opens star pattern (item :: text) := by
  intro opens
  cases opens with
  | same => exact differs rfl
  | star => exact noStar rfl

end Wirekit.Glob
