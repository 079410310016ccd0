import Mathlib.Data.List.Induction
import Mathlib.Data.List.Perm.Basic
import Mathlib.Order.Lattice

/-!
# The last of the greatest

The element of a list with the greatest key, and of several such elements the last. It
depends on the order of elements with one key only, so a stable sort does not change it.
-/

set_option autoImplicit false

namespace Wirekit

variable {α κ : Type} [LinearOrder κ]

def lastMax (key : α → κ) : List α → Option α
  | [] => none
  | value :: rest =>
      some (rest.foldl (fun best value => if key best ≤ key value then value else best) value)

/-- The value stands behind all values of its key, and no key is greater. -/
def IsLastMax (key : α → κ) (values : List α) (best : α) : Prop :=
  ∃ before after, values = before ++ best :: after ∧
    (∀ value ∈ before, key value ≤ key best) ∧ ∀ value ∈ after, key value < key best

variable {key : α → κ} {values : List α}

theorem lastMax_eq_none : lastMax key values = none ↔ values = [] := by
  cases values <;> simp [lastMax]

theorem lastMax_append_singleton (values : List α) (value : α) :
    lastMax key (values ++ [value]) =
      match lastMax key values with
      | some best => if key best ≤ key value then some value else some best
      | none => some value := by
  cases values with
  | nil => rfl
  | cons first rest =>
      simp only [List.cons_append, lastMax, List.foldl_append, List.foldl_cons, List.foldl_nil]
      split <;> rfl

theorem isLastMax_lastMax {best : α} (found : lastMax key values = some best) :
    IsLastMax key values best := by
  induction values using List.reverseRecOn generalizing best with
  | nil => cases found
  | append_singleton values value ih =>
      rw [lastMax_append_singleton] at found
      cases earlier : lastMax key values with
      | none =>
          rw [earlier] at found
          cases found
          rw [lastMax_eq_none.mp earlier]
          exact ⟨[], [], rfl, by simp, by simp⟩
      | some other =>
          rw [earlier] at found
          obtain ⟨before, after, rfl, low, lower⟩ := ih earlier
          dsimp only at found
          split at found
          · next greater =>
            cases found
            refine ⟨before ++ other :: after, [], rfl, fun value member => ?_, by simp⟩
            rcases List.mem_append.mp member with inFront | behind
            · exact (low value inFront).trans greater
            · rcases List.mem_cons.mp behind with rfl | behind
              · exact greater
              · exact (le_of_lt (lower value behind)).trans greater
          · next smaller =>
            cases found
            refine ⟨before, after ++ [value], by simp, low, fun other member => ?_⟩
            rcases List.mem_append.mp member with inside | last
            · exact lower other inside
            · rw [List.mem_singleton.mp last]
              exact lt_of_not_ge smaller

/-! ## The elements of one key -/

def withKey (key : α → κ) (bound : κ) (values : List α) : List α :=
  values.filter fun value => key value = bound

theorem mem_withKey {bound : κ} {value : α} :
    value ∈ withKey key bound values ↔ value ∈ values ∧ key value = bound := by
  rw [withKey, List.mem_filter, decide_eq_true_iff]

theorem mem_withKey_self {value : α} : value ∈ withKey key (key value) values ↔ value ∈ values := by
  rw [mem_withKey, and_iff_left rfl]

theorem withKey_append (bound : κ) (front back : List α) :
    withKey key bound (front ++ back) = withKey key bound front ++ withKey key bound back :=
  List.filter_append front back

theorem withKey_filter (bound : κ) (values : List α) (keep : α → Bool) :
    withKey key bound (values.filter keep) = (withKey key bound values).filter keep :=
  List.filter_comm _ _ _

namespace IsLastMax

variable {best : α}

theorem mem (isLast : IsLastMax key values best) : best ∈ values := by
  obtain ⟨before, after, rfl, _⟩ := isLast
  exact List.mem_append_right _ List.mem_cons_self

theorem le (isLast : IsLastMax key values best) {value : α} (member : value ∈ values) :
    key value ≤ key best := by
  obtain ⟨before, after, rfl, low, lower⟩ := isLast
  rcases List.mem_append.mp member with inFront | behind
  · exact low value inFront
  · rcases List.mem_cons.mp behind with rfl | behind
    · exact le_refl _
    · exact le_of_lt (lower value behind)

/-- It is the last of the elements with its key. -/
theorem getLast?_withKey (isLast : IsLastMax key values best) :
    (withKey key (key best) values).getLast? = some best := by
  obtain ⟨before, after, rfl, _, lower⟩ := isLast
  have noneBehind : withKey key (key best) after = [] := by
    refine List.filter_eq_nil_iff.mpr fun value member same => ?_
    exact absurd (of_decide_eq_true same) (ne_of_lt (lower value member))
  have here : withKey key (key best) (best :: after) = best :: withKey key (key best) after :=
    List.filter_cons_of_pos (decide_eq_true rfl)
  rw [withKey_append, here, noneBehind, List.getLast?_concat]

end IsLastMax

theorem lastMax_eq_some {best : α} : lastMax key values = some best ↔ IsLastMax key values best := by
  constructor
  · exact isLastMax_lastMax
  · intro isLast
    cases found : lastMax key values with
    | none =>
        have member := isLast.mem
        rw [lastMax_eq_none.mp found] at member
        cases member
    | some other =>
        have isOther := isLastMax_lastMax found
        have same : key best = key other := le_antisymm (isOther.le isLast.mem) (isLast.le isOther.mem)
        have last := isLast.getLast?_withKey
        rw [same, isOther.getLast?_withKey] at last
        exact last

/-- The last maximum of the elements that are kept, in terms of the whole list. -/
theorem isLastMax_filter {keep : α → Bool} {best : α} :
    IsLastMax key (values.filter keep) best ↔
      ∃ before after, values = before ++ best :: after ∧ keep best = true ∧
        (∀ value ∈ before, keep value = true → key value ≤ key best) ∧
        ∀ value ∈ after, keep value = true → key value < key best := by
  constructor
  · intro holds
    obtain ⟨before, after, kept, low, lower⟩ := holds
    obtain ⟨front, back, rfl, rfl, rest⟩ := List.filter_eq_append_iff.mp kept
    obtain ⟨dropped, later, rfl, none, here, rfl⟩ := List.filter_eq_cons_iff.mp rest
    refine ⟨front ++ dropped, later, by simp, here, fun value member keeps => ?_,
      fun value member keeps => lower value (List.mem_filter.mpr ⟨member, keeps⟩)⟩
    rcases List.mem_append.mp member with inFront | inDropped
    · exact low value (List.mem_filter.mpr ⟨inFront, keeps⟩)
    · exact absurd keeps (none value inDropped)
  · intro holds
    obtain ⟨before, after, rfl, here, low, lower⟩ := holds
    refine ⟨before.filter keep, after.filter keep, ?_, fun value member => ?_, fun value member => ?_⟩
    · rw [List.filter_append, List.filter_cons_of_pos here]
    · obtain ⟨inside, keeps⟩ := List.mem_filter.mp member
      exact low value inside keeps
    · obtain ⟨inside, keeps⟩ := List.mem_filter.mp member
      exact lower value inside keeps

/-- The last maximum stays the last maximum where it is kept. -/
theorem lastMax_filter_of_keep {keep : α → Bool} {best : α} (found : lastMax key values = some best)
    (kept : keep best = true) : lastMax key (values.filter keep) = some best := by
  obtain ⟨before, after, rfl, low, lower⟩ := lastMax_eq_some.mp found
  exact lastMax_eq_some.mpr (isLastMax_filter.mpr
    ⟨before, after, rfl, kept, fun value member _ => low value member, fun value member _ => lower value member⟩)

/-- Two choices of elements have one last maximum if the last maximum of both together is in
both. -/
theorem lastMax_filter_congr {keep other : α → Bool}
    (both : ∀ best, lastMax key (values.filter fun value => keep value || other value) = some best →
      keep best = other best) :
    lastMax key (values.filter keep) = lastMax key (values.filter other) := by
  have first : values.filter keep = (values.filter fun value => keep value || other value).filter keep := by
    rw [List.filter_filter]
    exact List.filter_congr fun value _ => by cases keep value <;> rfl
  have second : values.filter other = (values.filter fun value => keep value || other value).filter other := by
    rw [List.filter_filter]
    exact List.filter_congr fun value _ => by cases keep value <;> cases other value <;> rfl
  rw [first, second]
  cases found : lastMax key (values.filter fun value => keep value || other value) with
  | none => rw [lastMax_eq_none.mp found]; rfl
  | some best =>
      have same := both best found
      have chosen := (List.mem_filter.mp (lastMax_eq_some.mp found).mem).2
      rw [same, Bool.or_self] at chosen
      rw [lastMax_filter_of_keep found (same.trans chosen), lastMax_filter_of_keep found chosen]

theorem lastMax_map {β : Type} (key : β → κ) (change : α → β) (values : List α) :
    lastMax key (values.map change) = (lastMax (fun value => key (change value)) values).map change := by
  cases values with
  | nil => rfl
  | cons first rest =>
      refine congrArg some ?_
      rw [List.foldl_map]
      refine List.foldl_hom change fun best value => ?_
      exact (apply_ite change _ _ _).symm

/-- Lists that agree on the elements of each key have one last maximum. -/
theorem lastMax_congr {others : List α}
    (agree : ∀ bound, withKey key bound values = withKey key bound others) :
    lastMax key values = lastMax key others := by
  have members (value : α) : value ∈ values ↔ value ∈ others := by
    rw [← @mem_withKey_self _ _ _ key, agree, mem_withKey_self]
  cases found : lastMax key values with
  | none =>
      have empty := lastMax_eq_none.mp found
      rw [eq_comm, lastMax_eq_none, List.eq_nil_iff_forall_not_mem]
      intro value member
      rw [← members, empty] at member
      cases member
  | some best =>
      have isLast := isLastMax_lastMax found
      cases again : lastMax key others with
      | none =>
          have member := (members best).mp isLast.mem
          rw [lastMax_eq_none.mp again] at member
          cases member
      | some other =>
          have isOther := isLastMax_lastMax again
          have same : key best = key other :=
            le_antisymm (isOther.le ((members best).mp isLast.mem))
              (isLast.le ((members other).mpr isOther.mem))
          have last := isLast.getLast?_withKey
          rw [agree, same, isOther.getLast?_withKey] at last
          exact last.symm

/-- One more element is the last maximum itself, or changes nothing. -/
theorem lastMax_insert (key : α → κ) (before after : List α) (value : α) :
    lastMax key (before ++ value :: after) = some value ∨
      lastMax key (before ++ value :: after) = lastMax key (before ++ after) := by
  cases found : lastMax key (before ++ value :: after) with
  | none =>
      have empty := lastMax_eq_none.mp found
      simp at empty
  | some best =>
      obtain ⟨front, back, spelled, low, lower⟩ := lastMax_eq_some.mp found
      rcases List.append_eq_append_iff.mp spelled with ⟨middle, rfl, tail⟩ | ⟨middle, rfl, tail⟩
      · cases middle with
        | nil =>
            cases tail
            exact .inl rfl
        | cons head middle =>
            obtain ⟨rfl, rfl⟩ := List.cons.inj tail
            refine .inr (lastMax_eq_some.mpr ⟨before ++ middle, back, by simp, ?_, lower⟩).symm
            intro other member
            exact low other (((List.sublist_cons_self value middle).append_left before).subset member)
      · cases middle with
        | nil =>
            cases tail
            exact .inl rfl
        | cons head middle =>
            obtain ⟨rfl, rfl⟩ := List.cons.inj tail
            refine .inr (lastMax_eq_some.mpr ⟨front, middle ++ after, by simp, low, ?_⟩).symm
            intro other member
            exact lower other (((List.sublist_cons_self value after).append_left middle).subset member)

/-! ## Sorting -/

/-- A stable sort by falling keys keeps the elements of one key in their order. -/
theorem withKey_mergeSort (values : List α) (bound : κ) :
    withKey key bound (values.mergeSort fun left right => key right ≤ key left) =
      withKey key bound values := by
  have equalKeys : (withKey key bound values).Pairwise
      fun left right => decide (key right ≤ key left) = true := by
    refine List.Pairwise.imp_of_mem ?_ (List.pairwise_of_forall fun _ _ => trivial)
    intro left right inLeft inRight _
    rw [(mem_withKey.mp inLeft).2, (mem_withKey.mp inRight).2]
    exact decide_eq_true (le_refl bound)
  have sublist : (withKey key bound values).Sublist
      (values.mergeSort fun left right => key right ≤ key left) := by
    refine List.sublist_mergeSort ?_ ?_ equalKeys List.filter_sublist
    · intro first second third low lower
      exact decide_eq_true (le_trans (of_decide_eq_true lower) (of_decide_eq_true low))
    · intro first second
      simpa using le_total (key second) (key first)
  have kept := sublist.filter fun value => key value = bound
  have same : (withKey key bound values).filter (fun value => key value = bound) =
      withKey key bound values :=
    List.filter_eq_self.mpr fun value member => decide_eq_true (mem_withKey.mp member).2
  rw [same] at kept
  refine (kept.eq_of_length ?_).symm
  exact ((List.mergeSort_perm values _).filter _).length_eq.symm

theorem lastMax_filter_mergeSort (values : List α) (keep : α → Bool) :
    lastMax key ((values.mergeSort fun left right => key right ≤ key left).filter keep) =
      lastMax key (values.filter keep) := by
  refine lastMax_congr fun bound => ?_
  rw [withKey_filter, withKey_mergeSort, withKey_filter]

end Wirekit
