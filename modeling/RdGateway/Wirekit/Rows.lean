import Mathlib.Data.List.Nodup
import RdGateway.Wirekit.Store

/-!
# Rows under keys

A table is a list of rows, each with a key. Seen by key it is a map: appending a row
with a new key inserts, rewriting the row of a key modifies, and dropping it removes.
-/

set_option autoImplicit false

namespace Wirekit

variable {α κ : Type} [DecidableEq κ]

namespace Store

def modify (store : Store κ α) (key : κ) (edit : α → α) : Store κ α := fun other =>
  if other = key then (store other).map edit else store other

theorem modify_self (store : Store κ α) (key : κ) (edit : α → α) :
    store.modify key edit key = (store key).map edit := if_pos rfl

theorem modify_of_ne {key other : κ} (different : other ≠ key) (store : Store κ α) (edit : α → α) :
    store.modify key edit other = store other := if_neg different

theorem modify_eq_insert {store : Store κ α} {key : κ} {value : α} (present : store key = some value)
    (edit : α → α) : store.modify key edit = store.insert key (edit value) := by
  funext other
  by_cases same : other = key
  · rw [same, modify_self, insert_self, present, Option.map_some]
  · rw [modify_of_ne same, insert_of_ne same]

end Store

variable (keyOf : α → κ)

/-- The table as a map: the first row under each key. -/
def rowAt (rows : List α) : Store κ α := fun key => rows.find? fun row => keyOf row = key

def updateRow (key : κ) (edit : α → α) (row : α) : α := if keyOf row = key then edit row else row

variable {keyOf}

theorem rowAt_eq_some {rows : List α} {key : κ} {row : α} (found : rowAt keyOf rows key = some row) :
    row ∈ rows ∧ keyOf row = key :=
  ⟨List.mem_of_find?_eq_some found, by simpa using List.find?_some found⟩

theorem rowAt_eq_none {rows : List α} {key : κ} :
    rowAt keyOf rows key = none ↔ ∀ row ∈ rows, keyOf row ≠ key := by
  rw [rowAt, List.find?_eq_none]
  exact forall₂_congr fun row _ => not_congr decide_eq_true_iff

/-- With distinct keys the map holds every row. -/
theorem rowAt_of_mem {rows : List α} {row : α} (distinct : (rows.map keyOf).Nodup) (member : row ∈ rows) :
    rowAt keyOf rows (keyOf row) = some row := by
  cases found : rowAt keyOf rows (keyOf row) with
  | none => exact absurd rfl (rowAt_eq_none.mp found row member)
  | some other =>
      obtain ⟨inside, same⟩ := rowAt_eq_some found
      rw [List.inj_on_of_nodup_map distinct inside member same]

theorem mem_iff_rowAt {rows : List α} {row : α} (distinct : (rows.map keyOf).Nodup) :
    row ∈ rows ↔ rowAt keyOf rows (keyOf row) = some row :=
  ⟨rowAt_of_mem distinct, fun found => (rowAt_eq_some found).1⟩

theorem rowAt_append {rows : List α} {row : α} (fresh : ∀ other ∈ rows, keyOf other ≠ keyOf row) :
    rowAt keyOf (rows ++ [row]) = (rowAt keyOf rows).insert (keyOf row) row := by
  funext key
  have joined : rowAt keyOf (rows ++ [row]) key = (rowAt keyOf rows key).or (rowAt keyOf [row] key) :=
    List.find?_append
  rw [joined]
  by_cases same : key = keyOf row
  · have last : rowAt keyOf [row] (keyOf row) = some row := List.find?_cons_of_pos (decide_eq_true rfl)
    rw [same, Store.insert_self, rowAt_eq_none.mpr fresh, Option.none_or, last]
  · have other : rowAt keyOf [row] key = none :=
      rowAt_eq_none.mpr (List.forall_mem_singleton.mpr fun eq => same eq.symm)
    rw [Store.insert_of_ne same, other, Option.or_none]

theorem keyOf_updateRow {key : κ} {edit : α → α} (keeps : ∀ row, keyOf (edit row) = keyOf row) (row : α) :
    keyOf (updateRow keyOf key edit row) = keyOf row := by
  unfold updateRow
  split
  · exact keeps row
  · rfl

theorem rowAt_map_updateRow {key : κ} {edit : α → α} (keeps : ∀ row, keyOf (edit row) = keyOf row)
    (rows : List α) :
    rowAt keyOf (rows.map (updateRow keyOf key edit)) = (rowAt keyOf rows).modify key edit := by
  funext other
  have unmoved : (fun row => decide (keyOf row = other)) ∘ updateRow keyOf key edit =
      fun row => decide (keyOf row = other) := by
    funext row
    rw [Function.comp_apply, keyOf_updateRow keeps]
  rw [rowAt, List.find?_map, unmoved]
  cases found : rows.find? (fun row => decide (keyOf row = other)) with
  | none =>
      have absent : rowAt keyOf rows other = none := found
      simp [Store.modify, absent]
  | some row =>
      have here : rowAt keyOf rows other = some row := found
      rw [Store.modify, here, Option.map_some, updateRow, (rowAt_eq_some here).2]
      split <;> rfl

theorem map_updateRow_keys {key : κ} {edit : α → α} (keeps : ∀ row, keyOf (edit row) = keyOf row)
    (rows : List α) : (rows.map (updateRow keyOf key edit)).map keyOf = rows.map keyOf := by
  rw [List.map_map]
  exact List.map_congr_left fun row _ => keyOf_updateRow keeps row

theorem rowAt_filter_ne (key : κ) (rows : List α) :
    rowAt keyOf (rows.filter fun row => keyOf row ≠ key) = (rowAt keyOf rows).remove key := by
  funext other
  by_cases same : other = key
  · rw [same, Store.remove_self, rowAt_eq_none]
    intro row member
    exact of_decide_eq_true (List.mem_filter.mp member).2
  · rw [Store.remove_of_ne same, rowAt, rowAt, List.find?_filter]
    congr 1
    funext row
    by_cases found : keyOf row = other
    · simp [found, same]
    · simp [found]

omit [DecidableEq κ] in
theorem filter_keys_nodup {rows : List α} (distinct : (rows.map keyOf).Nodup) (keep : α → Bool) :
    ((rows.filter keep).map keyOf).Nodup :=
  distinct.sublist (List.filter_sublist.map keyOf)

omit [DecidableEq κ] in
theorem append_keys_nodup {rows : List α} {row : α} (distinct : (rows.map keyOf).Nodup)
    (fresh : ∀ other ∈ rows, keyOf other ≠ keyOf row) : ((rows ++ [row]).map keyOf).Nodup := by
  rw [List.map_append, List.map_singleton, ← List.concat_eq_append]
  refine distinct.concat fun taken => ?_
  obtain ⟨other, member, same⟩ := List.mem_map.mp taken
  exact fresh other member same

end Wirekit
