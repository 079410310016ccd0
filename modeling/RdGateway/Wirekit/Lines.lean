import Mathlib.Data.List.Infix

/-!
# Lines that end with CRLF

A text is cut at every CRLF; a CR or LF alone belongs to its line. Lines that are
written with their ends come back when none of them has a CRLF inside.
-/

set_option autoImplicit false

namespace Wirekit

def HasCrlf (text : List Char) : Prop := ['\r', '\n'] <:+: text

def splitCrlf : List Char → List (List Char)
  | [] => [[]]
  | '\r' :: '\n' :: rest => [] :: splitCrlf rest
  | c :: rest =>
      match splitCrlf rest with
      | [] => [[c]]
      | line :: lines => (c :: line) :: lines

def joinCrlf (lines : List (List Char)) : List Char :=
  lines.flatMap fun line => line ++ ['\r', '\n']

theorem not_hasCrlf_nil : ¬ HasCrlf [] := by
  intro inside
  cases List.infix_nil.mp inside

theorem hasCrlf_cons {c : Char} {text : List Char} :
    HasCrlf (c :: text) ↔ (c = '\r' ∧ text.head? = some '\n') ∨ HasCrlf text := by
  unfold HasCrlf
  rw [List.infix_cons_iff]
  apply or_congr_left
  rw [List.cons_prefix_cons]
  cases text with
  | nil => simp [eq_comm]
  | cons next rest => simp [List.cons_prefix_cons, eq_comm]

theorem hasCrlf_append_right {front : List Char} (noCr : '\r' ∉ front) (text : List Char) :
    HasCrlf (front ++ text) ↔ HasCrlf text := by
  induction front with
  | nil => exact Iff.rfl
  | cons c front ih =>
      rw [List.mem_cons, not_or] at noCr
      rw [List.cons_append, hasCrlf_cons, or_iff_right fun starts => noCr.1 starts.1.symm]
      exact ih noCr.2

theorem hasCrlf_append_left {back : List Char} (noLf : '\n' ∉ back) (text : List Char) :
    HasCrlf (text ++ back) ↔ HasCrlf text := by
  induction text with
  | nil => exact iff_of_false (fun inside => noLf (inside.subset (by simp))) not_hasCrlf_nil
  | cons c text ih =>
      rw [List.cons_append, hasCrlf_cons, hasCrlf_cons]
      refine or_congr ?_ ih
      cases text with
      | nil =>
          have behind : back.head? ≠ some '\n' := fun starts => noLf (List.mem_of_head? starts)
          simp [behind]
      | cons next text => exact Iff.rfl

theorem not_hasCrlf_of_noCr {text : List Char} (noCr : '\r' ∉ text) : ¬ HasCrlf text :=
  fun inside => noCr (inside.subset (by simp))

theorem splitCrlf_ne_nil (text : List Char) : splitCrlf text ≠ [] := by
  fun_induction splitCrlf text with
  | case1 => simp
  | case2 => simp
  | case3 => simp
  | case4 => simp

/-- A character that does not start a line end belongs to the first line. -/
theorem splitCrlf_cons {c : Char} {rest line : List Char} {lines : List (List Char)}
    (inLine : ¬ (c = '\r' ∧ rest.head? = some '\n')) (later : splitCrlf rest = line :: lines) :
    splitCrlf (c :: rest) = (c :: line) :: lines := by
  rw [splitCrlf, later]
  intro tail cr lf
  exact inLine ⟨cr, by rw [lf]; rfl⟩

theorem splitCrlf_line {line : List Char} (clean : ¬ HasCrlf line) (rest : List Char) :
    splitCrlf (line ++ '\r' :: '\n' :: rest) = line :: splitCrlf rest := by
  induction line with
  | nil => rfl
  | cons c line ih =>
      rw [hasCrlf_cons, not_or] at clean
      apply splitCrlf_cons _ (ih clean.2)
      intro starts
      cases line with
      | nil =>
          obtain ⟨_, lf⟩ := starts
          cases lf
      | cons next line => exact clean.1 starts

theorem splitCrlf_head {text line : List Char} {lines : List (List Char)}
    (split : splitCrlf text = line :: lines) : line = [] ∨ line.head? = text.head? := by
  unfold splitCrlf at split
  split at split
  · exact .inl (List.cons.inj split).1.symm
  · exact .inl (List.cons.inj split).1.symm
  · split at split
    · next none => exact absurd none (splitCrlf_ne_nil _)
    · right
      rw [← (List.cons.inj split).1]
      rfl

theorem splitCrlf_clean {text piece : List Char} (member : piece ∈ splitCrlf text) : ¬ HasCrlf piece := by
  fun_induction splitCrlf text generalizing piece with
  | case1 =>
      rw [List.mem_singleton.mp member]
      exact not_hasCrlf_nil
  | case2 rest ih =>
      cases member with
      | head => exact not_hasCrlf_nil
      | tail _ later => exact ih later
  | case3 c rest noEnd none ih => exact absurd none (splitCrlf_ne_nil rest)
  | case4 c rest noEnd line lines split ih =>
      rw [split] at ih
      cases member with
      | head =>
          rw [hasCrlf_cons, not_or]
          refine ⟨fun starts => ?_, ih List.mem_cons_self⟩
          obtain ⟨cr, lf⟩ := starts
          rcases splitCrlf_head split with rfl | same
          · cases lf
          · rw [same] at lf
            obtain ⟨tail, rfl⟩ := List.head?_eq_some_iff.mp lf
            exact noEnd tail cr rfl
      | tail _ later => exact ih (List.mem_cons_of_mem _ later)

/-- The lines come back, with the empty text behind the last end, exactly when each is one line. -/
theorem splitCrlf_join (lines : List (List Char)) :
    splitCrlf (joinCrlf lines) = lines ++ [[]] ↔ ∀ line ∈ lines, ¬ HasCrlf line := by
  constructor
  · intro split line member
    apply @splitCrlf_clean (joinCrlf lines)
    rw [split]
    exact List.mem_append_left _ member
  · intro clean
    induction lines with
    | nil => rfl
    | cons line lines ih =>
        obtain ⟨head, tail⟩ := List.forall_mem_cons.mp clean
        rw [joinCrlf, List.flatMap_cons, List.append_assoc]
        exact (splitCrlf_line head _).trans (congrArg (line :: ·) (ih tail))

end Wirekit
