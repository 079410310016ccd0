import Mathlib.Data.List.Basic

/-!
# Lists of strings as JSON

The writer escapes quotes, backslashes and control characters, and leaves no white space.
The reader takes back what the writer writes.
-/

set_option autoImplicit false

namespace Wirekit.JsonStrings

def hexDigits : List Char := "0123456789abcdef".toList

def hexDigit (value : Nat) : Char := hexDigits.getD value '0'

def hexValue (c : Char) : Option Nat := hexDigits.idxOf? c

theorem hexValue_hexDigit {value : Nat} (small : value < 16) : hexValue (hexDigit value) = some value := by
  have all : ∀ value < 16, hexValue (hexDigit value) = some value := by decide
  exact all value small

/-- The characters with an escape of one letter. -/
def shortEscapes : List (Char × Char) :=
  [('"', '"'), ('\\', '\\'), (Char.ofNat 8, 'b'), (Char.ofNat 12, 'f'), ('\n', 'n'), ('\r', 'r'), ('\t', 't')]

def escape (c : Char) : List Char :=
  match shortEscapes.find? fun pair => pair.1 = c with
  | some pair => ['\\', pair.2]
  | none =>
      if c.toNat < 32 then ['\\', 'u', '0', '0', hexDigit (c.toNat / 16), hexDigit (c.toNat % 16)]
      else [c]

def unescape (mark : Char) : Option Char :=
  (shortEscapes.find? fun pair => pair.2 = mark).map Prod.fst

/-- The text up to the closing quote, and what stands behind it. -/
def readBody : List Char → Option (List Char × List Char)
  | [] => none
  | '"' :: rest => some ([], rest)
  | '\\' :: 'u' :: '0' :: '0' :: high :: low :: rest => do
      let high ← hexValue high
      let low ← hexValue low
      let (text, rest) ← readBody rest
      some (Char.ofNat (16 * high + low) :: text, rest)
  | '\\' :: mark :: rest => do
      let c ← unescape mark
      let (text, rest) ← readBody rest
      some (c :: text, rest)
  | c :: rest => do
      let (text, rest) ← readBody rest
      if c.toNat < 32 ∨ c = '\\' then none else some (c :: text, rest)

theorem readBody_escape (c : Char) (rest : List Char) :
    readBody (escape c ++ rest) = (readBody rest).map fun read => (c :: read.1, read.2) := by
  unfold escape
  split
  · next pair found =>
    have member := List.mem_of_find?_eq_some found
    have same : pair.1 = c := by simpa using List.find?_some found
    have unmarked : unescape pair.2 = some pair.1 ∧ pair.2 ≠ 'u' := by
      revert member
      generalize pair = entry
      revert entry
      decide
    rw [List.cons_append, List.singleton_append, readBody]
    · rw [unmarked.1, same]
      cases readBody rest <;> rfl
    · intro high low later mark
      exact absurd mark unmarked.2
  · next plain =>
    split
    · next control =>
      have high := hexValue_hexDigit (show c.toNat / 16 < 16 by omega)
      have low := hexValue_hexDigit (show c.toNat % 16 < 16 by omega)
      have whole : Char.ofNat (16 * (c.toNat / 16) + c.toNat % 16) = c := by
        rw [Nat.div_add_mod, Char.ofNat_toNat]
      simp only [List.cons_append, List.nil_append, readBody, high, low]
      cases readBody rest with
      | none => rfl
      | some read => exact congrArg (fun front => some (front :: read.1, read.2)) whole
    · next visible =>
      have unlisted : ∀ pair ∈ shortEscapes, pair.1 ≠ c := by
        simpa using List.find?_eq_none.mp plain
      have noQuote : c ≠ '"' := (unlisted ('"', '"') (by decide) ·.symm)
      have noBackslash : c ≠ '\\' := (unlisted ('\\', '\\') (by decide) ·.symm)
      rw [List.singleton_append, readBody]
      · cases readBody rest with
        | none => rfl
        | some read => exact if_neg (not_or.mpr ⟨visible, noBackslash⟩)
      all_goals intros; contradiction

theorem readBody_escaped (text rest : List Char) :
    readBody (text.flatMap escape ++ '"' :: rest) = some (text, rest) := by
  induction text with
  | nil => rfl
  | cons c text ih => rw [List.flatMap_cons, List.append_assoc, readBody_escape, ih, Option.map_some]

/-! ## Lists -/

def writeTail : List (List Char) → List Char
  | [] => [']']
  | text :: rest => ',' :: '"' :: (text.flatMap escape ++ '"' :: writeTail rest)

def write : List (List Char) → List Char
  | [] => ['[', ']']
  | text :: rest => '[' :: '"' :: (text.flatMap escape ++ '"' :: writeTail rest)

/-- The fuel is a bound on the number of strings. -/
def readTail : Nat → List Char → Option (List (List Char))
  | _, [']'] => some []
  | fuel + 1, ',' :: '"' :: rest => do
      let (text, rest) ← readBody rest
      let texts ← readTail fuel rest
      some (text :: texts)
  | _, _ => none

def read (json : List Char) : Option (List (List Char)) :=
  match json with
  | ['[', ']'] => some []
  | '[' :: '"' :: rest => do
      let (text, rest) ← readBody rest
      let texts ← readTail json.length rest
      some (text :: texts)
  | _ => none

theorem readTail_writeTail {texts : List (List Char)} {fuel : Nat} (enough : texts.length ≤ fuel) :
    readTail fuel (writeTail texts) = some texts := by
  induction texts generalizing fuel with
  | nil => cases fuel <;> rfl
  | cons text rest ih =>
      cases fuel with
      | zero => cases enough
      | succ fuel =>
          have tail := ih (Nat.le_of_succ_le_succ enough)
          simp only [writeTail, readTail, readBody_escaped, Option.bind_eq_bind, Option.bind_some, tail]

theorem length_le_writeTail (texts : List (List Char)) : texts.length ≤ (writeTail texts).length := by
  induction texts with
  | nil => exact Nat.zero_le _
  | cons text rest ih =>
      simp only [writeTail, List.length_cons, List.length_append]
      omega

theorem read_write (texts : List (List Char)) : read (write texts) = some texts := by
  cases texts with
  | nil => rfl
  | cons text rest =>
      have few := length_le_writeTail rest
      have enough : rest.length ≤ (write (text :: rest)).length := by
        simp only [write, List.length_cons, List.length_append]
        omega
      have tail := readTail_writeTail enough
      rw [write] at tail ⊢
      simp only [read, readBody_escaped, Option.bind_eq_bind, Option.bind_some, tail]

def toJson (texts : List String) : String := String.ofList (write (texts.map String.toList))

def fromJson (json : String) : Option (List String) := (read json.toList).map (·.map String.ofList)

theorem fromJson_toJson (texts : List String) : fromJson (toJson texts) = some texts := by
  rw [fromJson, toJson, String.toList_ofList, read_write, Option.map_some, List.map_map]
  simp [Function.comp_def]

end Wirekit.JsonStrings
