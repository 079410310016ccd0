import Mathlib.Algebra.Order.Ring.Int
import Mathlib.Data.List.DropRight
import Mathlib.Data.List.Basic

/-!
# Cutting and reading text

Splitting at a separator, trimming, and the decimal forms of machine integers: an
optional sign, at least one digit, and a value in range.
-/

set_option autoImplicit false

namespace Wirekit

/-! ## Splitting -/

theorem splitOn_eq_pair {separator : Char} {text front back : List Char} :
    text.splitOn separator = [front, back] ↔
      text = front ++ separator :: back ∧ separator ∉ front ∧ separator ∉ back := by
  constructor
  · intro pieces
    have joined : [separator].intercalate (text.splitOn separator) = text :=
      List.intercalate_splitOn separator
    rw [pieces] at joined
    have spelled : text = front ++ separator :: back := by
      rw [← joined]
      simp [List.intercalate]
    have two : (text.splitOn separator).length = 2 := by
      rw [pieces]
      rfl
    have nonempty (part : List Char) : 0 < (part.splitOn separator).length :=
      List.length_pos_iff.mpr (List.splitOn_ne_nil separator part)
    rw [spelled, List.splitOn_append_cons_self, List.length_append] at two
    refine ⟨spelled, fun inFront => ?_, fun inBack => ?_⟩
    · obtain ⟨first, second, rfl⟩ := List.append_of_mem inFront
      rw [List.splitOn_append_cons_self, List.length_append] at two
      have := nonempty first
      have := nonempty second
      have := nonempty back
      omega
    · obtain ⟨first, second, rfl⟩ := List.append_of_mem inBack
      rw [List.splitOn_append_cons_self, List.length_append] at two
      have := nonempty first
      have := nonempty second
      have := nonempty front
      omega
  · intro holds
    obtain ⟨rfl, notFront, notBack⟩ := holds
    rw [List.splitOn_append_cons_self_of_not_mem notFront, List.splitOn_eq_singleton notBack]

def splitLast (separator : Char) : List Char → Option (List Char × List Char)
  | [] => none
  | c :: rest =>
      match splitLast separator rest with
      | some (front, back) => some (c :: front, back)
      | none => if c = separator then some ([], rest) else none

theorem splitLast_eq_none {separator : Char} {text : List Char} :
    splitLast separator text = none ↔ separator ∉ text := by
  induction text with
  | nil => simp [splitLast]
  | cons c rest ih =>
      unfold splitLast
      cases split : splitLast separator rest with
      | some pair =>
          have member : separator ∈ rest := by
            by_contra absent
            rw [ih.mpr absent] at split
            cases split
          simp [member]
      | none =>
          have absent := ih.mp split
          by_cases here : c = separator
          · simp [here]
          · simp [here, absent, Ne.symm here]

theorem splitLast_eq_some {separator : Char} {text front back : List Char} :
    splitLast separator text = some (front, back) ↔
      text = front ++ separator :: back ∧ separator ∉ back := by
  induction text generalizing front with
  | nil => simp [splitLast]
  | cons c rest ih =>
      unfold splitLast
      constructor
      · intro cut
        cases split : splitLast separator rest with
        | some pair =>
            rw [split] at cut
            cases cut
            obtain ⟨spelled, absent⟩ := ih.mp split
            exact ⟨by rw [spelled]; rfl, absent⟩
        | none =>
            rw [split] at cut
            dsimp only at cut
            split at cut
            · next here =>
              cases cut
              exact ⟨by rw [here]; rfl, splitLast_eq_none.mp split⟩
            · cases cut
      · intro holds
        obtain ⟨spelled, absent⟩ := holds
        cases front with
        | nil =>
            obtain ⟨rfl, rfl⟩ := List.cons.inj spelled
            rw [splitLast_eq_none.mpr absent]
            exact if_pos rfl
        | cons first later =>
            obtain ⟨rfl, tail⟩ := List.cons.inj spelled
            rw [ih.mpr ⟨tail, absent⟩]

/-- `str::strip_prefix` on characters. -/
def stripChars (front text : List Char) : Option (List Char) :=
  if text.take front.length = front then some (text.drop front.length) else none

/-! ## Trimming -/

/-- The code points with the property `White_Space`. -/
def isWhitespace (c : Char) : Bool :=
  (9 ≤ c.toNat ∧ c.toNat ≤ 13) ∨ c.toNat = 0x20 ∨ c.toNat = 0x85 ∨ c.toNat = 0xA0 ∨
    c.toNat = 0x1680 ∨ (0x2000 ≤ c.toNat ∧ c.toNat ≤ 0x200A) ∨ c.toNat = 0x2028 ∨
    c.toNat = 0x2029 ∨ c.toNat = 0x202F ∨ c.toNat = 0x205F ∨ c.toNat = 0x3000

def trim (text : List Char) : List Char :=
  (text.dropWhile isWhitespace).rdropWhile isWhitespace

/-! ## Numbers -/

def parseDigits (text : List Char) : Option Nat :=
  if text ≠ [] ∧ text.all Char.isDigit then some (Nat.ofDigitChars 10 text 0) else none

def parseU64 : List Char → Option Nat
  | '+' :: digits => (parseDigits digits).filter (· < 2 ^ 64)
  | digits => (parseDigits digits).filter (· < 2 ^ 64)

def parseI64 : List Char → Option Int
  | '+' :: digits => ((parseDigits digits).filter (· < 2 ^ 63)).map fun value => (value : Int)
  | '-' :: digits => ((parseDigits digits).filter (· ≤ 2 ^ 63)).map fun value => -(value : Int)
  | digits => ((parseDigits digits).filter (· < 2 ^ 63)).map fun value => (value : Int)

/-- `to_string` of an unsigned number. -/
def decimal (value : Nat) : String := String.ofList (Nat.toDigits 10 value)

def showInt : Int → List Char
  | .ofNat value => Nat.toDigits 10 value
  | .negSucc value => '-' :: Nat.toDigits 10 (value + 1)

theorem isDigit_of_mem_decimal {value : Nat} {c : Char} (member : c ∈ (decimal value).toList) :
    c.isDigit = true := by
  rw [decimal, String.toList_ofList] at member
  exact Nat.isDigit_of_mem_toDigits (by decide) (by decide) member

theorem mem_showInt {value : Int} {c : Char} (member : c ∈ showInt value) : c = '-' ∨ c.isDigit = true := by
  cases value with
  | ofNat value => exact .inr (Nat.isDigit_of_mem_toDigits (by decide) (by decide) member)
  | negSucc value =>
      rcases List.mem_cons.mp member with minus | digit
      · exact .inl minus
      · exact .inr (Nat.isDigit_of_mem_toDigits (by decide) (by decide) digit)

theorem parseDigits_toDigits (value : Nat) : parseDigits (Nat.toDigits 10 value) = some value := by
  have digits : (Nat.toDigits 10 value).all Char.isDigit = true :=
    List.all_eq_true.mpr fun c member => Nat.isDigit_of_mem_toDigits (by decide) (by decide) member
  rw [parseDigits, if_pos ⟨Nat.toDigits_ne_nil, digits⟩, Nat.ofDigitChars_ten_toDigits]

theorem toDigits_head (value : Nat) :
    ∃ c rest, Nat.toDigits 10 value = c :: rest ∧ c.isDigit = true := by
  obtain ⟨c, rest, spelled⟩ := List.exists_cons_of_ne_nil (@Nat.toDigits_ne_nil value 10)
  have member : c ∈ Nat.toDigits 10 value := by
    rw [spelled]
    exact List.mem_cons_self
  exact ⟨c, rest, spelled, Nat.isDigit_of_mem_toDigits (by decide) (by decide) member⟩

theorem parseU64_toDigits {value : Nat} (fits : value < 2 ^ 64) :
    parseU64 (Nat.toDigits 10 value) = some value := by
  obtain ⟨c, rest, spelled, digit⟩ := toDigits_head value
  have whole := parseDigits_toDigits value
  have unsigned : c ≠ '+' := by
    rintro rfl
    cases digit
  rw [spelled] at whole ⊢
  unfold parseU64
  split
  · next same =>
    exact absurd (List.cons.inj same).1 unsigned
  · rw [whole, Option.filter_some, if_pos (decide_eq_true fits)]

/-! ## Numerals -/

/-- At least one decimal digit, behind a sign or none, and the number that is spelled. -/
inductive Numeral : List Char → Int → Prop where
  | plain {digits : List Char} (some : digits ≠ []) (decimal : ∀ c ∈ digits, c.isDigit = true) :
      Numeral digits (Nat.ofDigitChars 10 digits 0)
  | plus {digits : List Char} (some : digits ≠ []) (decimal : ∀ c ∈ digits, c.isDigit = true) :
      Numeral ('+' :: digits) (Nat.ofDigitChars 10 digits 0)
  | minus {digits : List Char} (some : digits ≠ []) (decimal : ∀ c ∈ digits, c.isDigit = true) :
      Numeral ('-' :: digits) (-(Nat.ofDigitChars 10 digits 0 : Int))

theorem parseDigits_eq_some {text : List Char} {value : Nat} :
    parseDigits text = some value ↔
      text ≠ [] ∧ (∀ c ∈ text, c.isDigit = true) ∧ value = Nat.ofDigitChars 10 text 0 := by
  unfold parseDigits
  rw [← List.all_eq_true, Option.ite_none_right_eq_some, Option.some.injEq, and_assoc,
    eq_comm (a := value)]

/-- The digits behind a sign, read and checked. -/
theorem signed_eq_some {digits : List Char} {fits : Nat → Bool} {sign : Int → Int} {value : Int} :
    ((parseDigits digits).filter fits >>= fun number => pure (number : Int)).map sign = some value ↔
      digits ≠ [] ∧ (∀ c ∈ digits, c.isDigit = true) ∧
        fits (Nat.ofDigitChars 10 digits 0) = true ∧ sign (Nat.ofDigitChars 10 digits 0) = value := by
  constructor
  · intro read
    obtain ⟨_, kept, rfl⟩ := Option.map_eq_some_iff.mp read
    obtain ⟨number, filtered, same⟩ := Option.bind_eq_some_iff.mp kept
    obtain ⟨spelled, bounded⟩ := Option.filter_eq_some_iff.mp filtered
    obtain ⟨nonempty, decimal, rfl⟩ := parseDigits_eq_some.mp spelled
    cases same
    exact ⟨nonempty, decimal, bounded, rfl⟩
  · intro holds
    obtain ⟨nonempty, decimal, bounded, rfl⟩ := holds
    rw [parseDigits_eq_some.mpr ⟨nonempty, decimal, rfl⟩, Option.filter_some, if_pos bounded]
    rfl

theorem parseI64_eq_some {text : List Char} {value : Int} :
    parseI64 text = some value ↔ Numeral text value ∧ -2 ^ 63 ≤ value ∧ value < 2 ^ 63 := by
  constructor
  · intro read
    unfold parseI64 at read
    split at read
    · obtain ⟨nonempty, decimal, bounded, rfl⟩ := signed_eq_some.mp read
      have below := of_decide_eq_true bounded
      exact ⟨.plus nonempty decimal, by omega, by omega⟩
    · obtain ⟨nonempty, decimal, bounded, rfl⟩ := signed_eq_some.mp read
      have below := of_decide_eq_true bounded
      exact ⟨.minus nonempty decimal, by omega, by omega⟩
    · obtain ⟨nonempty, decimal, bounded, rfl⟩ := signed_eq_some.mp read
      have below := of_decide_eq_true bounded
      exact ⟨.plain nonempty decimal, by omega, by omega⟩
  · intro holds
    obtain ⟨numeral, low, high⟩ := holds
    cases numeral with
    | plain nonempty decimal =>
        unfold parseI64
        split
        · cases decimal _ List.mem_cons_self
        · cases decimal _ List.mem_cons_self
        · exact signed_eq_some.mpr ⟨nonempty, decimal, decide_eq_true (by omega), rfl⟩
    | plus nonempty decimal =>
        exact signed_eq_some.mpr ⟨nonempty, decimal, decide_eq_true (by omega), rfl⟩
    | minus nonempty decimal =>
        exact signed_eq_some.mpr ⟨nonempty, decimal, decide_eq_true (by omega), rfl⟩

/-- The texts of an `i64`, of a value in the range of an `i32`. -/
def parseI32 (text : List Char) : Option Int :=
  (parseI64 text).filter fun value => -2 ^ 31 ≤ value ∧ value < 2 ^ 31

theorem parseI32_eq_some {text : List Char} {value : Int} :
    parseI32 text = some value ↔ Numeral text value ∧ -2 ^ 31 ≤ value ∧ value < 2 ^ 31 := by
  rw [parseI32, Option.filter_eq_some_iff, parseI64_eq_some, decide_eq_true_iff]
  constructor
  · intro holds
    obtain ⟨⟨numeral, _⟩, fits⟩ := holds
    exact ⟨numeral, fits⟩
  · intro holds
    obtain ⟨numeral, fits⟩ := holds
    exact ⟨⟨numeral, by omega, by omega⟩, fits⟩

theorem numeral_showInt (value : Int) : Numeral (showInt value) value := by
  have decimal (value : Nat) : ∀ c ∈ Nat.toDigits 10 value, c.isDigit = true :=
    fun c member => Nat.isDigit_of_mem_toDigits (by decide) (by decide) member
  cases value with
  | ofNat value =>
      have numeral := Numeral.plain Nat.toDigits_ne_nil (decimal value)
      rwa [Nat.ofDigitChars_ten_toDigits] at numeral
  | negSucc value =>
      have numeral := Numeral.minus Nat.toDigits_ne_nil (decimal (value + 1))
      rwa [Nat.ofDigitChars_ten_toDigits] at numeral

theorem parseI64_showInt {value : Int} (low : -2 ^ 63 ≤ value) (high : value < 2 ^ 63) :
    parseI64 (showInt value) = some value :=
  parseI64_eq_some.mpr ⟨numeral_showInt value, low, high⟩

end Wirekit
