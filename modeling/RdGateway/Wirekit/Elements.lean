import RdGateway.Wirekit.Text

/-!
# Lists of counted elements

An element is its length in decimal digits, a period and the value; elements are
separated by commas and end at a semicolon. The reader counts code points. What the
writer counts is a parameter, and the list is read back when both count the same.
-/

set_option autoImplicit false

namespace Wirekit

def writeElement (measure : List Char → Nat) (value : List Char) : List Char :=
  Nat.toDigits 10 (measure value) ++ '.' :: value

/-- The elements behind the first one, and the end of the list. -/
def writeRest (measure : List Char → Nat) : List (List Char) → List Char
  | [] => [';']
  | value :: values => ',' :: (writeElement measure value ++ writeRest measure values)

def writeElements (measure : List Char → Nat) (first : List Char) (values : List (List Char)) : List Char :=
  writeElement measure first ++ writeRest measure values

def readElement (text : List Char) : Option (List Char × List Char) :=
  match parseDigits (text.takeWhile Char.isDigit), text.dropWhile Char.isDigit with
  | some length, '.' :: rest =>
      if length ≤ rest.length then some (rest.take length, rest.drop length) else none
  | _, _ => none

/-- The elements up to the semicolon, and what follows it. -/
def readElements : Nat → List Char → Option (List (List Char) × List Char)
  | 0, _ => none
  | fuel + 1, text =>
      match readElement text with
      | some (value, ';' :: rest) => some ([value], rest)
      | some (value, ',' :: rest) =>
          match readElements fuel rest with
          | some (values, rest) => some (value :: values, rest)
          | none => none
      | _ => none

/-- An instruction takes one character for each of its elements at least. -/
def readInstruction (text : List Char) : Option (List (List Char) × List Char) :=
  readElements text.length text

theorem readElement_toDigits (length : Nat) (rest : List Char) :
    readElement (Nat.toDigits 10 length ++ '.' :: rest) =
      if length ≤ rest.length then some (rest.take length, rest.drop length) else none := by
  have digits : ∀ c ∈ Nat.toDigits 10 length, c.isDigit = true :=
    fun c member => Nat.isDigit_of_mem_toDigits (by decide) (by decide) member
  have period : ¬ Char.isDigit '.' = true := by decide
  have front : (Nat.toDigits 10 length ++ '.' :: rest).takeWhile Char.isDigit = Nat.toDigits 10 length := by
    rw [List.takeWhile_append_of_pos digits, List.takeWhile_cons_of_neg period, List.append_nil]
  have back : (Nat.toDigits 10 length ++ '.' :: rest).dropWhile Char.isDigit = '.' :: rest := by
    rw [List.dropWhile_append_of_pos digits, List.dropWhile_cons_of_neg period]
  rw [readElement, front, back, parseDigits_toDigits]
  rfl

variable {measure : List Char → Nat}

theorem readElement_counted {value : List Char} (counted : measure value = value.length)
    (rest : List Char) : readElement (writeElement measure value ++ rest) = some (value, rest) := by
  rw [writeElement, List.append_assoc, List.cons_append, readElement_toDigits, counted, if_pos (by simp),
    List.take_left, List.drop_left]

/-- A value that is read back has been counted as the reader counts. -/
theorem readElement_eq_some {value rest back : List Char}
    (read : readElement (writeElement measure value ++ rest) = some (value, back)) :
    measure value = value.length := by
  rw [writeElement, List.append_assoc, List.cons_append, readElement_toDigits] at read
  split at read
  · next enough =>
    have same := congrArg (fun pair => pair.1.length) (Option.some.inj read)
    dsimp only at same
    rw [List.length_take, Nat.min_eq_left enough] at same
    exact same
  · cases read

theorem readElements_head {fuel : Nat} {text value rest : List Char} {values : List (List Char)}
    (read : readElements fuel text = some (value :: values, rest)) :
    ∃ back, readElement text = some (value, back) := by
  cases fuel with
  | zero => cases read
  | succ fuel =>
      unfold readElements at read
      split at read
      · next first back element =>
        cases read
        exact ⟨_, element⟩
      · next first back element =>
        split at read
        · cases read
          exact ⟨_, element⟩
        · cases read
      · cases read

theorem readElements_write (first : List Char) (values : List (List Char)) {fuel : Nat}
    (enough : values.length < fuel) (rest : List Char) :
    readElements fuel (writeElements measure first values ++ rest) = some (first :: values, rest) ↔
      ∀ value ∈ first :: values, measure value = value.length := by
  rw [List.forall_mem_cons]
  induction values generalizing first fuel with
  | nil =>
      obtain ⟨fuel, rfl⟩ := Nat.exists_eq_add_one.mpr enough
      rw [writeElements, List.append_assoc]
      constructor
      · intro read
        obtain ⟨back, element⟩ := readElements_head read
        exact ⟨readElement_eq_some element, fun _ member => nomatch member⟩
      · intro counted
        simp only [readElements, readElement_counted counted.1, writeRest, List.singleton_append]
  | cons next values ih =>
      obtain ⟨fuel, rfl⟩ := Nat.exists_eq_add_one.mpr (Nat.zero_lt_of_lt enough)
      have later := ih next (Nat.lt_of_succ_lt_succ enough)
      rw [List.forall_mem_cons, ← later, writeElements, List.append_assoc]
      have entered (counted : measure first = first.length) :
          readElements (fuel + 1) (writeElement measure first ++ (writeRest measure (next :: values) ++ rest)) =
            match readElements fuel (writeElements measure next values ++ rest) with
            | some (values, rest) => some (first :: values, rest)
            | none => none := by
        simp only [readElements, readElement_counted counted, writeRest, List.cons_append, writeElements]
      constructor
      · intro read
        obtain ⟨back, element⟩ := readElements_head read
        have counted := readElement_eq_some element
        rw [entered counted] at read
        split at read
        · next found =>
          cases read
          exact ⟨counted, found⟩
        · cases read
      · intro counted
        rw [entered counted.1, counted.2]

theorem writeElements_length (first : List Char) (values : List (List Char)) :
    values.length < (writeElements measure first values).length := by
  induction values generalizing first with
  | nil =>
      simp only [writeElements, writeElement, List.length_append, List.length_cons, List.length_nil]
      omega
  | cons next values ih =>
      have shorter := ih next
      simp only [writeElements, writeElement, writeRest, List.length_append, List.length_cons] at shorter ⊢
      omega

/-- What is written is read back whole exactly when the writer counts every value as the
reader does. -/
theorem readInstruction_write (first : List Char) (values : List (List Char)) (rest : List Char) :
    readInstruction (writeElements measure first values ++ rest) = some (first :: values, rest) ↔
      ∀ value ∈ first :: values, measure value = value.length := by
  apply readElements_write
  rw [List.length_append]
  exact Nat.lt_of_lt_of_le (writeElements_length first values) (Nat.le_add_right _ _)

end Wirekit
