import Mathlib.Data.List.Basic

/-!
# Internet addresses

Addresses and the textual forms that the standard parser reads: dotted decimal
without leading zeros, and hexadecimal groups with one optional `::` and an
optional embedded IPv4 tail.
-/

set_option autoImplicit false

namespace Wirekit

structure Ipv4Addr where
  octets : Vector UInt8 4
deriving Repr, DecidableEq

structure Ipv6Addr where
  segments : Vector UInt16 8
deriving Repr, DecidableEq

inductive IpAddr where
  | v4 (addr : Ipv4Addr)
  | v6 (addr : Ipv6Addr)
deriving Repr, DecidableEq

def Ipv4Addr.toBits (addr : Ipv4Addr) : BitVec 32 :=
  BitVec.ofNat 32 (addr.octets.toList.foldl (fun number octet => number * 256 + octet.toNat) 0)

def Ipv6Addr.toBits (addr : Ipv6Addr) : BitVec 128 :=
  BitVec.ofNat 128 (addr.segments.toList.foldl (fun number group => number * 65536 + group.toNat) 0)

/-! ## Prefixes -/

def IpAddr.width : IpAddr → Nat
  | .v4 _ => 32
  | .v6 _ => 128

/-- Addresses of one family whose first bits are equal. -/
def SamePrefix (count : Nat) : IpAddr → IpAddr → Prop
  | .v4 first, .v4 second => ∀ i < count, first.toBits.getMsbD i = second.toBits.getMsbD i
  | .v6 first, .v6 second => ∀ i < count, first.toBits.getMsbD i = second.toBits.getMsbD i
  | _, _ => False

theorem SamePrefix.self (count : Nat) (addr : IpAddr) : SamePrefix count addr addr := by
  cases addr with
  | v4 addr => exact fun _ _ => rfl
  | v6 addr => exact fun _ _ => rfl

theorem SamePrefix.shorter {first second : IpAddr} {short long : Nat} (le : short ≤ long)
    (same : SamePrefix long first second) : SamePrefix short first second := by
  cases first <;> cases second
  case v4.v4 => exact fun i below => same i (Nat.lt_of_lt_of_le below le)
  case v6.v6 => exact fun i below => same i (Nat.lt_of_lt_of_le below le)
  all_goals exact same

/-- A mask of leading ones compares leading bits. -/
theorem and_leadingOnes_iff {width count : Nat} (fits : count ≤ width) (first second : BitVec width) :
    first &&& BitVec.allOnes width <<< (width - count) = second &&& BitVec.allOnes width <<< (width - count) ↔
      ∀ i < count, first.getMsbD i = second.getMsbD i := by
  have masked (bits : BitVec width) (i : Nat) :
      (bits &&& BitVec.allOnes width <<< (width - count)).getMsbD i =
        (bits.getMsbD i && decide (i < count)) := by
    have inside : i + (width - count) < width ↔ i < count := by omega
    rw [BitVec.getMsbD_and, BitVec.getMsbD_shiftLeft, BitVec.getMsbD_allOnes, decide_eq_decide.mpr inside]
  constructor
  · intro same i below
    have bit := congrArg (BitVec.getMsbD · i) same
    simp only [masked, decide_eq_true below, Bool.and_true] at bit
    exact bit
  · intro same
    refine BitVec.eq_of_getMsbD_eq fun i _ => ?_
    rw [masked, masked]
    by_cases below : i < count
    · rw [same i below]
    · rw [decide_eq_false below, Bool.and_false, Bool.and_false]

namespace IpParser

/-- A reader takes its value off the front of the text; it fails without consuming. -/
abbrev Reader (α : Type) := List Char → Option (α × List Char)

def toDigit (radix : Nat) (c : Char) : Option Nat :=
  let digit :=
    if '0' ≤ c ∧ c ≤ '9' then some (c.toNat - '0'.toNat)
    else if 'a' ≤ c ∧ c ≤ 'z' then some (c.toNat - 'a'.toNat + 10)
    else if 'A' ≤ c ∧ c ≤ 'Z' then some (c.toNat - 'A'.toNat + 10)
    else none
  digit.filter (· < radix)

def readDigits (radix : Nat) : List Char → List Nat × List Char
  | [] => ([], [])
  | c :: rest =>
      match toDigit radix c with
      | some digit =>
          let (digits, rest) := readDigits radix rest
          (digit :: digits, rest)
      | none => ([], c :: rest)

def readNumber (radix maxDigits limit : Nat) (allowZeroPrefix : Bool) : Reader Nat := fun text =>
  let (digits, rest) := readDigits radix text
  let value := digits.foldl (fun number digit => number * radix + digit) 0
  if digits.length = 0 ∨ maxDigits < digits.length then none
  else if !allowZeroPrefix ∧ digits.head? = some 0 ∧ 1 < digits.length then none
  else if limit ≤ value then none
  else some (value, rest)

/-- The item at a position of a list is behind a separator, unless it is the first. -/
def readSeparated {α : Type} (separator : Char) (position : Nat) (item : Reader α) : Reader α :=
  fun text =>
    if position = 0 then item text
    else
      match text with
      | c :: rest => if c = separator then item rest else none
      | [] => none

def readOctet (position : Nat) : Reader Nat :=
  readSeparated '.' position (readNumber 10 3 256 false)

def readIpv4Addr : Reader Ipv4Addr := fun text => do
  let (first, text) ← readOctet 0 text
  let (second, text) ← readOctet 1 text
  let (third, text) ← readOctet 2 text
  let (fourth, text) ← readOctet 3 text
  some ({ octets := #v[.ofNat first, .ofNat second, .ofNat third, .ofNat fourth] }, text)

def ipv4Groups (addr : Ipv4Addr) : List UInt16 :=
  let octet (position : Nat) : Nat := ((addr.octets[position]?).getD 0).toNat
  [.ofNat (octet 0 * 256 + octet 1), .ofNat (octet 2 * 256 + octet 3)]

/-- Groups from a position on, with the rounds that are left. The flag says that an
embedded IPv4 address ended them. -/
def readGroups (limit : Nat) : Nat → Nat → List UInt16 → List Char → List UInt16 × Bool × List Char
  | 0, _, groups, text => (groups, false, text)
  | remaining + 1, position, groups, text =>
      let embedded :=
        if position < limit - 1 then readSeparated ':' position readIpv4Addr text else none
      match embedded with
      | some (addr, text) => (groups ++ ipv4Groups addr, true, text)
      | none =>
          match readSeparated ':' position (readNumber 16 4 65536 true) text with
          | some (group, text) =>
              readGroups limit remaining (position + 1) (groups ++ [.ofNat group]) text
          | none => (groups, false, text)

def segmentsOf (groups : List UInt16) : Ipv6Addr :=
  { segments := Vector.ofFn fun position => groups.getD position 0 }

def readIpv6Addr : Reader Ipv6Addr := fun text =>
  let (head, headIpv4, text) := readGroups 8 8 0 [] text
  if head.length = 8 then some (segmentsOf head, text)
  else if headIpv4 then none
  else
    match text with
    | ':' :: ':' :: text =>
        let limit := 8 - (head.length + 1)
        let (tail, _, text) := readGroups limit limit 0 [] text
        let zeros := List.replicate (8 - head.length - tail.length) 0
        some (segmentsOf (head ++ zeros ++ tail), text)
    | _ => none

def readIpAddr : Reader IpAddr := fun text =>
  match readIpv4Addr text with
  | some (addr, rest) => some (.v4 addr, rest)
  | none => (readIpv6Addr text).map fun (addr, rest) => (.v6 addr, rest)

end IpParser

/-- `str::parse::<IpAddr>`: the whole text is one address. -/
def parseIpAddr (text : String) : Option IpAddr :=
  match IpParser.readIpAddr text.toList with
  | some (addr, []) => some addr
  | _ => none

/-- `str::parse::<u8>`: decimal digits behind an optional plus sign. -/
def parseU8 (text : String) : Option UInt8 :=
  let digits :=
    match text.toList with
    | '+' :: rest => rest
    | chars => chars
  match IpParser.readDigits 10 digits with
  | (values, []) =>
      let value := values.foldl (fun number digit => number * 10 + digit) 0
      if values.length = 0 ∨ 256 ≤ value then none else some (UInt8.ofNat value)
  | _ => none

end Wirekit
