import RdGateway.Core.Database
import RdGateway.Wirekit.IpAddr

/-!
# ACL rule matching

Rules are tried by priority, and among rules of one priority the last that matches
decides. Without a match access is denied.
-/

set_option autoImplicit false

namespace RdGateway.Core

open Wirekit

inductive AclDecision where
  | allow
  | deny
deriving Repr, DecidableEq

/-! ## Host patterns -/

def asciiLower (text : String) : Bytes :=
  text.toByteArray.toList.map fun byte => if 65 ≤ byte ∧ byte ≤ 90 then byte + 32 else byte

structure GlobState where
  patternIdx : Nat
  candidateIdx : Nat
  starIdx : Option Nat
  backtrackIdx : Nat
  star_lt : ∀ star, starIdx = some star → star < patternIdx
  backtrack_le : backtrackIdx ≤ candidateIdx

def GlobState.start : GlobState :=
  { patternIdx := 0, candidateIdx := 0, starIdx := none, backtrackIdx := 0
    star_lt := by simp, backtrack_le := Nat.le_refl 0 }

namespace GlobState

def matched (state : GlobState) : GlobState :=
  { state with
    patternIdx := state.patternIdx + 1
    candidateIdx := state.candidateIdx + 1
    star_lt := fun star seen => Nat.lt_succ_of_lt (state.star_lt star seen)
    backtrack_le := Nat.le_succ_of_le state.backtrack_le }

/-- A star is entered, covering nothing yet. -/
def enterStar (state : GlobState) : GlobState :=
  { patternIdx := state.patternIdx + 1
    candidateIdx := state.candidateIdx
    starIdx := some state.patternIdx
    backtrackIdx := state.candidateIdx
    star_lt := fun star seen => by cases seen; exact Nat.lt_succ_self _
    backtrack_le := Nat.le_refl _ }

/-- The last star covers one byte more. -/
def retry (state : GlobState) (star : Nat) : GlobState :=
  { patternIdx := star + 1
    candidateIdx := state.backtrackIdx + 1
    starIdx := some star
    backtrackIdx := state.backtrackIdx + 1
    star_lt := fun star seen => by cases seen; exact Nat.lt_succ_self _
    backtrack_le := Nat.le_refl _ }

/-- How much of the pattern is still to be tried behind the last star. -/
def starsLeft (state : GlobState) (pattern : Bytes) : Nat :=
  match state.starIdx with
  | none => pattern.length + 1
  | some star => pattern.length - star

theorem enterStar_starsLeft {state : GlobState} {pattern : Bytes}
    (inside : state.patternIdx < pattern.length) :
    state.enterStar.starsLeft pattern < state.starsLeft pattern := by
  have bound := state.star_lt
  unfold starsLeft
  cases seen : state.starIdx with
  | none =>
      simp only [enterStar]
      omega
  | some earlier =>
      have before := bound earlier seen
      simp only [enterStar]
      omega

end GlobState

/-- `while candidate_idx < candidate.len()`: the pattern index where the loop ends, or
`none` where it returns false. -/
def globLoop (pattern candidate : Bytes) (state : GlobState) : Option Nat :=
  if _more : state.candidateIdx < candidate.length then
    if state.patternIdx < pattern.length ∧
        pattern[state.patternIdx]? = candidate[state.candidateIdx]? then
      globLoop pattern candidate state.matched
    else if _star : state.patternIdx < pattern.length ∧ pattern[state.patternIdx]? = some 42 then
      globLoop pattern candidate state.enterStar
    else
      match _seen : state.starIdx with
      | some star => globLoop pattern candidate (state.retry star)
      | none => none
  else some state.patternIdx
termination_by
  (state.starsLeft pattern, candidate.length - state.backtrackIdx,
    candidate.length - state.candidateIdx)
decreasing_by
  · apply Prod.Lex.right
    apply Prod.Lex.right
    simp only [GlobState.matched]
    omega
  · exact Prod.Lex.left _ _ (GlobState.enterStar_starsLeft _star.1)
  · have behind := state.backtrack_le
    have same : (state.retry star).starsLeft pattern = state.starsLeft pattern := by
      simp only [GlobState.starsLeft, GlobState.retry, _seen]
    rw [same]
    apply Prod.Lex.right
    apply Prod.Lex.left
    simp only [GlobState.retry]
    omega

def globMatches (pattern candidate : String) : Bool :=
  let pattern := asciiLower pattern
  match globLoop pattern (asciiLower candidate) .start with
  | some patternIdx => (pattern.drop patternIdx).dropWhile (· == 42) = []
  | none => false

structure Cidr where
  network : IpAddr
  prefixLen : UInt8
deriving Repr, DecidableEq

def ipv4Mask (prefixLen : UInt8) : BitVec 32 :=
  if prefixLen = 0 then 0 else BitVec.allOnes 32 <<< (32 - prefixLen.toNat)

def ipv6Mask (prefixLen : UInt8) : BitVec 128 :=
  if prefixLen = 0 then 0 else BitVec.allOnes 128 <<< (128 - prefixLen.toNat)

def Cidr.contains (cidr : Cidr) (ip : IpAddr) : Bool :=
  match cidr.network, ip with
  | .v4 network, .v4 ip =>
      network.toBits &&& ipv4Mask cidr.prefixLen = ip.toBits &&& ipv4Mask cidr.prefixLen
  | .v6 network, .v6 ip =>
      network.toBits &&& ipv6Mask cidr.prefixLen = ip.toBits &&& ipv6Mask cidr.prefixLen
  | _, _ => false

/-- `str::split_once`. -/
def splitOnce (separator : Char) (text : String) : Option (String × String) :=
  let chars := text.toList
  match chars.dropWhile (· != separator) with
  | _ :: rest => some (String.ofList (chars.takeWhile (· != separator)), String.ofList rest)
  | [] => none

def parseCidr (pattern : String) : Option Cidr := do
  let (network, prefixLen) ← splitOnce '/' pattern
  let network ← parseIpAddr network
  let prefixLen ← parseU8 prefixLen
  let maxPrefix : UInt8 :=
    match network with
    | .v4 _ => 32
    | .v6 _ => 128
  if maxPrefix < prefixLen then none else some { network, prefixLen }

def hostMatches (pattern host : String) : Bool :=
  if pattern = "*" then true
  else
    match parseCidr pattern with
    | some cidr =>
        match parseIpAddr host with
        | some ip => cidr.contains ip
        | none => false
    | none => globMatches pattern host

/-! ## Rules -/

/-- A constraint that a rule leaves open holds. -/
def constraintHolds {α : Type} (constraint : Option α) (holds : α → Bool) : Bool :=
  match constraint with
  | some value => holds value
  | none => true

def ruleMatches (rule : AclRule) (userId : Int) (userGroupIds : List Int) (targetHost : String)
    (targetPort : UInt16) : Bool :=
  constraintHolds rule.userId (· == userId) &&
    constraintHolds rule.groupId (userGroupIds.contains ·) &&
    constraintHolds rule.targetHost (hostMatches · targetHost) &&
    constraintHolds rule.targetPort (· == (targetPort.toNat : Int))

def ruleAction (rule : AclRule) : AclDecision :=
  if asciiLower rule.action = asciiLower "allow" then .allow else .deny

/-- `Iterator::max_by_key`: the last of the greatest. -/
def maxByPriority : List AclRule → Option AclRule
  | [] => none
  | rule :: rest =>
      some (rest.foldl (fun best rule => if best.priority ≤ rule.priority then rule else best) rule)

def evaluateAcl (rules : List AclRule) (userId : Int) (userGroupIds : List Int)
    (targetHost : String) (targetPort : UInt16) : AclDecision :=
  let matching := rules.filter (ruleMatches · userId userGroupIds targetHost targetPort)
  match maxByPriority matching with
  | some rule => ruleAction rule
  | none => .deny

/-- The stable sort by falling priority. -/
def sortedRules (rules : List AclRule) : List AclRule :=
  rules.mergeSort fun left right => right.priority ≤ left.priority

structure AclEngine where
  rules : List AclRule
deriving Repr, DecidableEq

namespace AclEngine

def fromDb (db : DbProvider) : Except DbError AclEngine := do
  let rules ← db.getAclRules
  pure { rules := sortedRules rules }

def checkAccess (self : AclEngine) (userId : Int) (userGroupIds : List Int) (targetHost : String)
    (targetPort : UInt16) : AclDecision :=
  evaluateAcl self.rules userId userGroupIds targetHost targetPort

def reload (_ : AclEngine) (rules : List AclRule) : AclEngine :=
  { rules := sortedRules rules }

end AclEngine

end RdGateway.Core
