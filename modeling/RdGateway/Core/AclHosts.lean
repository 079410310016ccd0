import RdGateway.Core.AclDecisions
import RdGateway.Core.AclGlob

/-!
# Hosts and addresses

A CIDR pattern compares addresses, by their leading bits. Every other pattern compares
texts, and an IPv6 address has many.
-/

set_option autoImplicit false

namespace RdGateway.Core

open Wirekit Wirekit.Glob

/-! ## CIDR patterns -/

/-- A mask as it is computed, where a shift by the whole width or more would crash. -/
def checkedMask {ε : Type} (width : Nat) (prefixLen : UInt8) : Outcome ε (BitVec width) :=
  if prefixLen = 0 then pure 0
  else do
    let shift ← checkedSub width prefixLen.toNat
    if shift < width then pure (BitVec.allOnes width <<< shift) else .panicked

section Masks

variable {ε : Type} {prefixLen : UInt8}

theorem checkedMask_eq {width : Nat} (fits : prefixLen.toNat ≤ width) :
    (checkedMask width prefixLen : Outcome ε (BitVec width)) =
      .ok (if prefixLen = 0 then 0 else BitVec.allOnes width <<< (width - prefixLen.toNat)) := by
  unfold checkedMask
  by_cases none : prefixLen = 0
  · rw [if_pos none, if_pos none]
    rfl
  · have some : 0 < prefixLen.toNat := Nat.pos_of_ne_zero fun zero => none (UInt8.toNat_inj.mp zero)
    rw [if_neg none, if_neg none, checkedSub, if_pos fits, Outcome.ok_bind, if_pos (by omega)]
    rfl

theorem ipv4Mask_eq (prefixLen : UInt8) :
    ipv4Mask prefixLen = BitVec.allOnes 32 <<< (32 - prefixLen.toNat) := by
  unfold ipv4Mask
  split
  · next none =>
    rw [none]
    decide
  · rfl

theorem ipv6Mask_eq (prefixLen : UInt8) :
    ipv6Mask prefixLen = BitVec.allOnes 128 <<< (128 - prefixLen.toNat) := by
  unfold ipv6Mask
  split
  · next none =>
    rw [none]
    decide
  · rfl

end Masks

/-- The network has a text of its own, and the prefix fits into it. -/
theorem parseCidr_network {pattern : String} {cidr : Cidr} (parsed : parseCidr pattern = some cidr) :
    (∃ host, parseIpAddr host = some cidr.network) ∧ cidr.prefixLen.toNat ≤ cidr.network.width := by
  unfold parseCidr at parsed
  simp only [Option.bind_eq_bind, Option.bind_eq_some_iff, Prod.exists] at parsed
  obtain ⟨front, _, _, network, address, prefixLen, _, parsed⟩ := parsed
  cases network with
  | v4 addr =>
      dsimp only at parsed
      split at parsed
      · cases parsed
      · next fits =>
        cases parsed
        exact ⟨⟨front, address⟩, UInt8.le_iff_toNat_le.mp (UInt8.not_lt.mp fits)⟩
  | v6 addr =>
      dsimp only at parsed
      split at parsed
      · cases parsed
      · next fits =>
        cases parsed
        exact ⟨⟨front, address⟩, UInt8.le_iff_toNat_le.mp (UInt8.not_lt.mp fits)⟩

theorem Cidr.contains_iff {cidr : Cidr} (fits : cidr.prefixLen.toNat ≤ cidr.network.width) (ip : IpAddr) :
    cidr.contains ip = true ↔ SamePrefix cidr.prefixLen.toNat cidr.network ip := by
  obtain ⟨network, prefixLen⟩ := cidr
  cases network with
  | v4 network =>
      cases ip with
      | v4 ip =>
          simp only [Cidr.contains, decide_eq_true_iff, ipv4Mask_eq]
          exact and_leadingOnes_iff fits _ _
      | v6 ip => simp [Cidr.contains, SamePrefix]
  | v6 network =>
      cases ip with
      | v4 ip => simp [Cidr.contains, SamePrefix]
      | v6 ip =>
          simp only [Cidr.contains, decide_eq_true_iff, ipv6Mask_eq]
          exact and_leadingOnes_iff fits _ _

theorem hostMatches_cidr {pattern : String} {cidr : Cidr} (parsed : parseCidr pattern = some cidr)
    (host : String) :
    hostMatches pattern host = true ↔
      ∃ ip, parseIpAddr host = some ip ∧ SamePrefix cidr.prefixLen.toNat cidr.network ip := by
  have notStar : pattern ≠ "*" := by
    rintro rfl
    have unparsed : parseCidr "*" = none := by decide +kernel
    rw [unparsed] at parsed
    cases parsed
  have fits := (parseCidr_network parsed).2
  rw [hostMatches, if_neg notStar, parsed]
  dsimp only
  cases parseIpAddr host with
  | none => simp
  | some ip => simp [Cidr.contains_iff fits]

/-- No pattern is empty: a network matches its own address, any other pattern its own text. -/
theorem exists_hostMatches (pattern : String) : ∃ host, hostMatches pattern host = true := by
  cases parsed : parseCidr pattern with
  | some cidr =>
      obtain ⟨host, address⟩ := (parseCidr_network parsed).1
      exact ⟨host, (hostMatches_cidr parsed host).mpr ⟨_, address, .self _ _⟩⟩
  | none =>
      refine ⟨pattern, ?_⟩
      rw [hostMatches, parsed]
      split
      · rfl
      · exact (globMatches_iff pattern pattern).mpr (.self _ _)

/-- A CIDR pattern matches the hosts that are addresses with its leading bits, and computing
its mask never shifts by the whole width. -/
theorem cidr_hosts {pattern : String} {cidr : Cidr} (parsed : parseCidr pattern = some cidr) :
    cidr.prefixLen.toNat ≤ cidr.network.width ∧
    (∀ addr, cidr.network = .v4 addr →
      (checkedMask 32 cidr.prefixLen : Outcome Empty (BitVec 32)) = .ok (ipv4Mask cidr.prefixLen)) ∧
    (∀ addr, cidr.network = .v6 addr →
      (checkedMask 128 cidr.prefixLen : Outcome Empty (BitVec 128)) = .ok (ipv6Mask cidr.prefixLen)) ∧
    (∀ host, hostMatches pattern host = true ↔
      ∃ ip, parseIpAddr host = some ip ∧ SamePrefix cidr.prefixLen.toNat cidr.network ip) ∧
    ∀ wider other, parseCidr wider = some other → other.network = cidr.network →
      other.prefixLen ≤ cidr.prefixLen →
      ∀ host, hostMatches pattern host = true → hostMatches wider host = true := by
  have fits := (parseCidr_network parsed).2
  refine ⟨fits, fun addr family => ?_, fun addr family => ?_, hostMatches_cidr parsed, ?_⟩
  · rw [family] at fits
    exact checkedMask_eq fits
  · rw [family] at fits
    exact checkedMask_eq fits
  · intro wider other otherParsed network shorter host matched
    obtain ⟨ip, address, same⟩ := (hostMatches_cidr parsed host).mp matched
    refine (hostMatches_cidr otherParsed host).mpr ⟨ip, address, ?_⟩
    rw [network]
    exact same.shorter (UInt8.le_iff_toNat_le.mp shorter)

theorem cidr_hosts_example :
    hostMatches "10.0.0.0/8" "10.1.2.3" = true ∧ hostMatches "10.9.9.9/8" "11.0.0.1" = false := by
  have parsed : parseCidr "10.0.0.0/8" = some ⟨.v4 ⟨#v[10, 0, 0, 0]⟩, 8⟩ := by decide +kernel
  have dirty : parseCidr "10.9.9.9/8" = some ⟨.v4 ⟨#v[10, 9, 9, 9]⟩, 8⟩ := by decide +kernel
  have inside : parseIpAddr "10.1.2.3" = some (.v4 ⟨#v[10, 1, 2, 3]⟩) := by decide +kernel
  have outside : parseIpAddr "11.0.0.1" = some (.v4 ⟨#v[11, 0, 0, 1]⟩) := by decide +kernel
  constructor
  · refine ((cidr_hosts parsed).2.2.2.1 _).mpr ⟨_, inside, ?_⟩
    show ∀ i < 8, _
    decide
  · rw [Bool.eq_false_iff]
    intro matched
    obtain ⟨ip, address, same⟩ := ((cidr_hosts dirty).2.2.2.1 _).mp matched
    rw [outside] at address
    cases address
    exact absurd (same 7 (by decide)) (by decide)

/-! ## Spellings of one address -/

theorem ruleMatches_congr {rule : AclRule} {first second : String}
    (same : ∀ pattern, rule.targetHost = some pattern →
      hostMatches pattern first = hostMatches pattern second)
    (userId : Int) (userGroupIds : List Int) (targetPort : UInt16) :
    ruleMatches rule userId userGroupIds first targetPort =
      ruleMatches rule userId userGroupIds second targetPort := by
  unfold ruleMatches
  cases host : rule.targetHost with
  | none => rfl
  | some pattern => simp only [constraintHolds, same pattern host]

/-- The pattern does not tell two spellings of one address apart. -/
def SpellingFree (first second pattern : String) : Prop :=
  pattern = "*" ∨ (parseCidr pattern).isSome ∨ globMatches pattern first = globMatches pattern second

theorem hostMatches_spelling_iff {ip : IpAddr} {first second : String}
    (firstIs : parseIpAddr first = some ip) (secondIs : parseIpAddr second = some ip) (pattern : String) :
    hostMatches pattern first = hostMatches pattern second ↔ SpellingFree first second pattern := by
  unfold hostMatches SpellingFree
  by_cases star : pattern = "*"
  · simp [star]
  · cases parsed : parseCidr pattern with
    | some cidr => simp [star, firstIs, secondIs]
    | none => simp [star]

def allowHost (pattern : String) : AclRule :=
  { id := 1, priority := 0, userId := none, groupId := none, targetHost := some pattern
    targetPort := none, action := "allow" }

theorem ruleAction_allowHost (pattern : String) : ruleAction (allowHost pattern) = .allow :=
  ruleAction_eq_allow.mpr rfl

theorem evaluateAcl_allowHost (pattern host : String) :
    evaluateAcl [allowHost pattern] 1 [] host 3389 = .allow ↔ hostMatches pattern host = true := by
  have applies : ruleMatches (allowHost pattern) 1 [] host 3389 = hostMatches pattern host :=
    Bool.and_true _
  rw [evaluateAcl_eq, List.filter_singleton, applies]
  cases hostMatches pattern host with
  | false => simp [lastMax]
  | true => simp [lastMax, ruleAction_allowHost]

/-- Of the rules that match one of the spellings at least, the last one of the greatest priority
matches both. No other rule can tell the decisions apart. -/
def RanksSpellingFree (rules : List AclRule) (userId : Int) (userGroupIds : List Int) (first second : String)
    (targetPort : UInt16) : Prop :=
  ∀ rule, maxByPriority (rules.filter fun rule => ruleMatches rule userId userGroupIds first targetPort ||
      ruleMatches rule userId userGroupIds second targetPort) = some rule →
    ∀ pattern, rule.targetHost = some pattern → SpellingFree first second pattern

section Spellings

variable {ip : IpAddr} {first second : String} {rules : List AclRule} {userId : Int}
  {userGroupIds : List Int} {targetPort : UInt16}

theorem ruleMatches_host {rule : AclRule} {host pattern : String}
    (applies : ruleMatches rule userId userGroupIds host targetPort = true)
    (spelled : rule.targetHost = some pattern) : hostMatches pattern host = true :=
  (ruleMatches_iff.mp applies).host pattern spelled

theorem ruleMatches_spelling_iff (firstIs : parseIpAddr first = some ip) (secondIs : parseIpAddr second = some ip)
    {rule : AclRule} (either : (ruleMatches rule userId userGroupIds first targetPort ||
      ruleMatches rule userId userGroupIds second targetPort) = true) :
    ruleMatches rule userId userGroupIds first targetPort =
        ruleMatches rule userId userGroupIds second targetPort ↔
      ∀ pattern, rule.targetHost = some pattern → SpellingFree first second pattern := by
  constructor
  · intro same pattern spelled
    rw [same, Bool.or_self] at either
    rw [← hostMatches_spelling_iff firstIs secondIs, ruleMatches_host (same.trans either) spelled,
      ruleMatches_host either spelled]
  · intro free
    refine ruleMatches_congr (fun pattern spelled => ?_) _ _ _
    exact (hostMatches_spelling_iff firstIs secondIs pattern).mpr (free pattern spelled)

theorem ranksSpellingFree_iff (firstIs : parseIpAddr first = some ip) (secondIs : parseIpAddr second = some ip) :
    RanksSpellingFree rules userId userGroupIds first second targetPort ↔
      ∀ rule, lastMax AclRule.priority
          (rules.filter fun rule => ruleMatches rule userId userGroupIds first targetPort ||
            ruleMatches rule userId userGroupIds second targetPort) = some rule →
        ruleMatches rule userId userGroupIds first targetPort =
          ruleMatches rule userId userGroupIds second targetPort := by
  unfold RanksSpellingFree
  simp only [maxByPriority_eq]
  refine forall_congr' fun rule => forall_congr' fun ranks => ?_
  have chosen := (List.mem_filter.mp (lastMax_eq_some.mp ranks).mem).2
  exact (ruleMatches_spelling_iff firstIs secondIs chosen).symm

theorem evaluateAcl_spelling (firstIs : parseIpAddr first = some ip) (secondIs : parseIpAddr second = some ip)
    (free : RanksSpellingFree rules userId userGroupIds first second targetPort) :
    evaluateAcl rules userId userGroupIds first targetPort =
      evaluateAcl rules userId userGroupIds second targetPort := by
  rw [evaluateAcl_eq, evaluateAcl_eq,
    lastMax_filter_congr ((ranksSpellingFree_iff firstIs secondIs).mp free)]

/-- Two spellings of one address get one decision from all rules with these host patterns,
exactly if no pattern compares texts and matches one of the two only. -/
theorem decision_patterns_iff (firstIs : parseIpAddr first = some ip) (secondIs : parseIpAddr second = some ip)
    (patterns : String → Prop) :
    (∀ rules : List AclRule,
        (∀ rule ∈ rules, ∀ pattern, rule.targetHost = some pattern → patterns pattern) →
        ∀ userId userGroupIds targetPort,
          evaluateAcl rules userId userGroupIds first targetPort =
            evaluateAcl rules userId userGroupIds second targetPort) ↔
      ∀ pattern, patterns pattern → SpellingFree first second pattern := by
  constructor
  · intro same pattern allowed
    rw [← hostMatches_spelling_iff firstIs secondIs]
    have single : ∀ rule ∈ [allowHost pattern], ∀ other, rule.targetHost = some other →
        patterns other := by
      intro rule member other spelled
      rw [List.mem_singleton.mp member] at spelled
      cases spelled
      exact allowed
    have decision := same _ single 1 [] 3389
    rw [Bool.eq_iff_iff, ← evaluateAcl_allowHost, ← evaluateAcl_allowHost, decision]
  · intro free rules used userId userGroupIds targetPort
    refine evaluateAcl_spelling firstIs secondIs fun rule ranks pattern spelled => ?_
    rw [maxByPriority_eq] at ranks
    have member := (List.mem_filter.mp (lastMax_eq_some.mp ranks).mem).1
    exact free pattern (used rule member pattern spelled)

/-! The decision with other actions of the same rules. -/

def withAction (action : AclRule → String) (rule : AclRule) : AclRule :=
  { rule with action := action rule }

theorem evaluateAcl_withAction (action : AclRule → String) (rules : List AclRule) (host : String) :
    evaluateAcl (rules.map (withAction action)) userId userGroupIds host targetPort =
      (lastMax AclRule.priority (rules.filter (ruleMatches · userId userGroupIds host targetPort))).elim .deny
        fun rule => ruleAction (withAction action rule) := by
  have same : (rules.map (withAction action)).filter (ruleMatches · userId userGroupIds host targetPort) =
      (rules.filter (ruleMatches · userId userGroupIds host targetPort)).map (withAction action) :=
    List.filter_map
  have key : (fun rule => (withAction action rule).priority) = AclRule.priority := rfl
  rw [evaluateAcl_eq, same, lastMax_map, key]
  cases lastMax AclRule.priority (rules.filter (ruleMatches · userId userGroupIds host targetPort)) <;> rfl

/-- Where only this rule allows, it decides for the hosts that it matches. -/
theorem evaluateAcl_onlyAllow {rule : AclRule} {keep : AclRule → Bool}
    (ranks : lastMax AclRule.priority (rules.filter keep) = some rule) {host : String}
    (kept : ∀ other, ruleMatches other userId userGroupIds host targetPort = true → keep other = true) :
    evaluateAcl (rules.map (withAction fun other => if other = rule then "allow" else "deny")) userId
        userGroupIds host targetPort = .allow ↔
      ruleMatches rule userId userGroupIds host targetPort = true := by
  have inside : rules.filter (ruleMatches · userId userGroupIds host targetPort) =
      (rules.filter keep).filter (ruleMatches · userId userGroupIds host targetPort) := by
    rw [List.filter_filter]
    refine List.filter_congr fun other _ => ?_
    cases applies : ruleMatches other userId userGroupIds host targetPort with
    | false => rfl
    | true => rw [kept other applies, Bool.and_self]
  rw [evaluateAcl_withAction]
  constructor
  · intro allowed
    cases decides : lastMax AclRule.priority
        (rules.filter (ruleMatches · userId userGroupIds host targetPort)) with
    | none =>
        rw [decides] at allowed
        cases allowed
    | some other =>
        rw [decides, Option.elim_some] at allowed
        by_cases same : other = rule
        · rw [← same]
          exact (List.mem_filter.mp (lastMax_eq_some.mp decides).mem).2
        · have denied : (withAction (fun other => if other = rule then "allow" else "deny") other).action =
              "deny" := if_neg same
          rw [ruleAction_eq_allow, denied] at allowed
          exact absurd allowed (by decide +kernel)
  · intro applies
    rw [inside, lastMax_filter_of_keep ranks applies, Option.elim_some, ruleAction_eq_allow]
    exact congrArg asciiLower (if_pos rfl)

/-- Two spellings of one address get one decision if the rule that ranks first among those that
match either of them matches both, and get one for all actions of these rules only then. -/
theorem decision_spelling_iff (firstIs : parseIpAddr first = some ip) (secondIs : parseIpAddr second = some ip)
    (rules : List AclRule) (userId : Int) (userGroupIds : List Int) (targetPort : UInt16) :
    (RanksSpellingFree rules userId userGroupIds first second targetPort →
      evaluateAcl rules userId userGroupIds first targetPort =
        evaluateAcl rules userId userGroupIds second targetPort) ∧
    (RanksSpellingFree rules userId userGroupIds first second targetPort ↔
      ∀ action : AclRule → String,
        evaluateAcl (rules.map (withAction action)) userId userGroupIds first targetPort =
          evaluateAcl (rules.map (withAction action)) userId userGroupIds second targetPort) := by
  refine ⟨evaluateAcl_spelling firstIs secondIs, fun free action => ?_, fun same => ?_⟩
  · rw [evaluateAcl_withAction, evaluateAcl_withAction,
      lastMax_filter_congr ((ranksSpellingFree_iff firstIs secondIs).mp free)]
  · rw [ranksSpellingFree_iff firstIs secondIs]
    intro rule ranks
    have decision := same fun other => if other = rule then "allow" else "deny"
    rw [Bool.eq_iff_iff,
      ← evaluateAcl_onlyAllow ranks (fun other applies => by rw [applies, Bool.true_or]),
      ← evaluateAcl_onlyAllow ranks (fun other applies => by rw [applies, Bool.or_true]), decision]

end Spellings

theorem loopback_spellings :
    parseIpAddr "::1" = some (.v6 ⟨#v[0, 0, 0, 0, 0, 0, 0, 1]⟩) ∧
      parseIpAddr "0:0:0:0:0:0:0:1" = some (.v6 ⟨#v[0, 0, 0, 0, 0, 0, 0, 1]⟩) := by
  decide +kernel

theorem decision_spelling_cidr :
    let rules := [{ allowHost "::1" with userId := some 5 }, allowHost "::/0"]
    evaluateAcl rules 1 [] "::1" 3389 = evaluateAcl rules 1 [] "0:0:0:0:0:0:0:1" 3389 := by
  intro rules
  have network : (parseCidr "::/0").isSome := by decide +kernel
  have ranks : maxByPriority (rules.filter fun rule => ruleMatches rule 1 [] "::1" 3389 ||
      ruleMatches rule 1 [] "0:0:0:0:0:0:0:1" 3389) = some (allowHost "::/0") := by decide +kernel
  refine (decision_spelling_iff loopback_spellings.1 loopback_spellings.2 rules 1 [] 3389).1 ?_
  intro rule first pattern spelled
  cases ranks.symm.trans first
  cases spelled
  exact .inr (.inl network)

/-- The rule for `::1` does not apply to another spelling of the same address. -/
theorem long_spelling_denied :
    ¬ ∀ (rules : List AclRule) (userId : Int) (userGroupIds : List Int) (targetPort : UInt16)
      (first second : String) (ip : IpAddr), parseIpAddr first = some ip → parseIpAddr second = some ip →
      evaluateAcl rules userId userGroupIds first targetPort =
        evaluateAcl rules userId userGroupIds second targetPort := by
  intro same
  have decision := same [allowHost "::1"] 1 [] 3389 _ _ _ loopback_spellings.1 loopback_spellings.2
  have noNetwork : parseCidr "::1" = none := by decide +kernel
  have text (host : String) : hostMatches "::1" host = globMatches "::1" host := by
    rw [hostMatches, if_neg (by decide), noNetwork]
  have spelled : asciiLower "::1" = [58, 58, 49] := by decide +kernel
  have short : evaluateAcl [allowHost "::1"] 1 [] "::1" 3389 = .allow := by
    rw [evaluateAcl_allowHost, text, globMatches_iff, spelled]
    exact .item (by decide) (.item (by decide) (.item (by decide) .done))
  rw [short, eq_comm, evaluateAcl_allowHost, text, globMatches_iff] at decision
  have itself := decision.covers.eq_of_starless (by rw [spelled]; decide)
  exact absurd itself (by decide +kernel)

end RdGateway.Core
