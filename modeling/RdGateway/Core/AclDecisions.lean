import RdGateway.Core.Acl
import RdGateway.Wirekit.LastMax
import Mathlib.Data.Int.Order.Basic

/-!
# The rule that decides

Of the rules that apply to a request, the last one of the greatest priority decides.
Loading rules into the engine sorts them, which changes no decision. Rules of one
priority are told apart by their order only.
-/

set_option autoImplicit false

namespace RdGateway.Core

open Wirekit

theorem maxByPriority_eq (rules : List AclRule) : maxByPriority rules = lastMax AclRule.priority rules := by
  cases rules <;> rfl

/-- The constraints that the rule has are met. -/
structure RuleApplies (rule : AclRule) (userId : Int) (userGroupIds : List Int) (targetHost : String)
    (targetPort : UInt16) : Prop where
  user : ∀ id, rule.userId = some id → id = userId
  group : ∀ id, rule.groupId = some id → id ∈ userGroupIds
  host : ∀ pattern, rule.targetHost = some pattern → hostMatches pattern targetHost = true
  port : ∀ port, rule.targetPort = some port → port = targetPort.toNat

/-- An engine and the rules that the last of its loads supplied. -/
inductive AclEngine.Loaded : AclEngine → List AclRule → Prop where
  | fromDb {db : DbProvider} {engine : AclEngine} {rules : List AclRule} (read : db.getAclRules = .ok rules)
      (built : AclEngine.fromDb db = .ok engine) : Loaded engine rules
  | reload {engine : AclEngine} {earlier : List AclRule} (loaded : Loaded engine earlier)
      (rules : List AclRule) : Loaded (engine.reload rules) rules

theorem constraintHolds_iff {α : Type} {constraint : Option α} {holds : α → Bool} :
    constraintHolds constraint holds = true ↔ ∀ value, constraint = some value → holds value = true := by
  cases constraint <;> simp [constraintHolds]

theorem AclEngine.Loaded.rules_eq {engine : AclEngine} {rules : List AclRule}
    (loaded : engine.Loaded rules) : engine.rules = sortedRules rules := by
  cases loaded with
  | @fromDb db engine rules read built =>
      rw [AclEngine.fromDb, read] at built
      cases built
      rfl
  | reload => rfl

section Query

variable {userId : Int} {userGroupIds : List Int} {targetHost : String} {targetPort : UInt16}

theorem ruleMatches_iff {rule : AclRule} :
    ruleMatches rule userId userGroupIds targetHost targetPort = true ↔
      RuleApplies rule userId userGroupIds targetHost targetPort := by
  simp only [ruleMatches, Bool.and_eq_true, constraintHolds_iff, beq_iff_eq, List.contains_iff_mem]
  constructor
  · intro holds
    obtain ⟨⟨⟨user, group⟩, host⟩, port⟩ := holds
    exact ⟨user, group, host, port⟩
  · intro holds
    obtain ⟨user, group, host, port⟩ := holds
    exact ⟨⟨⟨user, group⟩, host⟩, port⟩

/-- The rule applies, no rule that applies has a greater priority, and none behind it has
the same. -/
def Decides (rules : List AclRule) (userId : Int) (userGroupIds : List Int) (targetHost : String)
    (targetPort : UInt16) (rule : AclRule) : Prop :=
  ∃ before after, rules = before ++ rule :: after ∧
    RuleApplies rule userId userGroupIds targetHost targetPort ∧
    (∀ other ∈ before, RuleApplies other userId userGroupIds targetHost targetPort →
      other.priority ≤ rule.priority) ∧
    ∀ other ∈ after, RuleApplies other userId userGroupIds targetHost targetPort →
      other.priority < rule.priority

theorem decides_iff {rules : List AclRule} {rule : AclRule} :
    lastMax AclRule.priority (rules.filter (ruleMatches · userId userGroupIds targetHost targetPort)) =
        some rule ↔
      Decides rules userId userGroupIds targetHost targetPort rule := by
  rw [lastMax_eq_some, isLastMax_filter]
  simp only [ruleMatches_iff, Decides]

theorem ruleAction_eq_allow {rule : AclRule} :
    ruleAction rule = .allow ↔ asciiLower rule.action = asciiLower "allow" := by
  unfold ruleAction
  split <;> simp_all

theorem evaluateAcl_eq (rules : List AclRule) :
    evaluateAcl rules userId userGroupIds targetHost targetPort =
      (lastMax AclRule.priority
        (rules.filter (ruleMatches · userId userGroupIds targetHost targetPort))).elim .deny ruleAction := by
  simp only [evaluateAcl, maxByPriority_eq]
  cases lastMax AclRule.priority
      (rules.filter (ruleMatches · userId userGroupIds targetHost targetPort)) <;> rfl

theorem evaluateAcl_eq_allow {rules : List AclRule} :
    evaluateAcl rules userId userGroupIds targetHost targetPort = .allow ↔
      ∃ rule, Decides rules userId userGroupIds targetHost targetPort rule ∧
        asciiLower rule.action = asciiLower "allow" := by
  simp only [evaluateAcl_eq, ← decides_iff, ← ruleAction_eq_allow]
  cases lastMax AclRule.priority
      (rules.filter (ruleMatches · userId userGroupIds targetHost targetPort)) with
  | none => simp
  | some rule => simp

theorem evaluateAcl_sortedRules (rules : List AclRule) :
    evaluateAcl (sortedRules rules) userId userGroupIds targetHost targetPort =
      evaluateAcl rules userId userGroupIds targetHost targetPort := by
  rw [evaluateAcl_eq, evaluateAcl_eq, sortedRules, lastMax_filter_mergeSort]

theorem AclEngine.Loaded.checkAccess_eq {engine : AclEngine} {rules : List AclRule}
    (loaded : engine.Loaded rules) :
    engine.checkAccess userId userGroupIds targetHost targetPort =
      evaluateAcl rules userId userGroupIds targetHost targetPort := by
  rw [AclEngine.checkAccess, loaded.rules_eq, evaluateAcl_sortedRules]

/-- Whatever loads came before, access is allowed exactly if the rule that decides among the
rules loaded last allows it. Sorting them changes no decision. -/
theorem acl_reference {engine : AclEngine} {rules : List AclRule} (loaded : engine.Loaded rules)
    (userId : Int) (userGroupIds : List Int) (targetHost : String) (targetPort : UInt16) :
    (engine.checkAccess userId userGroupIds targetHost targetPort = .allow ↔
      ∃ rule, Decides rules userId userGroupIds targetHost targetPort rule ∧
        asciiLower rule.action = asciiLower "allow") ∧
    ((∀ rule ∈ rules, ¬ RuleApplies rule userId userGroupIds targetHost targetPort) →
      engine.checkAccess userId userGroupIds targetHost targetPort = .deny) ∧
    evaluateAcl (sortedRules rules) userId userGroupIds targetHost targetPort =
      evaluateAcl rules userId userGroupIds targetHost targetPort := by
  rw [loaded.checkAccess_eq]
  refine ⟨evaluateAcl_eq_allow, fun none => ?_, evaluateAcl_sortedRules rules⟩
  cases decision : evaluateAcl rules userId userGroupIds targetHost targetPort with
  | deny => rfl
  | allow =>
      obtain ⟨rule, ⟨before, after, rfl, applies, _⟩, _⟩ := evaluateAcl_eq_allow.mp decision
      exact absurd applies (none rule (List.mem_append_right _ List.mem_cons_self))

def anywhere (id : Int) (action : String) : AclRule :=
  { id, priority := 0, userId := none, groupId := none, targetHost := none, targetPort := none, action }

theorem acl_reference_equal :
    let rules := [anywhere 1 "deny", anywhere 2 "Allow"]
    let engine := AclEngine.mk (sortedRules rules.reverse)
    engine.checkAccess 1 [] "srv" 3389 ≠ .allow ∧ (engine.reload rules).checkAccess 1 [] "srv" 3389 = .allow := by
  intro rules engine
  let db : DbProvider :=
    { getUserByUsername := fun _ => .ok none, getUserGroups := fun _ => .ok [], getAclRules := .ok rules.reverse }
  have database : engine.Loaded rules.reverse := @AclEngine.Loaded.fromDb db _ _ rfl rfl
  constructor
  · intro allowed
    obtain ⟨rule, decides, allows⟩ := (acl_reference database 1 [] "srv" 3389).1.mp allowed
    have last : lastMax AclRule.priority
        (rules.reverse.filter (ruleMatches · 1 [] "srv" 3389)) = some (anywhere 1 "deny") := rfl
    cases last.symm.trans (decides_iff.mpr decides)
    exact absurd allows (by decide +kernel)
  · refine (acl_reference (database.reload rules) 1 [] "srv" 3389).1.mpr ⟨anywhere 2 "Allow", ?_, by decide +kernel⟩
    exact decides_iff.mp rfl

/-! ## The order of the rules -/

/-- The rule applies, and no rule that applies has a greater priority. -/
def IsTop (rules : List AclRule) (userId : Int) (userGroupIds : List Int) (targetHost : String)
    (targetPort : UInt16) (rule : AclRule) : Prop :=
  rule ∈ rules ∧ RuleApplies rule userId userGroupIds targetHost targetPort ∧
    ∀ other ∈ rules, RuleApplies other userId userGroupIds targetHost targetPort →
      other.priority ≤ rule.priority

theorem Decides.isTop {rules : List AclRule} {rule : AclRule}
    (decides : Decides rules userId userGroupIds targetHost targetPort rule) :
    IsTop rules userId userGroupIds targetHost targetPort rule := by
  obtain ⟨before, after, rfl, applies, low, lower⟩ := decides
  refine ⟨List.mem_append_right _ List.mem_cons_self, applies, fun other member otherApplies => ?_⟩
  rcases List.mem_append.mp member with inFront | behind
  · exact low other inFront otherApplies
  · rcases List.mem_cons.mp behind with rfl | behind
    · exact le_refl _
    · exact le_of_lt (lower other behind otherApplies)

theorem IsTop.perm {rules others : List AclRule} {rule : AclRule}
    (top : IsTop rules userId userGroupIds targetHost targetPort rule) (same : others.Perm rules) :
    IsTop others userId userGroupIds targetHost targetPort rule := by
  obtain ⟨member, applies, greatest⟩ := top
  exact ⟨same.mem_iff.mpr member, applies, fun other inside => greatest other (same.mem_iff.mp inside)⟩

theorem evaluateAcl_of_decides {rules : List AclRule} {rule : AclRule}
    (decides : Decides rules userId userGroupIds targetHost targetPort rule) :
    evaluateAcl rules userId userGroupIds targetHost targetPort = ruleAction rule := by
  rw [evaluateAcl_eq, decides_iff.mpr decides, Option.elim_some]

/-- A rule of the greatest priority decides when it is moved to the end. -/
theorem IsTop.decides_last {rules : List AclRule} {rule : AclRule}
    (top : IsTop rules userId userGroupIds targetHost targetPort rule) :
    Decides (rules.erase rule ++ [rule]) userId userGroupIds targetHost targetPort rule := by
  obtain ⟨member, applies, greatest⟩ := top
  exact ⟨rules.erase rule, [], rfl, applies,
    fun other inside => greatest other (List.mem_of_mem_erase inside),
    fun other inside => absurd inside List.not_mem_nil⟩

theorem evaluateAcl_cases (rules : List AclRule) :
    (∃ rule, Decides rules userId userGroupIds targetHost targetPort rule) ∨
      ∀ rule ∈ rules, ¬ RuleApplies rule userId userGroupIds targetHost targetPort := by
  cases found : lastMax AclRule.priority
      (rules.filter (ruleMatches · userId userGroupIds targetHost targetPort)) with
  | some rule => exact .inl ⟨rule, decides_iff.mp found⟩
  | none =>
      refine .inr fun rule member applies => ?_
      have kept : rule ∈ rules.filter (ruleMatches · userId userGroupIds targetHost targetPort) :=
        List.mem_filter.mpr ⟨member, ruleMatches_iff.mpr applies⟩
      rw [lastMax_eq_none.mp found] at kept
      cases kept

theorem evaluateAcl_of_none {rules : List AclRule}
    (none : ∀ rule ∈ rules, ¬ RuleApplies rule userId userGroupIds targetHost targetPort) :
    evaluateAcl rules userId userGroupIds targetHost targetPort = .deny := by
  cases decision : evaluateAcl rules userId userGroupIds targetHost targetPort with
  | deny => rfl
  | allow =>
      obtain ⟨rule, decides, _⟩ := evaluateAcl_eq_allow.mp decision
      obtain ⟨member, applies, _⟩ := decides.isTop
      exact absurd applies (none rule member)

/-- Every order of the rules gets the same decision. -/
def OrderFree (rules : List AclRule) (userId : Int) (userGroupIds : List Int) (targetHost : String)
    (targetPort : UInt16) : Prop :=
  ∀ others, others.Perm rules →
    evaluateAcl others userId userGroupIds targetHost targetPort =
        evaluateAcl rules userId userGroupIds targetHost targetPort ∧
      ∀ first second : AclEngine, first.Loaded others → second.Loaded rules →
        first.checkAccess userId userGroupIds targetHost targetPort =
          second.checkAccess userId userGroupIds targetHost targetPort

/-- All orders of the rules get one decision, exactly if the rules of the greatest priority
among those that apply have one action. -/
theorem orderFree_iff (rules : List AclRule) (userId : Int) (userGroupIds : List Int)
    (targetHost : String) (targetPort : UInt16) :
    OrderFree rules userId userGroupIds targetHost targetPort ↔
      ∀ first second, IsTop rules userId userGroupIds targetHost targetPort first →
        IsTop rules userId userGroupIds targetHost targetPort second →
        ruleAction first = ruleAction second := by
  constructor
  · intro free first second topFirst topSecond
    have last {rule : AclRule} (top : IsTop rules userId userGroupIds targetHost targetPort rule) :
        ruleAction rule = evaluateAcl rules userId userGroupIds targetHost targetPort := by
      have moved : (rules.erase rule ++ [rule]).Perm rules :=
        (List.perm_append_singleton rule _).trans (List.perm_cons_erase top.1).symm
      rw [← evaluateAcl_of_decides top.decides_last]
      exact (free _ moved).1
    exact (last topFirst).trans (last topSecond).symm
  · intro agree others same
    have decision : evaluateAcl others userId userGroupIds targetHost targetPort =
        evaluateAcl rules userId userGroupIds targetHost targetPort := by
      rcases evaluateAcl_cases rules with ⟨rule, decides⟩ | none
      · rcases evaluateAcl_cases others with ⟨other, otherDecides⟩ | noOther
        · rw [evaluateAcl_of_decides decides, evaluateAcl_of_decides otherDecides]
          exact agree other rule (otherDecides.isTop.perm same.symm) decides.isTop
        · obtain ⟨member, applies, _⟩ := decides.isTop
          exact absurd applies (noOther rule (same.mem_iff.mpr member))
      · have noOther := fun rule member => none rule (same.mem_iff.mp member)
        rw [evaluateAcl_of_none none, evaluateAcl_of_none noOther]
    refine ⟨decision, fun first second loaded again => ?_⟩
    rw [loaded.checkAccess_eq, again.checkAccess_eq, decision]

/-- Two rules of the default priority, loaded in the two orders that the database may return. -/
theorem order_of_equal_priorities_decides :
    ¬ ∀ (rules others : List AclRule) (userId : Int) (userGroupIds : List Int) (targetHost : String)
      (targetPort : UInt16), others.Perm rules →
      evaluateAcl others userId userGroupIds targetHost targetPort =
        evaluateAcl rules userId userGroupIds targetHost targetPort := by
  intro same
  have decision := same [anywhere 1 "allow", anywhere 2 "deny"] [anywhere 2 "deny", anywhere 1 "allow"]
    1 [] "srv" 3389 (List.Perm.swap _ _ _)
  exact absurd decision (by decide +kernel)

/-! ## Adding and deleting a rule -/

/-- A rule that does not allow only takes access away, and one that allows only grants it. -/
structure EditsOneWay (decision : List AclRule → AclDecision) (before : List AclRule) (rule : AclRule)
    (after : List AclRule) : Prop where
  insertOther : asciiLower rule.action ≠ asciiLower "allow" →
    decision (before ++ after) = .deny → decision (before ++ rule :: after) = .deny
  insertAllow : asciiLower rule.action = asciiLower "allow" →
    decision (before ++ after) = .allow → decision (before ++ rule :: after) = .allow
  deleteOther : asciiLower rule.action ≠ asciiLower "allow" →
    decision (before ++ rule :: after) = .allow → decision (before ++ after) = .allow
  deleteAllow : asciiLower rule.action = asciiLower "allow" →
    decision (before ++ rule :: after) = .deny → decision (before ++ after) = .deny

/-- It is enough that a rule that is put in decides itself, or changes nothing. -/
theorem EditsOneWay.of_insert {decision : List AclRule → AclDecision} {before after : List AclRule}
    {rule : AclRule}
    (inserted : decision (before ++ rule :: after) = ruleAction rule ∨
      decision (before ++ rule :: after) = decision (before ++ after)) :
    EditsOneWay decision before rule after := by
  have denies (other : asciiLower rule.action ≠ asciiLower "allow") : ruleAction rule = .deny := if_neg other
  constructor
  · intro other without
    rcases inserted with decides | same
    · exact decides.trans (denies other)
    · exact same.trans without
  · intro allow without
    rcases inserted with decides | same
    · exact decides.trans (ruleAction_eq_allow.mpr allow)
    · exact same.trans without
  · intro other withRule
    rcases inserted with decides | same
    · rw [decides, denies other] at withRule
      cases withRule
    · exact same.symm.trans withRule
  · intro allow withRule
    rcases inserted with decides | same
    · rw [decides, ruleAction_eq_allow.mpr allow] at withRule
      cases withRule
    · exact same.symm.trans withRule

theorem evaluateAcl_insert (before after : List AclRule) (rule : AclRule) :
    evaluateAcl (before ++ rule :: after) userId userGroupIds targetHost targetPort = ruleAction rule ∨
      evaluateAcl (before ++ rule :: after) userId userGroupIds targetHost targetPort =
        evaluateAcl (before ++ after) userId userGroupIds targetHost targetPort := by
  rw [evaluateAcl_eq, evaluateAcl_eq, List.filter_append, List.filter_append, List.filter_cons]
  split
  · rcases lastMax_insert AclRule.priority
      (before.filter (ruleMatches · userId userGroupIds targetHost targetPort))
      (after.filter (ruleMatches · userId userGroupIds targetHost targetPort)) rule with here | same
    · rw [here]
      exact .inl rfl
    · rw [same]
      exact .inr rfl
  · exact .inr rfl

end Query

/-- Wherever a rule is put in or deleted, and whatever its priority. -/
theorem acl_edits (before after : List AclRule) (rule : AclRule) (userId : Int)
    (userGroupIds : List Int) (targetHost : String) (targetPort : UInt16) :
    EditsOneWay (evaluateAcl · userId userGroupIds targetHost targetPort) before rule after ∧
      ∀ engine : AclEngine,
        EditsOneWay (fun rules => (engine.reload rules).checkAccess userId userGroupIds targetHost targetPort)
          before rule after := by
  have inserted : EditsOneWay (evaluateAcl · userId userGroupIds targetHost targetPort)
      before rule after := .of_insert (evaluateAcl_insert before after rule)
  refine ⟨inserted, fun engine => ?_⟩
  have decision (rules : List AclRule) :
      (engine.reload rules).checkAccess userId userGroupIds targetHost targetPort =
        evaluateAcl rules userId userGroupIds targetHost targetPort := evaluateAcl_sortedRules rules
  simp only [decision]
  exact inserted

end RdGateway.Core
