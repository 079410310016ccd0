import RdGateway.Core.Acl

/-!
# The table of ACL rules

The statements that the SQLite provider sends to the table of rules. A row is an allow
or a deny rule; its port may be any number, or missing.
-/

set_option autoImplicit false

namespace RdGateway.Core

/-- The rows in the order of their ids, with the constraints of the schema. -/
structure AclTable where
  rows : List AclRule
  nextId : Int
  checked : ∀ rule ∈ rows, rule.action = "allow" ∨ rule.action = "deny"
  assigned : ∀ rule ∈ rows, rule.id < nextId

namespace AclTable

def empty : AclTable :=
  { rows := [], nextId := 1
    checked := fun _ member => nomatch member
    assigned := fun _ member => nomatch member }

/-- `ORDER BY priority DESC`, and among rules of one priority by id. -/
def getAclRules (rules : AclTable) : List AclRule := sortedRules rules.rows

/-- `INSERT INTO acl_rules`, which the check of the action refuses. The id of the rule that
is passed in is not stored. -/
def createAclRule (rules : AclTable) (rule : AclRule) : Option (AclRule × AclTable) :=
  if allowed : rule.action = "allow" ∨ rule.action = "deny" then
    let newRule : AclRule := { rule with id := rules.nextId }
    some (newRule,
      { rows := rules.rows ++ [newRule]
        nextId := rules.nextId + 1
        checked := by
          intro other member
          rcases List.mem_append.mp member with old | new
          · exact rules.checked other old
          · rw [List.mem_singleton.mp new]
            exact allowed
        assigned := by
          intro other member
          rcases List.mem_append.mp member with old | new
          · exact Int.lt_add_one_of_le (Int.le_of_lt (rules.assigned other old))
          · rw [List.mem_singleton.mp new]
            exact Int.lt_succ _ })
  else none

/-- `DELETE FROM acl_rules WHERE id = ?`, which no row has to meet. -/
def deleteAclRule (rules : AclTable) (ruleId : Int) : AclTable :=
  { rows := rules.rows.filter fun rule => rule.id ≠ ruleId
    nextId := rules.nextId
    checked := fun rule member => rules.checked rule (List.mem_of_mem_filter member)
    assigned := fun rule member => rules.assigned rule (List.mem_of_mem_filter member) }

theorem createAclRule_eq_some {rules later : AclTable} {rule newRule : AclRule}
    (created : rules.createAclRule rule = some (newRule, later)) :
    later.rows = rules.rows ++ [newRule] ∧ newRule = { rule with id := rules.nextId } := by
  unfold createAclRule at created
  split at created
  · cases created
    exact ⟨rfl, rfl⟩
  · cases created

theorem createAclRule_nextId {rules later : AclTable} {rule newRule : AclRule}
    (created : rules.createAclRule rule = some (newRule, later)) : later.nextId = rules.nextId + 1 := by
  unfold createAclRule at created
  split at created
  · cases created
    rfl
  · cases created

end AclTable

end RdGateway.Core
