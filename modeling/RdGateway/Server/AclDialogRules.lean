import RdGateway.Core.AclHosts
import RdGateway.Server.Tui
import RdGateway.Wirekit.Run

/-!
# Rules from the dialog

A port that is not a number becomes no port at all, and a rule without a port matches
every one. The tab of rules is taken alone; the last section finds it in the whole interface.
-/

set_option autoImplicit false

namespace RdGateway.Server

open Wirekit RdGateway.Core

/-! ## Specification -/

/-- The text spells the port in decimal, with a sign or without. -/
def Denotes (text : String) (port : UInt16) : Prop := Numeral text.toList port.toNat

/-- Some user reaches some host on this port through the rule. -/
def MatchesPort (rule : AclRule) (port : UInt16) : Prop :=
  ∃ userId userGroupIds targetHost, ruleMatches rule userId userGroupIds targetHost port = true

structure NeverBroader (text : String) (rule : AclRule) : Prop where
  denoted : ∀ port, MatchesPort rule port → Denotes text port
  notEvery : (∀ port, ¬ Denotes text port) → ¬ ∀ port, MatchesPort rule port

/-! ## What is stored -/

section Stored

variable {self : AclTab} {rule : AclRule}

theorem createAclRule_eq_ok {answers : DbAnswers} {db later : AclTable} {newRule : AclRule}
    (created : createAclRule answers db rule = .ok (newRule, later)) :
    later.rows = db.rows ++ [newRule] ∧ newRule = { rule with id := db.nextId } := by
  unfold createAclRule at created
  split at created
  · cases created
  · split at created
    · next inserted =>
      cases created
      exact AclTable.createAclRule_eq_some inserted
    · cases created

theorem aclRule_eq_ok {dialog : DialogState} (typed : dialog.aclRule = .ok rule) :
    ∃ priority host portStr action, dialog.fieldValue 0 = .ok priority ∧
      dialog.fieldValue 1 = .ok host ∧ dialog.fieldValue 2 = .ok portStr ∧
      dialog.fieldValue 3 = .ok action ∧
      rule =
        { id := 0
          priority := (parseI32 priority.toList).getD 0
          userId := none
          groupId := none
          targetHost := if host = "*" ∨ host = "" then none else some host
          targetPort := if portStr = "*" ∨ portStr = "" then none else parseI32 portStr.toList
          action } := by
  unfold DialogState.aclRule at typed
  simp only [Outcome.bind_eq_ok] at typed
  obtain ⟨priority, first, host, second, portStr, third, action, fourth, built⟩ := typed
  cases built
  exact ⟨priority, host, portStr, action, first, second, third, fourth, rfl⟩

/-- Only a submitted dialog stores a rule, and it is the one of its fields. -/
theorem stored_rule {event : DbAnswers × KeyCode}
    (stored : (handleDialogKey self event).2.db.rows = self.db.rows ++ [rule]) :
    ∃ dialog typed, self.dialog = some dialog ∧ dialog.aclRule = .ok typed ∧
      rule = { typed with id := self.db.nextId } := by
  have kept : self.db.rows ≠ self.db.rows ++ [rule] := by simp
  obtain ⟨answers, code⟩ := event
  cases code with
  | enter =>
      change (submitDialog answers self).2.db.rows = _ at stored
      unfold submitDialog at stored
      split at stored
      · exact absurd stored kept
      · next dialog opened =>
        split at stored
        · exact absurd stored kept
        · exact absurd stored kept
        · next newRule db submitted =>
          obtain ⟨typed, fields, created⟩ := Outcome.bind_eq_ok.mp submitted
          obtain ⟨rows, built⟩ := createAclRule_eq_ok created
          have grown : db.rows = self.db.rows ++ [rule] := by
            split at stored
            · exact stored
            · exact stored
          rw [rows, List.append_cancel_left_eq, List.cons.injEq] at grown
          exact ⟨dialog, typed, opened, fields, grown.1 ▸ built⟩
  | esc => exact absurd stored kept
  | tab => exact absurd stored kept
  | left => exact absurd stored kept
  | right => exact absurd stored kept
  | backspace => exact absurd stored kept
  | char c => exact absurd stored kept
  | other => exact absurd stored kept

end Stored

/-! ## What a stored rule matches -/

/-- No host pattern is without a host, so the port alone decides. -/
theorem matchesPort_iff {rule : AclRule} (user : rule.userId = none) (group : rule.groupId = none)
    (port : UInt16) :
    MatchesPort rule port ↔ ∀ value, rule.targetPort = some value → value = port.toNat := by
  constructor
  · intro holds
    obtain ⟨_, _, _, matched⟩ := holds
    exact (ruleMatches_iff.mp matched).port
  · intro number
    have host : ∃ targetHost, ∀ pattern, rule.targetHost = some pattern →
        hostMatches pattern targetHost = true := by
      cases rule.targetHost with
      | none => exact ⟨"", nofun⟩
      | some pattern =>
          obtain ⟨targetHost, matched⟩ := exists_hostMatches pattern
          exact ⟨targetHost, by rintro _ ⟨⟩; exact matched⟩
    obtain ⟨targetHost, matched⟩ := host
    refine ⟨0, [], targetHost, ruleMatches_iff.mpr ⟨?_, ?_, matched, number⟩⟩
    · rw [user]
      nofun
    · rw [group]
      nofun

/-- A port that is not read leaves a rule that matches two ports, and one text denotes one. -/
theorem neverBroader_iff {rule : AclRule} {text : String} (user : rule.userId = none)
    (group : rule.groupId = none) (port : rule.targetPort = parseI32 text.toList) :
    NeverBroader text rule ↔ ∃ value, Numeral text.toList value ∧ -2 ^ 31 ≤ value ∧ value < 2 ^ 31 := by
  have decides := matchesPort_iff user group
  rw [port] at decides
  cases read : parseI32 text.toList with
  | some value =>
      obtain ⟨numeral, fits⟩ := parseI32_eq_some.mp read
      have denoted : ∀ port, MatchesPort rule port → Denotes text port := by
        intro port matched
        have same := (decides port).mp matched value read
        rwa [same] at numeral
      refine iff_of_true ⟨denoted, fun silent every => ?_⟩ ⟨value, numeral, fits⟩
      exact silent 0 (denoted 0 (every 0))
  | none =>
      have unread (value : Int) : ¬ (Numeral text.toList value ∧ -2 ^ 31 ≤ value ∧ value < 2 ^ 31) := by
        intro fits
        rw [parseI32_eq_some.mpr fits] at read
        cases read
      have every (port : UInt16) : MatchesPort rule port := by
        rw [decides, read]
        nofun
      refine iff_of_false ?_ (not_exists.mpr unread)
      intro narrow
      exact unread 0 ⟨narrow.denoted 0 (every 0), by decide, by decide⟩

/-- A rule is as narrow as its text exactly when the text is the number of an `i32`. -/
theorem typed_rule_narrow_iff {self : AclTab} {event : DbAnswers × KeyCode} {dialog : DialogState}
    {text : String} {rule : AclRule} (opened : self.dialog = some dialog)
    (portField : dialog.fieldValue 2 = .ok text) (given : text ≠ "" ∧ text ≠ "*")
    (stored : (handleDialogKey self event).2.db.rows = self.db.rows ++ [rule]) :
    NeverBroader text rule ↔ ∃ value, Numeral text.toList value ∧ -2 ^ 31 ≤ value ∧ value < 2 ^ 31 := by
  obtain ⟨_, typed, shown, fields, rfl⟩ := stored_rule stored
  rw [opened] at shown
  cases shown
  obtain ⟨priority, host, portStr, action, _, _, third, _, rfl⟩ := aclRule_eq_ok fields
  rw [portField] at third
  cases third
  exact neverBroader_iff rfl rfl (if_neg (not_or.mpr ⟨given.2, given.1⟩))

/-! ## Typing a port -/

/-- The dialog that takes the keys of its port, where this much is typed. -/
def portDialog (typed : String) : DialogState :=
  { fields :=
      [.text "Priority (0-100)", .text "Target Host (or * for any)",
        { DialogField.text "Target Port (or * for any)" with value := typed },
        .select "Action" ["allow", "deny"]]
    activeField := 2
    inside := Nat.lt_of_lt_of_le (by decide : 2 < 4) (Nat.le_refl _) }

def portKeys (answers : DbAnswers) (text : List Char) : List (DbAnswers × KeyCode) :=
  (answers, .tab) :: (answers, .tab) :: text.map fun c => (answers, .char c)

/-- Every text can be typed into the field of the port. -/
theorem typed_port (answers : DbAnswers) (self : AclTab) (text : List Char) :
    stateAfter handleDialogKey (startAddDialog self) (portKeys answers text) =
      { self with dialog := some (portDialog (String.ofList text)) } := by
  have appends (typed : String) (rest : List Char) :
      stateAfter handleDialogKey { self with dialog := some (portDialog typed) }
          (rest.map fun c => (answers, .char c)) =
        { self with dialog := some (portDialog (typed ++ String.ofList rest)) } := by
    induction rest generalizing typed with
    | nil => simp [stateAfter]
    | cons c rest ih =>
        have next : (handleDialogKey { self with dialog := some (portDialog typed) } (answers, .char c)).2 =
            { self with dialog := some (portDialog (typed.push c)) } := rfl
        have joined : typed ++ String.ofList (c :: rest) = typed.push c ++ String.ofList rest := by
          rw [← String.toList_inj]
          simp
        rw [List.map_cons, stateAfter, next, ih, joined]
  have opened := appends "" text
  rwa [String.empty_append] at opened

def answering : DbAnswers :=
  { insertFailure := none, readFailure := none, refusal := .database "CHECK constraint failed" }

def shownTab : AclTab := { db := .empty, dialog := none, statusMessage := none, aclRules := [] }

def typedTab (text : String) : AclTab :=
  stateAfter handleDialogKey (startAddDialog shownTab) (portKeys answering text.toList)

def portRule (targetPort : Option Int) : AclRule :=
  { id := 1, priority := 0, userId := none, groupId := none, targetHost := none, targetPort
    action := "allow" }

theorem typedTab_eq (text : String) :
    typedTab text = { shownTab with dialog := some (portDialog text) } := by
  rw [typedTab, typed_port, String.ofList_toList]

theorem typed_rule_narrow_iff_number :
    NeverBroader "3389" (portRule (some 3389)) ↔
      ∃ value, Numeral "3389".toList value ∧ -2 ^ 31 ≤ value ∧ value < 2 ^ 31 := by
  have opened : (typedTab "3389").dialog = some (portDialog "3389") := by
    rw [typedTab_eq]
  have stored : (handleDialogKey (typedTab "3389") (answering, .enter)).2.db.rows =
      (typedTab "3389").db.rows ++ [portRule (some 3389)] := by
    rw [typedTab_eq]
    decide +kernel
  exact typed_rule_narrow_iff opened rfl (by decide) stored

/-- A blank behind the number gives a rule that allows every port. -/
theorem blank_opens_every_port :
    ∃ rule, (handleDialogKey (typedTab "3389 ") (answering, .enter)).2.db.rows =
        (typedTab "3389 ").db.rows ++ [rule] ∧
      ruleAction rule = .allow ∧ (∀ port, MatchesPort rule port) ∧ ¬ NeverBroader "3389 " rule := by
  have unread : parseI32 "3389 ".toList = none := by decide +kernel
  refine ⟨portRule none, ?_, by decide +kernel, fun port => ⟨0, [], "", rfl⟩, fun narrow => ?_⟩
  · rw [typedTab_eq]
    decide +kernel
  · obtain ⟨value, fits⟩ := (neverBroader_iff rfl rfl unread.symm).mp narrow
    rw [parseI32_eq_some.mpr fits] at unread
    cases unread

/-! ## The dialog in the whole interface -/

/-- What the tab of rules shows and uses of the interface. -/
def App.aclTab (self : App) : AclTab :=
  { db := self.db.aclRules, dialog := self.dialog, statusMessage := self.statusMessage, aclRules := self.aclRules }

def KeyContext.dbAnswers (context : KeyContext) : DbAnswers :=
  { insertFailure := context.writeFailure, readFailure := context.readFailure, refusal := context.refusal }

/-- Between the two statements of the key no other process changes a rule. -/
def KeyContext.LeavesRules (context : KeyContext) : Prop :=
  ∀ db : GatewayDatabase, (db.run context.between).aclRules = db.aclRules

/-- A key comes to the same in the interface and on the tab alone. -/
structure App.SameOnTab (full : Outcome TuiError Unit × App) (part : Outcome DbError Unit × AclTab) : Prop where
  outcome : full.1 = part.1.mapError .db
  tab : full.2.aclTab = part.2

theorem createAclRule_aclRules {db : GatewayDatabase} {rule : AclRule} (user : rule.userId = none)
    (group : rule.groupId = none) :
    (db.createAclRule rule).map GatewayDatabase.aclRules = (db.aclRules.createAclRule rule).map Prod.snd := by
  have scopes : References db.users db.groups rule.userId rule.groupId := by
    rw [user, group]
    exact ⟨(fun _ named => by cases named), (fun _ named => by cases named)⟩
  unfold GatewayDatabase.createAclRule
  rw [dif_pos scopes]
  split
  · next created => exact (congrArg (Option.map Prod.snd) created).symm
  · next refused => exact (congrArg (Option.map Prod.snd) refused).symm

theorem App.submitAclRule_onTab {self : App} {context : KeyContext} {dialog : DialogState}
    (opened : self.dialog = some dialog) (leaves : context.LeavesRules) :
    SameOnTab (self.submitAclRule context dialog) (RdGateway.Server.submitDialog context.dbAnswers self.aclTab) := by
  have shown : self.aclTab.dialog = some dialog := opened
  unfold submitAclRule RdGateway.Server.submitDialog
  rw [shown]
  dsimp only
  cases typed : dialog.aclRule with
  | err error => exact ⟨rfl, rfl⟩
  | panicked => exact ⟨rfl, rfl⟩
  | ok rule =>
      obtain ⟨_, _, _, _, _, _, _, _, fields⟩ := aclRule_eq_ok typed
      have user : rule.userId = none := fields ▸ rfl
      have group : rule.groupId = none := fields ▸ rfl
      have rules := @createAclRule_aclRules self.db rule user group
      dsimp only [Outcome.ok_bind]
      unfold App.write RdGateway.Server.createAclRule KeyContext.dbAnswers
      cases context.writeFailure with
      | some error => exact ⟨rfl, rfl⟩
      | none =>
          have executed : self.db.exec (.createAclRule rule) = self.db.createAclRule rule := rfl
          have table : self.aclTab.db = self.db.aclRules := rfl
          dsimp only
          rw [executed, table]
          cases stored : self.db.createAclRule rule with
          | none =>
              rw [stored, Option.map_none, eq_comm, Option.map_eq_none_iff] at rules
              rw [rules]
              exact ⟨rfl, rfl⟩
          | some db =>
              rw [stored, Option.map_some, eq_comm, Option.map_eq_some_iff] at rules
              obtain ⟨⟨newRule, later⟩, created, same⟩ := rules
              have kept : (db.run context.between).aclRules = later := (leaves db).trans same.symm
              rw [created]
              dsimp only
              cases context.readFailure with
              | some error => exact ⟨rfl, by simp only [aclTab, kept, opened]⟩
              | none => exact ⟨rfl, by rw [aclTab, ← kept]; rfl⟩

theorem App.submitDialog_onTab {self : App} (mode : self.inputMode = .addAclRule) (prims : PortalPrimitives)
    {context : KeyContext} (leaves : context.LeavesRules) :
    SameOnTab (self.submitDialog prims context) (RdGateway.Server.submitDialog context.dbAnswers self.aclTab) := by
  unfold submitDialog
  cases opened : self.dialog with
  | none =>
      have hidden : self.aclTab.dialog = none := opened
      unfold RdGateway.Server.submitDialog
      rw [hidden]
      exact ⟨rfl, rfl⟩
  | some dialog =>
      dsimp only
      rw [mode]
      exact submitAclRule_onTab opened leaves

theorem App.startAddDialog_onTab {self : App} (tab : self.activeTab = .aclRules) :
    self.startAddDialog.aclTab = RdGateway.Server.startAddDialog self.aclTab ∧
      self.startAddDialog.inputMode = .addAclRule := by
  unfold startAddDialog
  rw [tab]
  exact ⟨rfl, rfl⟩

/-- A key that the dialog for rules gets does on its tab alone what it does in the interface. -/
theorem App.handleKey_onTab {self : App} (mode : self.inputMode = .addAclRule) (prims : PortalPrimitives)
    (configPath : String) {context : KeyContext} (leaves : context.LeavesRules) (code : KeyCode) :
    SameOnTab (self.handleKey prims configPath (context, .code code))
      (RdGateway.Server.handleDialogKey { self.aclTab with db := (self.db.run context.earlier).aclRules }
        (context.dbAnswers, code)) := by
  let meanwhile : App := { self with db := self.db.run context.earlier }
  have shown : meanwhile.inputMode ≠ .normal := by
    show self.inputMode ≠ .normal
    rw [mode]
    exact InputMode.noConfusion
  show SameOnTab (if meanwhile.inputMode = .normal then _ else meanwhile.handleDialogKey prims context (.code code))
    (RdGateway.Server.handleDialogKey meanwhile.aclTab (context.dbAnswers, code))
  rw [if_neg shown]
  cases code with
  | enter => exact @submitDialog_onTab meanwhile mode prims _ leaves
  | _ => exact ⟨rfl, rfl⟩

end RdGateway.Server
