import RdGateway.Core.AclTable
import RdGateway.Wirekit.Outcome
import RdGateway.Wirekit.Text

/-!
# The dialog for ACL rules

The text interface while its tab of rules is shown: the dialog that adds a rule, the keys
that fill it in, and what is stored when it is submitted. The answers of the database are
inputs of a key.
-/

set_option autoImplicit false

namespace RdGateway.Server

open Wirekit RdGateway.Core

/-! ## Dialogs -/

/-- A field with options is a selection, and one of them is selected. -/
structure DialogField where
  label : String
  value : String
  masked : Bool
  options : List String
  selectedOption : Nat
  selects : options ≠ [] → selectedOption < options.length

namespace DialogField

def text (label : String) : DialogField :=
  { label, value := "", masked := false, options := [], selectedOption := 0
    selects := fun some => absurd rfl some }

def select (label : String) (options : List String) : DialogField :=
  { label, value := options.head?.getD "", masked := false, options, selectedOption := 0
    selects := List.length_pos_iff.mpr }

def selectOption (field : DialogField) (index : Fin field.options.length) : DialogField :=
  { field with
    value := field.options.get index
    selectedOption := index
    selects := fun _ => index.isLt }

def left (field : DialogField) : DialogField :=
  if more : field.options ≠ [] ∧ field.selectedOption > 0 then
    field.selectOption ⟨field.selectedOption - 1, Nat.sub_lt_of_lt (field.selects more.1)⟩
  else field

def right (field : DialogField) : DialogField :=
  if more : field.options ≠ [] ∧ field.selectedOption + 1 < field.options.length then
    field.selectOption ⟨field.selectedOption + 1, more.2⟩
  else field

def backspace (field : DialogField) : DialogField :=
  if field.options = [] then { field with value := String.ofList field.value.toList.dropLast } else field

def char (c : Char) (field : DialogField) : DialogField :=
  if field.options = [] then { field with value := field.value.push c } else field

end DialogField

/-- A dialog has fields, of which one takes the keys. -/
structure DialogState where
  fields : List DialogField
  activeField : Nat
  inside : activeField < fields.length

namespace DialogState

def new (field : DialogField) (fields : List DialogField) : DialogState :=
  { fields := field :: fields, activeField := 0, inside := Nat.succ_pos _ }

def nextField (dialog : DialogState) : DialogState :=
  { dialog with
    activeField := (dialog.activeField + 1) % dialog.fields.length
    inside := Nat.mod_lt _ (Nat.zero_lt_of_lt dialog.inside) }

/-- `active_field_mut`, and what a key does to the field. -/
def modifyActive (dialog : DialogState) (edit : DialogField → DialogField) : DialogState :=
  { dialog with
    fields := dialog.fields.modify dialog.activeField edit
    inside := by
      rw [List.length_modify]
      exact dialog.inside }

/-- The value of a field; an index behind the last one crashes. -/
def fieldValue (dialog : DialogState) (index : Nat) : Outcome DbError String :=
  match dialog.fields[index]? with
  | some field => .ok field.value
  | none => .panicked

end DialogState

/-! ## Rules -/

inductive KeyCode where
  | esc
  | tab
  | enter
  | left
  | right
  | backspace
  | char (c : Char)
  | other

/-- The tab of rules. The input mode is `AddAclRule` while its dialog is open. -/
structure AclTab where
  db : AclTable
  dialog : Option DialogState
  statusMessage : Option String
  aclRules : List AclRule

/-- The statements that fail, and the answer to one that a constraint refuses. -/
structure DbAnswers where
  insertFailure : Option DbError
  readFailure : Option DbError
  refusal : DbError

def addAclRuleDialog : DialogState :=
  .new (.text "Priority (0-100)")
    [.text "Target Host (or * for any)", .text "Target Port (or * for any)",
      .select "Action" ["allow", "deny"]]

def startAddDialog (self : AclTab) : AclTab := { self with dialog := some addAclRuleDialog }

def DialogState.aclRule (dialog : DialogState) : Outcome DbError AclRule := do
  let priority ← dialog.fieldValue 0
  let host ← dialog.fieldValue 1
  let portStr ← dialog.fieldValue 2
  let action ← dialog.fieldValue 3
  let targetHost := if host = "*" ∨ host = "" then none else some host
  let targetPort := if portStr = "*" ∨ portStr = "" then none else parseI32 portStr.toList
  pure
    { id := 0
      priority := (parseI32 priority.toList).getD 0
      userId := none
      groupId := none
      targetHost
      targetPort
      action }

def createAclRule (answers : DbAnswers) (db : AclTable) (rule : AclRule) :
    Outcome DbError (AclRule × AclTable) :=
  match answers.insertFailure with
  | some error => .err error
  | none =>
      match db.createAclRule rule with
      | some created => .ok created
      | none => .err answers.refusal

/-- The arm of `submit_dialog` for `AddAclRule`. A rule that is stored stays when the rules cannot be
read again. -/
def submitDialog (answers : DbAnswers) (self : AclTab) : Outcome DbError Unit × AclTab :=
  match self.dialog with
  | none => (.ok (), self)
  | some dialog =>
      match dialog.aclRule >>= createAclRule answers self.db with
      | .err error => (.err error, self)
      | .panicked => (.panicked, self)
      | .ok (_, db) =>
          match answers.readFailure with
          | some error => (.err error, { self with db })
          | none =>
              (.ok (),
                { db
                  dialog := none
                  statusMessage := some "ACL rule created"
                  aclRules := db.getAclRules })

def handleDialogKey (self : AclTab) (event : DbAnswers × KeyCode) : Outcome DbError Unit × AclTab :=
  let (answers, code) := event
  let edited (edit : DialogState → DialogState) : Outcome DbError Unit × AclTab :=
    (.ok (), { self with dialog := self.dialog.map edit })
  match code with
  | .esc => (.ok (), { self with dialog := none, statusMessage := none })
  | .tab => edited .nextField
  | .enter => submitDialog answers self
  | .left => edited fun dialog => dialog.modifyActive .left
  | .right => edited fun dialog => dialog.modifyActive .right
  | .backspace => edited fun dialog => dialog.modifyActive .backspace
  | .char c => edited fun dialog => dialog.modifyActive (.char c)
  | .other => (.ok (), self)

end RdGateway.Server
