import Mathlib.Data.List.Pairwise
import RdGateway.Server.PortalProperties

/-!
# One account for a name

The lookup folds the case of ASCII letters, the constraint on the column does not. Two
names that differ in case only are kept apart by the check that a sign-up makes first, if
nobody else inserts between the check and the insertion.
-/

set_option autoImplicit false

namespace RdGateway.Server

open Wirekit Proto RdGateway.Core

def NamedApart (first second : User) : Prop := ¬ SameNoCase first.username second.username

instance : Std.Symm NamedApart := ⟨fun _ _ apart same => apart same.symm⟩

/-- No two rows have names that are equal ignoring case. -/
def CaseDistinct (users : UserTable) : Prop := users.rows.Pairwise NamedApart

/-- No two rows share a name, and a lookup under any spelling of a name finds its row. -/
def NamesIdentify (users : UserTable) : Prop :=
  CaseDistinct users ∧ ∀ user ∈ users.rows, ∀ name, SameNoCase name user.username →
    users.getUserByUsername name = some user

/-- If names are distinct ignoring case, the lookup has one row to choose from. -/
theorem CaseDistinct.lookup {users : UserTable} (distinct : CaseDistinct users) {user : User}
    (member : user ∈ users.rows) {name : String} (same : SameNoCase name user.username) :
    users.getUserByUsername name = some user := by
  have alone {other : User} (present : other ∈ users.rows) (named : SameNoCase other.username name) :
      other = user := by
    by_contra different
    exact distinct.forall present member different (named.trans same)
  unfold UserTable.getUserByUsername
  cases found : users.rows.find? fun other => SameNoCase other.username name with
  | none =>
      have missed := List.find?_eq_none.mp found user member
      exact absurd (decide_eq_true same.symm) missed
  | some other =>
      have named : SameNoCase other.username name := by simpa using List.find?_some found
      rw [alone (List.mem_of_find?_eq_some found) named]

theorem namesIdentify_iff {users : UserTable} : NamesIdentify users ↔ CaseDistinct users :=
  ⟨And.left, fun distinct => ⟨distinct, fun _ member _ same => distinct.lookup member same⟩⟩

/-- A row that the step stores meets no row with its name in another case. -/
def StoresNewName (users : UserTable) (label : PortalAction) : Prop :=
  ∀ name userId, label.stores = some (name, userId) →
    ∀ user ∈ users.rows, ¬ SameNoCase user.username name

/-- An insertion is the only step that can make two names equal. -/
theorem TableChange.caseDistinct_iff {users later : UserTable} {label : PortalAction}
    (changed : TableChange users label later) :
    CaseDistinct later ↔ CaseDistinct users ∧ StoresNewName users label := by
  cases changed with
  | @inserted label user later stored enabled free rows =>
      have stores : StoresNewName users label ↔
          ∀ other ∈ users.rows, ¬ SameNoCase other.username user.username := by
        rw [StoresNewName, stored]
        constructor
        · intro fresh
          exact fresh _ _ rfl
        · rintro fresh name userId ⟨⟩
          exact fresh
      rw [stores, CaseDistinct, rows, List.pairwise_append]
      constructor
      · intro holds
        obtain ⟨distinct, _, apart⟩ := holds
        exact ⟨distinct, fun other present => apart other present user List.mem_cons_self⟩
      · intro holds
        obtain ⟨distinct, apart⟩ := holds
        refine ⟨distinct, List.pairwise_singleton _ _, fun other present added isUser => ?_⟩
        rw [List.mem_singleton.mp isUser]
        exact apart other present
  | enabled userId flag =>
      have nothing : StoresNewName users (.setUserEnabled userId flag) := nofun
      have kept : CaseDistinct (users.setUserEnabled userId flag) ↔ CaseDistinct users := by
        change (users.rows.map (UserTable.setEnabled userId flag)).Pairwise NamedApart ↔ _
        rw [List.pairwise_map]
        simp only [NamedApart, UserTable.setEnabled_username]
        exact Iff.rfl
      rw [kept]
      exact (and_iff_left nothing).symm
  | same nothing unswitched =>
      have stores : StoresNewName users label := by
        intro name userId stored
        rw [nothing] at stored
        cases stored
      exact (and_iff_left stores).symm

/-- The steps of the portal whose insertions meet no name that differs in case only. -/
def CaseChecked (prims : PortalPrimitives) (config : PortalConfig) (portal : Portal)
    (label : PortalAction) (next : Portal) : Prop :=
  Portal.Step prims config portal label next ∧ StoresNewName portal.users label

/-- Names identify accounts at the end of a run exactly if every insertion of the run met a
table without its name, whatever the case. -/
theorem namesIdentify_iff_caseChecked {prims : PortalPrimitives} {config : PortalConfig}
    {labels : List PortalAction} {portal : Portal}
    (run : Steps (Portal.Step prims config) Portal.init labels portal) :
    NamesIdentify portal.users ↔ Steps (CaseChecked prims config) Portal.init labels portal := by
  rw [namesIdentify_iff]
  constructor
  · intro distinct
    induction run with
    | start => exact .start
    | step run taken ih =>
        obtain ⟨before, fresh⟩ := taken.tableChange.caseDistinct_iff.mp distinct
        exact .step (ih before) ⟨taken, fresh⟩
  · intro checked
    clear run
    induction checked with
    | start => exact List.Pairwise.nil
    | step run taken ih =>
        exact taken.1.tableChange.caseDistinct_iff.mpr ⟨ih, taken.2⟩

def bob : User := { alice with id := 2, username := "bob", passwordHash := none }

def aliceAndBob : UserTable :=
  { rows := [alice, bob], nextId := 3, unique := by decide, assigned := by decide }

theorem namesIdentify_iff_caseChecked_alice :
    ∃ portal : Portal, portal.users = aliceAndBob ∧ Steps (CaseChecked knownHashes gwPortal) Portal.init
      [.signup 0, .signupCheck 0, .signupCreate 0 "alice" (some 1), .createUser "bob" (some 2)] portal := by
  obtain ⟨portal, run, users⟩ := alice_signs_up
  have inserted : portal.users.createUser "bob" (computeNtHash knownHashes "password") =
      some (bob, aliceAndBob) := by
    rw [users]
    rfl
  have added := run.step (.createUser ⟨by decide, by decide⟩ inserted)
  have apart : NamedApart alice bob := by
    unfold NamedApart
    decide
  have distinct : CaseDistinct aliceAndBob :=
    List.Pairwise.cons (List.forall_mem_singleton.mpr apart) (List.pairwise_singleton _ _)
  exact ⟨_, rfl, (namesIdentify_iff_caseChecked added).mp (namesIdentify_iff.mpr distinct)⟩

/-! ## Two spellings of a name -/

def capitalAlice : User := { alice with id := 2, username := "Alice", passwordHash := none }

def twoSpellings : UserTable :=
  { rows := [alice, capitalAlice], nextId := 3, unique := by decide, assigned := by decide }

/-- The TUI adds the name of an account in another case, and nothing refuses it. -/
theorem two_spellings_stored :
    ¬ ∀ (prims : PortalPrimitives) (config : PortalConfig) (labels : List PortalAction)
      (portal : Portal), Steps (Portal.Step prims config) Portal.init labels portal →
      NamesIdentify portal.users := by
  intro identify
  obtain ⟨portal, run, users⟩ := alice_signs_up
  have inserted : portal.users.createUser "Alice" (computeNtHash knownHashes "password") =
      some (capitalAlice, twoSpellings) := by
    rw [users]
    rfl
  have added := run.step (.createUser ⟨by decide, by decide⟩ inserted)
  have distinct := (identify _ _ _ _ added).1
  have apart : NamedApart alice capitalAlice :=
    List.rel_of_pairwise_cons distinct List.mem_cons_self
  exact apart (by decide)

end RdGateway.Server
