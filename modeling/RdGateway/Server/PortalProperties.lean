import RdGateway.Server.Portal
import RdGateway.Server.PortalAuthProperties

/-!
# Accounts over whole runs of the portal

Which accounts the table holds, and which of them are enabled, follows from the steps
that created and switched them. A session cookie outlives both: nothing but its
signature and its age is looked at.
-/

set_option autoImplicit false

namespace RdGateway.Server

open Wirekit Proto RdGateway.Core

/-! ## Disabled accounts -/

def Enabled (users : UserTable) (userId : Int) : Prop :=
  ∃ user ∈ users.rows, user.id = userId ∧ user.enabled = true

/-- What a step makes of an account: absent, disabled or enabled. -/
def accountAfter (userId : Int) (state : Option Bool) (label : PortalAction) : Option Bool :=
  match label.stores with
  | some (_, created) => if created = userId then some true else state
  | none =>
      match label.switches with
      | some (switched, enabled) => if switched = userId then state.map fun _ => enabled else state
      | none => state

def accountState (labels : List PortalAction) (userId : Int) : Option Bool :=
  labels.foldl (accountAfter userId) none

structure Tracked (labels : List PortalAction) (users : UserTable) (userId : Int) : Prop where
  stored : (∃ user ∈ users.rows, user.id = userId) ↔ (accountState labels userId).isSome
  enabled : Enabled users userId ↔ accountState labels userId = some true

theorem setUserEnabled_enabled (users : UserTable) (switched userId : Int) (flag : Bool) :
    Enabled (users.setUserEnabled switched flag) userId ↔
      if switched = userId then flag = true ∧ ∃ user ∈ users.rows, user.id = userId
      else Enabled users userId := by
  have rows : (users.setUserEnabled switched flag).rows =
      users.rows.map (UserTable.setEnabled switched flag) := rfl
  simp only [Enabled, rows, List.mem_map, exists_exists_and_eq_and, UserTable.setEnabled_id]
  by_cases same : switched = userId
  · subst same
    rw [if_pos rfl]
    constructor
    · intro holds
      obtain ⟨user, member, named, enabled⟩ := holds
      rw [UserTable.setEnabled, if_pos named] at enabled
      exact ⟨enabled, user, member, named⟩
    · intro holds
      obtain ⟨enabled, user, member, named⟩ := holds
      refine ⟨user, member, named, ?_⟩
      rw [UserTable.setEnabled, if_pos named]
      exact enabled
  · rw [if_neg same]
    refine exists_congr fun user => and_congr_right fun _ => and_congr_right fun named => ?_
    rw [UserTable.setEnabled, if_neg fun equal => same (equal.symm.trans named)]

theorem Tracked.change {labels : List PortalAction} {users later : UserTable} {label : PortalAction}
    {userId : Int} (tracked : Tracked labels users userId) (changed : TableChange users label later) :
    Tracked (labels ++ [label]) later userId := by
  obtain ⟨stored, enabled⟩ := tracked
  have grown : accountState (labels ++ [label]) userId =
      accountAfter userId (accountState labels userId) label := by
    rw [accountState, List.foldl_append]
    rfl
  generalize accountState labels userId = state at grown stored enabled
  cases changed with
  | @inserted label user later created flag free rows =>
      rw [accountAfter, created] at grown
      dsimp only at grown
      by_cases same : user.id = userId
      · rw [if_pos same] at grown
        have member : user ∈ later.rows := by
          rw [rows]
          exact List.mem_append_right _ List.mem_cons_self
        constructor
        · rw [grown]
          exact iff_of_true ⟨user, member, same⟩ rfl
        · rw [grown]
          exact iff_of_true ⟨user, member, same, flag⟩ rfl
      · rw [if_neg same] at grown
        constructor
        · rw [grown, ← stored, rows]
          simp [same]
        · rw [grown, ← enabled, Enabled, Enabled, rows]
          simp [same]
  | enabled switched flag =>
      change _ = if switched = userId then _ else _ at grown
      constructor
      · have kept : (∃ user ∈ (users.setUserEnabled switched flag).rows, user.id = userId) ↔
            ∃ user ∈ users.rows, user.id = userId := by
          simp [UserTable.setUserEnabled]
        rw [grown, kept, stored]
        split
        · rw [Option.isSome_map]
        · rfl
      · rw [grown, setUserEnabled_enabled]
        by_cases same : switched = userId
        · rw [if_pos same, if_pos same, stored]
          cases state <;> simp
        · rw [if_neg same, if_neg same, enabled]
  | same nothing unswitched =>
      have unchanged : accountAfter userId state label = state := by
        rw [accountAfter, nothing, unswitched]
      rw [unchanged] at grown
      exact ⟨by rw [grown, stored], by rw [grown, enabled]⟩

theorem tracked_of_run {prims : PortalPrimitives} {config : PortalConfig}
    {labels : List PortalAction} {portal : Portal}
    (run : Steps (Portal.Step prims config) Portal.init labels portal) (userId : Int) :
    Tracked labels portal.users userId := by
  refine run.invariant (fun labels portal => Tracked labels portal.users userId) ?_
    fun _ _ _ _ tracked taken => tracked.change taken.tableChange
  constructor
  · simp [Portal.init, UserTable.empty, accountState]
  · simp [Portal.init, UserTable.empty, accountState, Enabled]

/-- The request carries a session token that is correctly signed for the user and not expired. -/
def CarriesToken (prims : PortalPrimitives) (config : PortalConfig) (now : Nat)
    (cookieHeader : Option String) (userId : Int) : Prop :=
  ∃ token issuedAt, sessionToken cookieHeader = some token ∧
    SignedToken prims (sessionSecret config.serverName) token userId issuedAt ∧
    now - issuedAt ≤ sessionTtlSecs

theorem validateSessionCookie_eq_some {prims : PortalPrimitives} {config : PortalConfig} {now : Nat}
    {cookieHeader : Option String} {userId : Int} :
    validateSessionCookie prims config now cookieHeader = some userId ↔
      CarriesToken prims config now cookieHeader userId := by
  rw [validateSessionCookie, Option.bind_eq_bind, Option.bind_eq_some_iff]
  constructor
  · intro holds
    obtain ⟨token, found, valid⟩ := holds
    obtain ⟨issuedAt, signed, fresh⟩ := validateSessionToken_eq_some.mp valid
    exact ⟨token, issuedAt, found, signed, fresh⟩
  · intro holds
    obtain ⟨token, issuedAt, found, signed, fresh⟩ := holds
    exact ⟨token, found, validateSessionToken_eq_some.mpr ⟨issuedAt, signed, fresh⟩⟩

theorem guacWsHandler_upgraded {prims : PortalPrimitives} {config : PortalConfig} {now : Nat}
    {cookieHeader : Option String} :
    guacWsHandler prims config now cookieHeader = .upgraded ↔
      config.guacamoleEnabled = true ∧
        (validateSessionCookie prims config now cookieHeader).isSome := by
  unfold guacWsHandler
  cases validateSessionCookie prims config now cookieHeader with
  | none => exact iff_of_false (fun same => nomatch same) fun upgraded => nomatch upgraded.2
  | some userId =>
      cases config.guacamoleEnabled with
      | false => exact iff_of_false (fun same => nomatch same) fun upgraded => nomatch upgraded.1
      | true => exact iff_of_true rfl ⟨rfl, rfl⟩

/-- An endpoint lets a request through for the token that it carries, and looks nothing up. -/
theorem authorises_eq_some {prims : PortalPrimitives} {config : PortalConfig} {endpoint : Endpoint}
    {now : Nat} {cookieHeader : Option String} {userId : Int} :
    authorises prims config endpoint now cookieHeader = some userId ↔
      (endpoint = .guacamole → config.guacamoleEnabled = true) ∧
        CarriesToken prims config now cookieHeader userId := by
  rw [← validateSessionCookie_eq_some]
  cases endpoint with
  | connections =>
      simp only [authorises, checkSession, reduceCtorEq, false_implies, true_and]
      cases validateSessionCookie prims config now cookieHeader with
      | none => exact iff_of_false (fun same => nomatch same) fun same => nomatch same
      | some other => exact Iff.rfl
  | guacamole =>
      unfold authorises
      dsimp only
      constructor
      · intro accepted
        split at accepted
        · next upgraded => exact ⟨fun _ => (guacWsHandler_upgraded.mp upgraded).1, accepted⟩
        · cases accepted
      · intro holds
        obtain ⟨enabled, valid⟩ := holds
        have upgraded : guacWsHandler prims config now cookieHeader = .upgraded :=
          guacWsHandler_upgraded.mpr ⟨enabled rfl, by rw [valid]; rfl⟩
        rw [if_pos upgraded, valid]

/-- A request authorises enabled accounts only, exactly if whoever's token it carries was
created in the run and not switched off since. -/
theorem request_authorises_enabled_iff {prims : PortalPrimitives} {config : PortalConfig}
    {labels : List PortalAction} {portal next : Portal} {endpoint : Endpoint}
    {cookieHeader : Option String} {now : Nat} {authorised : Option Int}
    (run : Steps (Portal.Step prims config) Portal.init labels portal)
    (taken : Portal.Step prims config portal (.request endpoint cookieHeader now authorised) next) :
    (∀ userId, authorised = some userId → Enabled portal.users userId) ↔
      ∀ userId, CarriesToken prims config now cookieHeader userId →
        (endpoint = .guacamole → config.guacamoleEnabled = true) →
        accountState labels userId = some true := by
  have looked : authorised = authorises prims config endpoint now cookieHeader := by
    cases taken
    rfl
  rw [looked]
  refine forall_congr' fun userId => ?_
  rw [authorises_eq_some, (tracked_of_run run userId).enabled]
  exact ⟨fun allowed carried served => allowed ⟨served, carried⟩,
    fun allowed carried => allowed carried.2 carried.1⟩

/-! ## A cookie that outlives its account -/

def knownArgon2 : String :=
  "$argon2id$v=19$m=19456,t=2,p=1$AQIDBAUGBwgJCgsMDQ4PEA$092w+Kf/8KX2zXM/JUpX9Xtmfouw9CV/yqqSDnFeXb8"

/-- What the other crates compute in the runs below. -/
def knownHashes : PortalPrimitives where
  hmacSha256 key message :=
    if key = sessionSecret "gw" ∧ message = utf8Bytes "1:1700000000".toList then
      #v[155, 5, 32, 48, 103, 167, 162, 0, 240, 152, 46, 188, 39, 39, 36, 125, 16, 35, 18, 13, 159, 16,
        75, 31, 77, 20, 138, 248, 207, 151, 251, 46]
    else Vector.replicate 32 0
  base64Url :=
    { encode := fun _ => "mwUgMGenogDwmC68JyckfRAjEg2fEEsfTRSK-M-X-y4"
      decode := fun text =>
        if text = "mwUgMGenogDwmC68JyckfRAjEg2fEEsfTRSK-M-X-y4" then
          some [155, 5, 32, 48, 103, 167, 162, 0, 240, 152, 46, 188, 39, 39, 36, 125, 16, 35, 18, 13, 159,
            16, 75, 31, 77, 20, 138, 248, 207, 151, 251, 46]
        else none }
  md4 _ := #[136, 70, 247, 234, 238, 143, 177, 23, 173, 6, 189, 216, 48, 183, 88, 108].toVector
  hashPassword _ _ := some knownArgon2
  parsesHash _ := true
  verifyPassword password _ := password = "password"

def gwPortal : PortalConfig := { serverName := "gw", guacamoleEnabled := false }

/-- The cookie that the sign-up of the first account sets at 1700000000. -/
def aliceCookie : String := "rdg_session=1:1700000000.mwUgMGenogDwmC68JyckfRAjEg2fEEsfTRSK-M-X-y4"

example : (setSessionCookie knownHashes gwPortal 1700000000 1).toList.take aliceCookie.length =
    aliceCookie.toList := by
  decide +kernel

def alice : User where
  id := 1
  username := "alice"
  ntHash := [136, 70, 247, 234, 238, 143, 177, 23, 173, 6, 189, 216, 48, 183, 88, 108]
  enabled := true
  passwordHash := some knownArgon2

def aliceUsers : UserTable :=
  { rows := [alice], nextId := 2, unique := by decide, assigned := by decide }

theorem alice_signs_up :
    ∃ portal, Steps (Portal.Step knownHashes gwPortal) Portal.init
      [.signup 0, .signupCheck 0, .signupCreate 0 "alice" (some 1)] portal ∧
      portal.users = aliceUsers := by
  have asked := Steps.single
    (@Portal.Step.signup knownHashes gwPortal Portal.init 0 rfl
      { username := "alice", password := "password" })
  have checked := asked.step
    (.signupCheck (Store.insert_self _ _ _) (.ok none) fun _ found => (Except.ok.inj found).symm)
  have hashed : signupHashes knownHashes "AQIDBAUGBwgJCgsMDQ4PEA" "password" =
      .ok (alice.ntHash, knownArgon2) := rfl
  have inserted : UserTable.empty.createUserWithPassword "alice" alice.ntHash knownArgon2 =
      some (alice, aliceUsers) := rfl
  have created := checked.step (.signupCreate (Store.insert_self _ _ _) hashed inserted 1700000000)
  exact ⟨_, created, rfl⟩

theorem alice_switched_off :
    ∃ portal, Steps (Portal.Step knownHashes gwPortal) Portal.init
      [.signup 0, .signupCheck 0, .signupCreate 0 "alice" (some 1), .setUserEnabled 1 false] portal ∧
      portal.users = aliceUsers.setUserEnabled 1 false := by
  obtain ⟨portal, run, users⟩ := alice_signs_up
  have switched := run.step (.setUserEnabled 1 false)
  rw [users] at switched
  exact ⟨_, switched, rfl⟩

theorem aliceCookie_authorises :
    authorises knownHashes gwPortal .connections 1700000100 (some aliceCookie) = some 1 := by
  decide +kernel

theorem request_authorises_enabled_iff_alice :
    ∃ portal, Steps (Portal.Step knownHashes gwPortal) Portal.init
        [.signup 0, .signupCheck 0, .signupCreate 0 "alice" (some 1)] portal ∧
      portal.users = aliceUsers ∧ ∀ userId, some (1 : Int) = some userId → Enabled portal.users userId := by
  obtain ⟨portal, run, users⟩ := alice_signs_up
  have asked := @Portal.Step.request knownHashes gwPortal portal .connections (some aliceCookie) 1700000100
  rw [aliceCookie_authorises] at asked
  refine ⟨portal, run, users, (request_authorises_enabled_iff run asked).mpr fun userId carried served => ?_⟩
  have named := authorises_eq_some.mpr ⟨served, carried⟩
  cases aliceCookie_authorises.symm.trans named
  decide

/-- The cookie of a sign-up still authorises its account once the TUI has switched it off. -/
theorem disabled_account_authorised :
    ¬ ∀ (prims : PortalPrimitives) (config : PortalConfig) (labels : List PortalAction)
      (portal next : Portal) (endpoint : Endpoint) (cookieHeader : Option String) (now : Nat)
      (userId : Int), Steps (Portal.Step prims config) Portal.init labels portal →
      Portal.Step prims config portal (.request endpoint cookieHeader now (some userId)) next →
      Enabled portal.users userId := by
  intro enabled
  obtain ⟨portal, run, users⟩ := alice_switched_off
  have asked := @Portal.Step.request knownHashes gwPortal portal .connections (some aliceCookie) 1700000100
  rw [aliceCookie_authorises] at asked
  obtain ⟨user, member, named, flag⟩ := enabled _ _ _ _ _ _ _ _ _ run asked
  rw [users] at member
  have disabled : ∀ user ∈ (aliceUsers.setUserEnabled 1 false).rows, user.enabled = false := by
    decide
  rw [disabled user member] at flag
  cases flag

end RdGateway.Server
