import RdGateway.Core.GatewayDatabase
import RdGateway.Server.PortalProperties
import RdGateway.Server.SessionCookies
import RdGateway.Wirekit.Interleave
import RdGateway.Wirekit.Progress
import RdGateway.Wirekit.Rows

/-!
# Whose session a cookie is

`me` and `signout` beside the sign-up and the sign-in. A granted reply is followed back to
the sign-up that made its account, and its cookie forward to what `me` says of it.
-/

set_option autoImplicit false

namespace RdGateway.Server

open Wirekit Proto RdGateway.Core

/-! ## The other two handlers -/

def clearSessionCookie : String :=
  sessionCookieName ++ "=; HttpOnly; Secure; SameSite=Strict; Path=/; Max-Age=0"

structure SignoutReply where
  status : AuthStatus
  setCookie : String
  ok : Bool
deriving DecidableEq

/-- Nothing is kept of a sign-out, which reads no cookie either. -/
def signout : SignoutReply := { status := .ok, setCookie := clearSessionCookie, ok := true }

structure MeReply where
  status : AuthStatus
  body : Except String (Int × String)
deriving DecidableEq

/-- A failed listing counts as an empty one. -/
def me (prims : PortalPrimitives) (config : PortalConfig) (now : Nat) (cookieHeader : Option String)
    (listed : Except DbError (List User)) : MeReply :=
  match validateSessionCookie prims config now cookieHeader with
  | none => { status := .unauthorized, body := .error "Not authenticated" }
  | some userId =>
      let users := listed.toOption.getD []
      match users.find? fun user => user.id = userId with
      | some user => { status := .ok, body := .ok (user.id, user.username) }
      | none => { status := .unauthorized, body := .error "User not found" }

/-- What a browser keeps of a `Set-Cookie` header and sends back: the name and the value. -/
def cookiePair (setCookie : String) : List Char := setCookie.toList.takeWhile (· ≠ ';')

/-! ## The books of a run -/

section Books

variable (prims : PortalPrimitives) (config : PortalConfig) (labels : List PortalAction) (final : Portal)

/-- The run to its last state made a step with this label, between these two states. -/
def Passed (before : Portal) (label : PortalAction) (after : Portal) : Prop :=
  ∃ earlier later, labels = earlier ++ label :: later ∧
    Steps (Portal.Step prims config) Portal.init earlier before ∧ Portal.Step prims config before label after ∧
      Steps (Portal.Step prims config) after later final

/-- The account was made with this password, in the dialog of the TUI or by a sign-up, and
its hashes are hashes of it. -/
inductive MadeWith (user : User) (chosen : String) : Prop where
  | dialog {before after : Portal} {added : User}
      (passed : Passed prims config labels final before (.createUser user.username (some user.id)) after)
      (typed : before.users.createUser user.username (computeNtHash prims chosen) = some (added, after.users))
      (ntHash : user.ntHash = computeNtHash prims chosen) (unset : user.passwordHash = none)
  | signup {before after : Portal} {task : TaskId} {salt passwordHash : String}
      (passed : Passed prims config labels final before (.signupCreate task user.username (some user.id)) after)
      (asked : before.tasks task = some (.signupCreating user.username chosen))
      (ntHash : user.ntHash = computeNtHash prims chosen)
      (hashed : prims.hashPassword chosen salt = some passwordHash) (stored : user.passwordHash = some passwordHash)

/-- The table has the account under this name. -/
def Named (users : UserTable) (userId : Int) (username : String) : Prop :=
  ∃ row ∈ users.rows, row.id = userId ∧ row.username = username

/-- What a task holds was true when it was read, and names an account that is still there. -/
def TaskBooked (task : TaskId) : AuthTask → Prop
  | .signinVerifying _ (.ok (some user)) =>
      (∃ chosen, MadeWith prims config labels final user chosen) ∧ Named final.users user.id user.username ∧
        ∃ before after, Passed prims config labels final before (.signinLookUp task) after ∧ user ∈ before.users.rows
  | .answered reply =>
      ∀ userId username, reply.body = .ok (userId, username) →
        Named final.users userId username ∧
          ∃ issuedAt, reply.setCookie = setSessionCookie prims config issuedAt userId
  | _ => True

structure Booked : Prop where
  ids : (final.users.rows.map User.id).Nodup
  made : ∀ user ∈ final.users.rows, ∃ chosen, MadeWith prims config labels final user chosen
  tasks : ∀ task entry, final.tasks task = some entry → TaskBooked prims config labels final task entry

end Books

variable {prims : PortalPrimitives} {config : PortalConfig} {labels : List PortalAction} {portal : Portal}

section Later

variable {label : PortalAction} {next : Portal}

theorem Passed.later {before after : Portal} {earlier : PortalAction}
    (passed : Passed prims config labels portal before earlier after)
    (taken : Portal.Step prims config portal label next) :
    Passed prims config (labels ++ [label]) next before earlier after := by
  obtain ⟨front, back, rfl, first, step, rest⟩ := passed
  exact ⟨front, back ++ [label], by rw [List.append_assoc, List.cons_append], first, step, rest.step taken⟩

theorem MadeWith.later {user : User} {chosen : String} (made : MadeWith prims config labels portal user chosen)
    (taken : Portal.Step prims config portal label next) :
    MadeWith prims config (labels ++ [label]) next user chosen := by
  cases made with
  | dialog passed typed ntHash unset => exact .dialog (passed.later taken) typed ntHash unset
  | signup passed asked ntHash hashed stored => exact .signup (passed.later taken) asked ntHash hashed stored

/-- Whether the account is enabled says nothing about its password. -/
theorem MadeWith.switched {user : User} {chosen : String} (made : MadeWith prims config labels portal user chosen)
    (userId : Int) (flag : Bool) :
    MadeWith prims config labels portal (UserTable.setEnabled userId flag user) chosen := by
  unfold UserTable.setEnabled
  split
  · cases made with
    | dialog passed typed ntHash unset => exact .dialog passed typed ntHash unset
    | signup passed asked ntHash hashed stored => exact .signup passed asked ntHash hashed stored
  · exact made

/-- No step takes an account away or renames it. -/
theorem Named.later {userId : Int} {username : String} (named : Named portal.users userId username)
    (taken : Portal.Step prims config portal label next) : Named next.users userId username := by
  obtain ⟨row, member, rfl, rfl⟩ := named
  have changed := taken.tableChange
  generalize next.users = later at changed
  cases changed with
  | inserted stored enabled free rows =>
      exact ⟨row, rows ▸ List.mem_append_left _ member, rfl, rfl⟩
  | enabled switched flag =>
      exact ⟨_, List.mem_map_of_mem member, UserTable.setEnabled_id _ _ _, UserTable.setEnabled_username _ _ _⟩
  | same => exact ⟨row, member, rfl, rfl⟩

theorem TaskBooked.later {task : TaskId} {entry : AuthTask} (booked : TaskBooked prims config labels portal task entry)
    (taken : Portal.Step prims config portal label next) :
    TaskBooked prims config (labels ++ [label]) next task entry := by
  cases entry with
  | signinVerifying password found =>
      cases found with
      | error error => trivial
      | ok found =>
          cases found with
          | none => trivial
          | some user =>
              obtain ⟨⟨chosen, made⟩, named, before, after, passed, row⟩ := booked
              exact ⟨⟨chosen, made.later taken⟩, named.later taken, before, after, passed.later taken, row⟩
  | answered reply =>
      intro userId username granted
      obtain ⟨named, issued⟩ := booked userId username granted
      exact ⟨named.later taken, issued⟩
  | _ => trivial

/-- The rows of before are booked, and the tasks are those of before or the one that has taken the step. -/
theorem Booked.withTask (booked : Booked prims config labels portal) {users : UserTable} {task : TaskId}
    {entry : AuthTask}
    (taken : Portal.Step prims config portal label { users, tasks := portal.tasks.insert task entry })
    (ids : (users.rows.map User.id).Nodup)
    (made : ∀ user ∈ users.rows, ∃ chosen,
      MadeWith prims config (labels ++ [label]) { users, tasks := portal.tasks.insert task entry } user chosen)
    (holds :
      TaskBooked prims config (labels ++ [label]) { users, tasks := portal.tasks.insert task entry } task entry) :
    Booked prims config (labels ++ [label]) { users, tasks := portal.tasks.insert task entry } := by
  refine ⟨ids, made, fun other found present => ?_⟩
  rcases Store.insert_eq_some present with ⟨rfl, rfl⟩ | ⟨_, before⟩
  · exact holds
  · exact (booked.tasks other found before).later taken

theorem Booked.madeLater (booked : Booked prims config labels portal)
    (taken : Portal.Step prims config portal label next) (user : User) (member : user ∈ portal.users.rows) :
    ∃ chosen, MadeWith prims config (labels ++ [label]) next user chosen := by
  obtain ⟨chosen, made⟩ := booked.made user member
  exact ⟨chosen, made.later taken⟩

theorem Booked.sameUsers (booked : Booked prims config labels portal) {task : TaskId} {entry : AuthTask}
    (taken : Portal.Step prims config portal label { portal with tasks := portal.tasks.insert task entry })
    (holds : TaskBooked prims config (labels ++ [label]) { portal with tasks := portal.tasks.insert task entry }
      task entry) :
    Booked prims config (labels ++ [label]) { portal with tasks := portal.tasks.insert task entry } :=
  booked.withTask taken booked.ids (booked.madeLater taken) holds

end Later

/-! ## What each part of a handler answers -/

theorem AuthReply.refusal_body (status : AuthStatus) (error : String) (granted : Int × String) :
    (AuthReply.refusal status error).body ≠ .ok granted := by
  intro same
  cases same

theorem signup_refused {req : AuthRequest} {reply : AuthReply} (refused : signup req = .error reply)
    (granted : Int × String) : reply.body ≠ .ok granted := by
  unfold signup at refused
  dsimp only at refused
  split at refused
  · cases refused
    exact AuthReply.refusal_body _ _ granted
  · cases refused

theorem signupHashes_refused {salt password : String} {reply : AuthReply}
    (refused : signupHashes prims salt password = .error reply) (granted : Int × String) :
    reply.body ≠ .ok granted := by
  unfold signupHashes at refused
  split at refused
  · cases refused
    exact AuthReply.refusal_body _ _ granted
  · cases refused

theorem signupHashes_ok {salt password passwordHash : String} {ntHash : Bytes}
    (hashed : signupHashes prims salt password = .ok (ntHash, passwordHash)) :
    ntHash = computeNtHash prims password ∧ prims.hashPassword password salt = some passwordHash := by
  unfold signupHashes at hashed
  split at hashed
  · cases hashed
  · next made =>
    cases hashed
    exact ⟨rfl, made⟩

theorem signupFound_refused {found : Except DbError (Option User)} {reply : AuthReply}
    (refused : signupFound found = some reply) (granted : Int × String) : reply.body ≠ .ok granted := by
  unfold signupFound at refused
  split at refused
  · cases refused
    exact AuthReply.refusal_body _ _ granted
  · cases refused

/-- Who is granted a session has given a password that verifies against the hash of the row. -/
theorem signinFound_granted {now : Nat} {password : String} {found : Except DbError (Option User)}
    {userId : Int} {username : String}
    (granted : (signinFound prims config now password found).body = .ok (userId, username)) :
    ∃ user passwordHash, found = .ok (some user) ∧ user.id = userId ∧ user.username = username ∧
      user.enabled = true ∧ user.passwordHash = some passwordHash ∧
      prims.verifyPassword password passwordHash = true ∧
      (signinFound prims config now password found).setCookie = setSessionCookie prims config now userId := by
  unfold signinFound at granted ⊢
  split at granted
  · next user =>
    split at granted
    · cases granted
    · next enabled =>
      split at granted
      · cases granted
      · next passwordHash stored =>
        split at granted
        · cases granted
        · next parses =>
          split at granted
          · cases granted
          · next verified =>
            cases granted
            refine ⟨user, passwordHash, rfl, rfl, rfl, by simpa using enabled, stored, by simpa using verified, ?_⟩
            simp only [enabled, parses, verified, if_false, Bool.false_eq_true]
  · cases granted

/-! ## Runs -/

theorem Booked.step {next : Portal} {label : PortalAction}
    (run : Steps (Portal.Step prims config) Portal.init labels portal)
    (booked : Booked prims config labels portal) (taken : Portal.Step prims config portal label next) :
    Booked prims config (labels ++ [label]) next := by
  have last : Passed prims config (labels ++ [label]) next portal label next :=
    ⟨labels, [], rfl, run, taken, .start⟩
  have kept := booked.madeLater taken
  have others : ∀ task entry, portal.tasks task = some entry →
      TaskBooked prims config (labels ++ [label]) next task entry :=
    fun task entry present => (booked.tasks task entry present).later taken
  have again := taken
  cases taken with
  | @createUser username password user later filled inserted =>
      obtain ⟨_, rows, rfl⟩ := UserTable.insert_eq_some inserted
      refine ⟨(UserTable.insert_ids booked.ids inserted).1, ?_, others⟩
      rw [rows]
      exact List.forall_mem_append.mpr ⟨kept, List.forall_mem_singleton.mpr ⟨password, .dialog last inserted rfl rfl⟩⟩
  | createUserFails => exact ⟨booked.ids, kept, others⟩
  | setUserEnabled userId enabled =>
      refine ⟨by rw [UserTable.setUserEnabled_ids]; exact booked.ids, ?_, others⟩
      intro user member
      obtain ⟨before, old, rfl⟩ := List.mem_map.mp member
      obtain ⟨chosen, made⟩ := kept before old
      exact ⟨chosen, made.switched userId enabled⟩
  | signup unused req =>
      refine booked.sameUsers again ?_
      cases asked : signup req with
      | ok request => trivial
      | error reply => exact fun userId username granted => absurd granted (signup_refused asked _)
  | signupCheck ready found read =>
      refine booked.sameUsers again ?_
      cases asked : signupFound found with
      | none => trivial
      | some reply => exact fun userId username granted => absurd granted (signupFound_refused asked _)
  | @signupCreate task username password salt passwordHash ntHash user later ready hashed inserted now =>
      obtain ⟨rfl, salted⟩ := signupHashes_ok hashed
      obtain ⟨_, rows, rfl⟩ := UserTable.insert_eq_some inserted
      refine booked.withTask again (UserTable.insert_ids booked.ids inserted).1 ?_ ?_
      · rw [rows]
        exact List.forall_mem_append.mpr
          ⟨kept, List.forall_mem_singleton.mpr ⟨password, .signup last ready rfl salted rfl⟩⟩
      · intro userId name granted
        cases granted
        refine ⟨⟨_, rows ▸ List.mem_append_right _ List.mem_cons_self, rfl, rfl⟩, now, rfl⟩
  | signupCreateFails ready now =>
      exact booked.sameUsers again fun userId username granted => by cases granted
  | signupHashFails ready hashed =>
      exact booked.sameUsers again fun userId username granted => absurd granted (signupHashes_refused hashed _)
  | signin unused req => exact booked.sameUsers again trivial
  | @signinLookUp task username password ready found read =>
      refine booked.sameUsers again ?_
      cases found with
      | error error => trivial
      | ok found =>
          cases found with
          | none => trivial
          | some user =>
              have row : user ∈ portal.users.rows := List.mem_of_find?_eq_some (read _ rfl).symm
              exact ⟨kept user row, ⟨user, row, rfl, rfl⟩, portal, _, last, row⟩
  | @signinAnswer task password found ready now =>
      refine booked.sameUsers again fun userId username granted => ?_
      obtain ⟨user, passwordHash, rfl, rfl, rfl, _, _, _, cookie⟩ := signinFound_granted granted
      exact ⟨(booked.tasks task _ ready).2.1, now, cookie⟩
  | request => exact ⟨booked.ids, kept, others⟩

theorem booked_of_run (run : Steps (Portal.Step prims config) Portal.init labels portal) :
    Booked prims config labels portal := by
  induction run with
  | start =>
      exact ⟨List.nodup_nil, List.forall_mem_nil _, fun _ _ present => by cases present⟩
  | step run taken ih => exact ih.step run taken

/-- The accounts of the table are those that the steps have stored, in the order of the steps. -/
theorem rows_eq_stores {portal : Portal} (run : Steps (Portal.Step prims config) Portal.init labels portal) :
    portal.users.rows.map (fun user => (user.username, user.id)) = labels.filterMap PortalAction.stores := by
  refine run.invariant (fun labels portal =>
    portal.users.rows.map (fun user => (user.username, user.id)) = labels.filterMap PortalAction.stores) rfl ?_
  intro labels portal label next same taken
  have changed := taken.tableChange
  rw [filterMap_append_singleton, ← same]
  generalize next.users = later at changed
  cases changed with
  | inserted stored enabled free rows =>
      rw [stored, rows, List.map_append]
      rfl
  | enabled switched flag =>
      have kept : (portal.users.setUserEnabled switched flag).rows.map (fun user => (user.username, user.id)) =
          portal.users.rows.map (fun user => (user.username, user.id)) := by
        simp [UserTable.setUserEnabled]
      exact kept.trans (List.append_nil _).symm
  | same nothing unswitched =>
      rw [nothing]
      exact (List.append_nil _).symm

/-- Of all accounts that a run creates, one has this id, one has this name, and it is the same. -/
theorem Named.unique {portal : Portal} (run : Steps (Portal.Step prims config) Portal.init labels portal)
    {userId otherId : Int} {username otherName : String} (named : Named portal.users userId username)
    (stored : (otherName, otherId) ∈ labels.filterMap PortalAction.stores) :
    otherId = userId ↔ otherName = username := by
  rw [← rows_eq_stores run] at stored
  obtain ⟨row, member, rfl, rfl⟩ := named
  obtain ⟨other, among, same⟩ := List.mem_map.mp stored
  cases same
  constructor
  · intro sameId
    rw [List.inj_on_of_nodup_map (booked_of_run run).ids among member sameId]
  · intro sameName
    rw [List.inj_on_of_nodup_map portal.users.unique among member sameName]

/-! ## Sign-ins -/

theorem cookiePair_setSessionCookie (urlSafe : UrlSafe prims.base64Url) (issuedAt : Nat) (userId : Int) :
    cookiePair (setSessionCookie prims config issuedAt userId) =
      sessionCookie (signSession prims userId issuedAt (sessionSecret config.serverName)) := by
  let token := signSession prims userId issuedAt (sessionSecret config.serverName)
  have plain := sessionCookie_plain (signSession_plain urlSafe userId issuedAt (sessionSecret config.serverName))
  have spelled : (setSessionCookie prims config issuedAt userId).toList = sessionCookie token ++
      ';' :: (" HttpOnly; Secure; SameSite=Strict; Path=/; Max-Age=" ++ toString sessionTtlSecs).toList := by
    rw [setSessionCookie, String.toList_append, String.toList_append, String.toList_append, String.toList_append,
      sessionCookie, List.append_assoc, List.append_assoc, List.append_assoc, List.append_assoc]
    rfl
  rw [cookiePair, spelled, List.takeWhile_append_of_pos fun c member => decide_eq_true (plain c member).2]
  exact List.append_nil _

theorem Named.steps {portal later : Portal} {more : List PortalAction}
    (run : Steps (Portal.Step prims config) portal more later) {userId : Int} {username : String}
    (named : Named portal.users userId username) : Named later.users userId username := by
  induction run with
  | start => exact named
  | step run taken ih => exact ih.later taken

/-- `me` names the account of the cookie. -/
theorem me_named {portal : Portal} (run : Steps (Portal.Step prims config) Portal.init labels portal)
    {userId : Int} {username : String} (named : Named portal.users userId username) {now : Nat}
    {cookieHeader : Option String} (valid : validateSessionCookie prims config now cookieHeader = some userId) :
    me prims config now cookieHeader (.ok portal.users.listUsers) =
      { status := .ok, body := .ok (userId, username) } := by
  obtain ⟨row, member, rfl, rfl⟩ := named
  have found : portal.users.rows.find? (fun user => user.id = row.id) = some row :=
    rowAt_of_mem (booked_of_run run).ids member
  rw [me, valid]
  dsimp only [Except.toOption, Option.getD_some, UserTable.listUsers]
  rw [found]

def notAuthenticated : MeReply := { status := .unauthorized, body := .error "Not authenticated" }

/-- The cookie of a granted reply is signed for the account that the reply names. -/
theorem Booked.cookie {portal : Portal} (booked : Booked prims config labels portal) {task : TaskId}
    {reply : AuthReply} (answered : portal.tasks task = some (.answered reply)) {userId : Int} {username : String}
    (granted : reply.body = .ok (userId, username)) :
    Named portal.users userId username ∧ ∃ issuedAt, reply.setCookie = setSessionCookie prims config issuedAt userId :=
  booked.tasks task _ answered userId username granted

/-- In every run: the cookie that a granted sign-up or sign-in sets, sent back among any other
cookies, makes `me` name the account of the reply, in every later state of the run and for a
day; then it makes it refuse, and so does at once what a sign-out leaves in its place. -/
theorem session_cookie_names_account (urlSafe : UrlSafe prims.base64Url) {portal : Portal}
    (run : Steps (Portal.Step prims config) Portal.init labels portal) {task : TaskId} {reply : AuthReply}
    {userId : Int64} {username : String} (answered : portal.tasks task = some (.answered reply))
    (granted : reply.body = .ok (userId.toInt, username)) :
    ∃ issuedAt, reply.setCookie = setSessionCookie prims config issuedAt userId.toInt ∧
      ∀ more later, Steps (Portal.Step prims config) portal more later →
      ∀ (now : Nat) (before after : List (List Char)) (front back : List Char),
        (∀ cookie ∈ before ++ after, ';' ∉ cookie ∧ cookieName cookie ≠ some sessionCookieName.toList) →
        (∀ c ∈ front ++ back, isWhitespace c = true) →
        let answer := fun setCookie => me prims config now
          (some (cookieHeader (before ++ (front ++ cookiePair setCookie ++ back) :: after)))
          (.ok later.users.listUsers)
        (issuedAt < 2 ^ 64 → answer reply.setCookie =
          if now - issuedAt ≤ sessionTtlSecs then { status := .ok, body := .ok (userId.toInt, username) }
          else notAuthenticated) ∧
        answer signout.setCookie = notAuthenticated := by
  obtain ⟨named, issuedAt, cookie⟩ := (booked_of_run run).cookie answered granted
  refine ⟨issuedAt, cookie, fun more later steps now before after front back others blank => ⟨fun clock => ?_, ?_⟩⟩
  · have signed := signSession_signedToken urlSafe userId (UInt64.ofNat issuedAt) (sessionSecret config.serverName)
    rw [UInt64.toNat_ofNat', Nat.mod_eq_of_lt clock] at signed
    have valid : validateSessionCookie prims config now (some (cookieHeader
        (before ++ (front ++ cookiePair reply.setCookie ++ back) :: after))) =
          if now - issuedAt ≤ sessionTtlSecs then some userId.toInt else none := by
      rw [validateSessionCookie, cookie, cookiePair_setSessionCookie urlSafe,
        sessionToken_among others blank (signSession_plain urlSafe userId.toInt issuedAt _)]
      exact validateSessionToken_signed signed now
    dsimp only
    split
    · next fresh =>
      rw [if_pos fresh] at valid
      exact me_named (run.append steps) (named.steps steps) valid
    · next expired =>
      rw [if_neg expired] at valid
      rw [me, valid]
      rfl
  · have cleared : cookiePair signout.setCookie = sessionCookie "" := by decide +kernel
    have invalid : validateSessionCookie prims config now (some (cookieHeader
        (before ++ (front ++ cookiePair signout.setCookie ++ back) :: after))) = none := by
      rw [validateSessionCookie, cleared, sessionToken_among others blank (List.forall_mem_nil _)]
      rfl
    dsimp only
    rw [me, invalid]
    rfl

/-! Alice signs up at 1700000000, and in again. -/

def aliceReply : AuthReply := signupCreated urlSafeHashes gwPortal 1700000000 (some alice)

def aliceLabels : List PortalAction := [.signup 0, .signupCheck 0, .signupCreate 0 "alice" (some 1)]

theorem aliceLabels_run :
    ∃ portal, Steps (Portal.Step urlSafeHashes gwPortal) Portal.init aliceLabels portal ∧
      portal.users = aliceUsers ∧ portal.tasks 0 = some (.answered aliceReply) ∧ portal.tasks 1 = none := by
  have asked := Steps.single (@Portal.Step.signup urlSafeHashes gwPortal Portal.init 0 rfl
    { username := "alice", password := "password" })
  have checked := asked.step
    (.signupCheck (Store.insert_self _ _ _) (.ok none) fun _ found => (Except.ok.inj found).symm)
  have hashed : signupHashes urlSafeHashes "AQIDBAUGBwgJCgsMDQ4PEA" "password" = .ok (alice.ntHash, knownArgon2) := rfl
  have inserted : UserTable.empty.createUserWithPassword "alice" alice.ntHash knownArgon2 =
      some (alice, aliceUsers) := rfl
  have created := checked.step (.signupCreate (Store.insert_self _ _ _) hashed inserted 1700000000)
  exact ⟨_, created, rfl, rfl, rfl⟩

theorem session_cookie_names_account_alice :
    ∃ issuedAt, aliceReply.setCookie = setSessionCookie urlSafeHashes gwPortal issuedAt (1 : Int64).toInt ∧
      (issuedAt < 2 ^ 64 → me urlSafeHashes gwPortal issuedAt
        (some (cookieHeader ["lang=de".toList, ' ' :: cookiePair aliceReply.setCookie]))
        (.ok (aliceUsers.setUserEnabled 1 false).listUsers) =
          { status := .ok, body := .ok ((1 : Int64).toInt, "alice") }) := by
  obtain ⟨portal, run, users, answered, _⟩ := aliceLabels_run
  have granted : aliceReply.body = .ok ((1 : Int64).toInt, "alice") := by decide +kernel
  obtain ⟨issuedAt, cookie, names⟩ := session_cookie_names_account urlSafeNoPad_urlSafe run answered granted
  have switchedOff := Steps.single (@Portal.Step.setUserEnabled urlSafeHashes gwPortal portal 1 false)
  have named := (names _ _ switchedOff issuedAt ["lang=de".toList] [] [' '] [] (by decide +kernel)
    (List.forall_mem_singleton.mpr (by decide))).1
  refine ⟨issuedAt, cookie, fun clock => ?_⟩
  have fresh := named clock
  rw [if_pos (Nat.sub_self issuedAt ▸ Nat.zero_le _)] at fresh
  rw [← List.append_nil (' ' :: cookiePair aliceReply.setCookie), ← users]
  generalize aliceReply = reply at fresh ⊢
  exact fresh

end RdGateway.Server
