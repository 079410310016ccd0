import RdGateway.Server.Certificate
import RdGateway.Wirekit.JsonStrings

/-!
# Reused certificates

The test in front of a reuse looks at the record, which is the last thing that a startup
writes. So the files that are reused are the right ones as long as the last startup that
began to change them got as far as the record, or left nothing that the record denies.
-/

set_option autoImplicit false

namespace RdGateway.Server

open Wirekit

abbrev CertExchange := Exchange CertStore Startup CertOutcome

/-- The certificate that a startup begins to write. -/
def generation (json : SanJson) (store : CertStore) (startup : Startup) : Option Generated :=
  if startup.tls.certPath.isSome && startup.tls.keyPath.isSome then none
  else if startup.tls.autoGenerate && !isPersisted json store startup && startup.createsDir then
    startup.generated
  else none

/-- What a startup does: it writes nothing, it reuses the files, or it begins to write. -/
inductive StartupStep (json : SanJson) (store : CertStore) (startup : Startup) :
    CertOutcome × CertStore → Prop where
  | kept (outcome : CertOutcome) (other : ∀ certPem keyPem, outcome ≠ .reused certPem keyPem)
      (idle : generation json store startup = none) : StartupStep json store startup (outcome, store)
  | reused {certPem keyPem : Bytes} (cert : store.certFile = some certPem) (key : store.keyFile = some keyPem)
      (persisted : isPersisted json store startup = true) (idle : generation json store startup = none) :
      StartupStep json store startup (.reused certPem keyPem, store)
  | wrote {generated : Generated} (began : generation json store startup = some generated) :
      StartupStep json store startup (persistCert json store startup generated)

theorem reuseCert_step {json : SanJson} {store : CertStore} {startup : Startup}
    (persisted : isPersisted json store startup = true) (idle : generation json store startup = none) :
    StartupStep json store startup (reuseCert store startup, store) := by
  unfold reuseCert
  split
  · next certPem keyPem cert key =>
    split
    · exact .reused cert key persisted idle
    · exact .kept _ (fun _ _ same => nomatch same) idle
  · exact .kept _ (fun _ _ same => nomatch same) idle

theorem loadOrGenerateCert_step (json : SanJson) (store : CertStore) (startup : Startup) :
    StartupStep json store startup (loadOrGenerateCert json store startup) := by
  unfold loadOrGenerateCert
  split
  · next cert key =>
    have idle : generation json store startup = none := by
      rw [generation, cert, key]
      rfl
    split <;> exact .kept _ (fun _ _ same => nomatch same) idle
  · next missing =>
    have given : (startup.tls.certPath.isSome && startup.tls.keyPath.isSome) = false := by
      rw [Bool.eq_false_iff, ne_eq, Bool.and_eq_true, Option.isSome_iff_exists, Option.isSome_iff_exists]
      intro holds
      obtain ⟨⟨certPath, cert⟩, keyPath, key⟩ := holds
      exact missing certPath keyPath cert key
    have begins : generation json store startup =
        if startup.tls.autoGenerate && !isPersisted json store startup && startup.createsDir then
          startup.generated
        else none := by
      rw [generation, given]
      rfl
    split
    · next auto =>
      rw [auto] at begins
      split
      · next persisted =>
        rw [persisted] at begins
        exact reuseCert_step persisted begins
      · next fresh =>
        rw [Bool.eq_false_iff.mpr fresh] at begins
        split
        · next generated made =>
          split
          · next dir =>
            rw [dir, made] at begins
            exact .wrote begins
          · next noDir =>
            rw [Bool.eq_false_iff.mpr noDir] at begins
            exact .kept _ (fun _ _ same => nomatch same) begins
        · next none =>
          rw [none, ite_self] at begins
          exact .kept _ (fun _ _ same => nomatch same) begins
    · next manual =>
      rw [Bool.eq_false_iff.mpr manual] at begins
      exact .kept _ (fun _ _ same => nomatch same) begins

/-! ## The last startup that changed a file -/

/-- The certificate that a startup of a run began to write. -/
def generationIn (json : SanJson) (exchange : CertExchange) : Option Generated :=
  generation json exchange.before exchange.event

/-- The startup changed the certificate file, which it writes first. -/
def touches (json : SanJson) (exchange : CertExchange) : Bool :=
  (generationIn json exchange).isSome && exchange.event.certWrite ≠ .failed none

def lastTouch (json : SanJson) (past : List CertExchange) : Option CertExchange :=
  (past.filter (touches json)).getLast?

/-- The startup wrote both of its files whole. -/
def WritesBoth (exchange : CertExchange) : Prop :=
  exchange.event.certWrite = .written ∧ exchange.event.keyWrite = .written

/-- The names in the record that the next startup would look at. -/
def recordedSans (json : SanJson) (store : CertStore) : List String :=
  match store.getCertificate with
  | some existing => existingSans json existing
  | none => []

/-- The last startup that changed a file got as far as its record, or it wrote both files
whole, for the names of the record that stands there. -/
def Settled (json : SanJson) (past : List CertExchange) (store : CertStore) : Prop :=
  ∀ touching, lastTouch json past = some touching → WritesBoth touching ∧
    (touching.event.save = .saved ∨ touching.event.sanNames.Perm (recordedSans json store))

/-- Reused files are those of one earlier generation, for the names that are desired. -/
def ReusesRightly (json : SanJson) (past : List CertExchange) (exchange : CertExchange) : Prop :=
  ∀ certPem keyPem, exchange.output = .reused certPem keyPem →
    exchange.before.certFile = some certPem ∧ exchange.before.keyFile = some keyPem ∧
      ∃ earlier ∈ past, ∃ generated, generationIn json earlier = some generated ∧
        generated.certPem = certPem ∧ generated.keyPem = keyPem ∧
        earlier.event.sanNames.Perm exchange.event.sanNames

/-- What the files hold behind the last startup that changed one, and what the record says
if that startup saved it. -/
structure FilesKept (json : SanJson) (past : List CertExchange) (store : CertStore) : Prop where
  absent : lastTouch json past = none → store.certFile = none
  written : ∀ touching, lastTouch json past = some touching → WritesBoth touching →
    touching ∈ past ∧ ∃ generated, generationIn json touching = some generated ∧
      store.certFile = some generated.certPem ∧ store.keyFile = some generated.keyPem
  recorded : ∀ touching, lastTouch json past = some touching → WritesBoth touching →
    touching.event.save = .saved → recordedSans json store = touching.event.sanNames

section Runs

variable {json : SanJson} {past : List CertExchange} {store : CertStore} {startup : Startup}

theorem lastTouch_append (exchange : CertExchange) :
    lastTouch json (past ++ [exchange]) =
      if touches json exchange then some exchange else lastTouch json past := by
  rw [lastTouch, List.filter_append]
  cases touched : touches json exchange with
  | true => rw [List.filter_cons_of_pos touched, List.filter_nil, List.getLast?_concat, if_pos rfl]
  | false =>
      rw [List.filter_cons_of_neg (Bool.eq_false_iff.mp touched), List.filter_nil, List.append_nil,
        if_neg Bool.false_ne_true, lastTouch]

theorem isPersisted_perm (persisted : isPersisted json store startup = true) :
    (recordedSans json store).Perm startup.sanNames := by
  unfold isPersisted at persisted
  split at persisted
  · next existing found =>
    have present : store.getCertificate = some existing := by
      split at found
      · exact found
      · cases found
    simp only [Bool.and_eq_true, decide_eq_true_eq] at persisted
    have desired := List.perm_insertionSort (· ≤ ·) startup.sanNames
    rw [← persisted.1.1] at desired
    rw [recordedSans, present]
    exact (List.perm_insertionSort _ _).symm.trans desired
  · cases persisted

theorem FilesKept.start : FilesKept json [] .empty where
  absent _ := rfl
  written _ touched := nomatch touched
  recorded _ touched := nomatch touched

theorem FilesKept.untouched (kept : FilesKept json past store) {exchange : CertExchange}
    (idle : touches json exchange = false) : FilesKept json (past ++ [exchange]) store := by
  have same : lastTouch json (past ++ [exchange]) = lastTouch json past := by
    rw [lastTouch_append, idle]
    rfl
  refine ⟨?_, ?_, ?_⟩
  · rw [same]
    exact kept.absent
  · rw [same]
    intro touching touched both
    obtain ⟨member, files⟩ := kept.written touching touched both
    exact ⟨List.mem_append_left _ member, files⟩
  · rw [same]
    exact kept.recorded

theorem recordedSans_saved (store : CertStore) (createdAt : String) (startup : Startup)
    (generated : Generated) :
    recordedSans json (store.saveCertificate createdAt (certInfo json startup generated)) =
      startup.sanNames := by
  rw [recordedSans, CertStore.getCertificate, CertStore.saveCertificate, List.getLast?_concat]
  exact congrArg (Option.getD · []) (json.fromStr_toString startup.sanNames)

theorem persistCert_unopened {generated : Generated} (wrote : startup.certWrite = .failed none) :
    (persistCert json store startup generated).2 = store := by
  simp only [persistCert, wrote, FileWrite.leaves, ne_eq, reduceCtorEq, not_false_eq_true, if_true]

theorem persistCert_whole {generated : Generated} (cert : startup.certWrite = .written)
    (key : startup.keyWrite = .written) :
    (persistCert json store startup generated).2.certFile = some generated.certPem ∧
      (persistCert json store startup generated).2.keyFile = some generated.keyPem ∧
      (startup.save = .saved →
        recordedSans json (persistCert json store startup generated).2 = startup.sanNames) := by
  simp only [persistCert, cert, key, FileWrite.leaves, ne_eq, not_true_eq_false, if_false]
  cases startup.save with
  | saved => exact ⟨rfl, rfl, fun _ => recordedSans_saved _ _ _ _⟩
  | failed => exact ⟨rfl, rfl, fun saved => nomatch saved⟩
  | stopped => exact ⟨rfl, rfl, fun saved => nomatch saved⟩

theorem FilesKept.step (kept : FilesKept json past store) (startup : Startup) :
    FilesKept json (past ++ [Exchange.of (loadOrGenerateCert json) store startup])
      (loadOrGenerateCert json store startup).2 := by
  have taken := loadOrGenerateCert_step json store startup
  have event : (Exchange.of (loadOrGenerateCert json) store startup).event = startup := rfl
  have begins : generationIn json (Exchange.of (loadOrGenerateCert json) store startup) =
      generation json store startup := rfl
  generalize loadOrGenerateCert json store startup = result at taken
  generalize Exchange.of (loadOrGenerateCert json) store startup = exchange at event begins
  have idles (idle : generation json store startup = none) : touches json exchange = false := by
    rw [touches, begins, idle]
    rfl
  cases taken with
  | kept outcome other idle => exact kept.untouched (idles idle)
  | reused cert key persisted idle => exact kept.untouched (idles idle)
  | @wrote generated began =>
      rw [began] at begins
      have touched : touches json exchange = decide (startup.certWrite ≠ .failed none) := by
        rw [touches, begins, event]
        rfl
      by_cases unopened : startup.certWrite = .failed none
      · rw [persistCert_unopened unopened]
        exact kept.untouched (touched.trans (decide_eq_false fun changed => changed unopened))
      · have last : lastTouch json (past ++ [exchange]) = some exchange := by
          rw [lastTouch_append, touched, if_pos (decide_eq_true unopened)]
        -- the invariant is about this startup now, and says something if it wrote both files
        refine ⟨fun none => ?_, fun touching found both => ?_, fun touching found both saved => ?_⟩
        · rw [last] at none
          cases none
        · obtain rfl : exchange = touching := Option.some.inj (last.symm.trans found)
          obtain ⟨cert, key⟩ := both
          rw [event] at cert key
          obtain ⟨certIs, keyIs, _⟩ := @persistCert_whole json store startup generated cert key
          exact ⟨List.mem_append_right _ (List.mem_singleton_self _), generated, begins, certIs, keyIs⟩
        · obtain rfl : exchange = touching := Option.some.inj (last.symm.trans found)
          obtain ⟨cert, key⟩ := both
          rw [event] at cert key saved
          obtain ⟨_, _, recorded⟩ := @persistCert_whole json store startup generated cert key
          rw [event]
          exact recorded saved

theorem FilesKept.reuses (kept : FilesKept json past store) (settled : Settled json past store)
    (startup : Startup) :
    ReusesRightly json past (Exchange.of (loadOrGenerateCert json) store startup) := by
  intro certPem keyPem reuses
  have taken := loadOrGenerateCert_step json store startup
  have output : (loadOrGenerateCert json store startup).1 = .reused certPem keyPem := reuses
  generalize loadOrGenerateCert json store startup = result at taken output
  cases taken with
  | kept outcome other _ => exact absurd output (other certPem keyPem)
  | reused cert key persisted _ =>
      cases output
      refine ⟨cert, key, ?_⟩
      cases found : lastTouch json past with
      | none =>
          rw [kept.absent found] at cert
          cases cert
      | some touching =>
          obtain ⟨both, names⟩ := settled touching found
          obtain ⟨member, generated, made, certIs, keyIs⟩ := kept.written touching found both
          rw [cert] at certIs
          rw [key] at keyIs
          refine ⟨touching, member, generated, made, (Option.some.inj certIs).symm,
            (Option.some.inj keyIs).symm, ?_⟩
          rcases names with saved | recorded
          · rw [← kept.recorded touching found both saved]
            exact isPersisted_perm persisted
          · exact recorded.trans (isPersisted_perm persisted)
  | @wrote generated began =>
      unfold persistCert at output
      split at output
      · cases output
      · dsimp only at output
        split at output
        · cases output
        · split at output <;> cases output

end Runs

/-- In every run of startups, whatever fails or stops, a startup reuses the files of one
earlier generation for the names that it desires, if the last startup that changed a file
got as far as its record or wrote what the record says. -/
theorem reused_certificate_right (json : SanJson) (startups : List Startup)
    {past later : List CertExchange} {exchange : CertExchange}
    (split : exchanges (loadOrGenerateCert json) .empty startups = past ++ exchange :: later)
    (settled : (∃ certPem keyPem, exchange.output = .reused certPem keyPem) →
      Settled json past exchange.before) :
    ReusesRightly json past exchange := by
  have kept : FilesKept json past exchange.before :=
    history_invariant_before (FilesKept json) .start (fun _ _ startup kept => kept.step startup) split
  obtain ⟨_, _, taken⟩ := exchanges_split split
  have member : exchange ∈ exchanges (loadOrGenerateCert json) .empty startups := by
    rw [split]
    exact List.mem_append_right _ List.mem_cons_self
  intro certPem keyPem reuses
  have rightly := kept.reuses (settled ⟨certPem, keyPem, reuses⟩) exchange.event
  rw [← mem_exchanges member] at rightly
  exact rightly certPem keyPem reuses

/-! ## A record that is not saved -/

def jsonStrings : SanJson where
  toString := JsonStrings.toJson
  fromStr := JsonStrings.fromJson
  fromStr_toString := JsonStrings.fromJson_toJson

/-- A startup under one name, which makes the certificate of one byte. -/
def sampleStartup (serverName : String) (mark : UInt8) (save : SaveOutcome) : Startup :=
  { serverName, tls := { certPath := none, keyPath := none, autoGenerate := true, sanNames := none }
    machine := { computerName := none, outboundIp := none, interfaceIps := [] }, configured := (none, none)
    lookup := true, readsCert := true, readsKey := true
    generated := some
      { certPem := [mark, 1], keyPem := [mark, 2], thumbprint := ":".intercalate (List.replicate 32 "AB") }
    createsDir := true, certWrite := .written, keyWrite := .written, save
    notBefore := "2025-01-01 00:00:00 UTC", notAfter := "2026-01-01 00:00:00 UTC"
    createdAt := "2025-01-01 00:00:00" }

def sampleRun (startups : List Startup) : List CertExchange :=
  exchanges (loadOrGenerateCert jsonStrings) .empty startups

theorem reused_certificate_right_restart :
    let first := Exchange.of (loadOrGenerateCert jsonStrings) .empty (sampleStartup "old.example" 1 .saved)
    let second := Exchange.of (loadOrGenerateCert jsonStrings) first.after
      (sampleStartup "old.example" 2 .saved)
    second.output = .reused [1, 1] [1, 2] ∧ ReusesRightly jsonStrings [first] second := by
  intro first second
  have split : exchanges (loadOrGenerateCert jsonStrings) .empty
      [sampleStartup "old.example" 1 .saved, sampleStartup "old.example" 2 .saved] =
        [first] ++ second :: [] := rfl
  have touched : touches jsonStrings first = true := by decide +kernel
  refine ⟨by decide +kernel, reused_certificate_right jsonStrings _ split fun _ touching found => ?_⟩
  rw [lastTouch, List.filter_cons_of_pos touched] at found
  cases found
  exact ⟨⟨rfl, rfl⟩, .inl rfl⟩

/-- Three startups: the names of the first, new names whose record is not saved, and the old
names again. The third reuses the files of the second. -/
theorem unsaved_record_reuses_wrongly :
    ∃ past exchange, sampleRun
        [sampleStartup "old.example" 1 .saved, sampleStartup "new.example" 2 .failed,
          sampleStartup "old.example" 3 .saved] = past ++ [exchange] ∧
      exchange.output = .reused [2, 1] [2, 2] ∧ ¬ ReusesRightly jsonStrings past exchange := by
  let past := sampleRun [sampleStartup "old.example" 1 .saved, sampleStartup "new.example" 2 .failed]
  let exchange := Exchange.of (loadOrGenerateCert jsonStrings)
    (stateAfter (loadOrGenerateCert jsonStrings) .empty
      [sampleStartup "old.example" 1 .saved, sampleStartup "new.example" 2 .failed])
    (sampleStartup "old.example" 3 .saved)
  have reuses : exchange.output = .reused [2, 1] [2, 2] := by decide +kernel
  have others : past.all (fun earlier => (generationIn jsonStrings earlier).all fun generated =>
      generated.certPem ≠ [2, 1] ||
        !decide (earlier.event.sanNames.Perm exchange.event.sanNames)) = true := by
    decide +kernel
  refine ⟨past, exchange, rfl, reuses, fun rightly => ?_⟩
  obtain ⟨_, _, earlier, member, generated, made, cert, _, names⟩ := rightly _ _ reuses
  have other := List.all_eq_true.mp others earlier member
  rw [made, Option.all_some, cert, decide_eq_true names] at other
  cases other

end RdGateway.Server
