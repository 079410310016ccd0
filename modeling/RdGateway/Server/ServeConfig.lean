import RdGateway.Server.Certificate

/-!
# The configuration that the server starts with

`run_serve` reads the configuration file and lays the options of the command line over the
part for TLS. The names of the certificate come from both, and from the machine.
-/

set_option autoImplicit false

namespace RdGateway.Server

/-- The options of `serve` that concern TLS. -/
structure ServeArgs where
  sanNames : List String
  tlsCert : Option String
  tlsKey : Option String
deriving Repr, DecidableEq

/-- A file that exists is read and parsed, or the start fails. -/
inductive ConfigFile where
  | missing
  | broken
  | holds (tls : TlsConfig)
deriving Repr, DecidableEq

def defaultTls : TlsConfig := { certPath := none, keyPath := none, autoGenerate := true, sanNames := none }

def loadConfig : ConfigFile → Option TlsConfig
  | .missing => some defaultTls
  | .broken => none
  | .holds tls => some tls

def applyOverrides (tls : TlsConfig) (args : ServeArgs) : TlsConfig :=
  let tls := if args.tlsCert.isSome then { tls with certPath := args.tlsCert } else tls
  let tls := if args.tlsKey.isSome then { tls with keyPath := args.tlsKey } else tls
  if args.sanNames ≠ [] then
    { tls with sanNames := some (args.sanNames.foldl pushNew (tls.sanNames.getD [])) }
  else tls

def serveConfig (file : ConfigFile) (args : ServeArgs) : Option TlsConfig :=
  (loadConfig file).map fun tls => applyOverrides tls args

/-! ## Names -/

theorem mem_pushNew {names : List String} {name other : String} :
    other ∈ pushNew names name ↔ other ∈ names ∨ other = name := by
  unfold pushNew
  split
  · next there => exact (or_iff_left_of_imp fun same => same ▸ there).symm
  · rw [List.mem_append, List.mem_singleton]

theorem mem_foldl_pushNew {more names : List String} {name : String} :
    name ∈ more.foldl pushNew names ↔ name ∈ names ∨ name ∈ more := by
  induction more generalizing names with
  | nil => simp
  | cons first rest ih => rw [List.foldl_cons, ih, mem_pushNew, List.mem_cons, or_assoc]

theorem count_pushNew (names : List String) (name other : String) :
    (pushNew names name).count other =
      if other = name then max 1 (names.count other) else names.count other := by
  unfold pushNew
  split
  · next there =>
    split
    · next same =>
      rw [same, Nat.max_eq_right (List.one_le_count_iff.mpr there)]
    · rfl
  · next absent =>
    rw [List.count_append, List.count_singleton]
    by_cases same : other = name
    · rw [same, List.count_eq_zero.mpr absent]
      simp
    · simp [same, Ne.symm same]

/-- A name is added at most once, and only where it is not there yet. -/
theorem count_foldl_pushNew (more names : List String) (name : String) :
    (more.foldl pushNew names).count name =
      if name ∈ more then max 1 (names.count name) else names.count name := by
  induction more generalizing names with
  | nil => simp
  | cons first rest ih =>
      rw [List.foldl_cons, ih, count_pushNew]
      by_cases same : name = first
      · simp [same]
      · simp [same]

/-- The names that a startup takes from its configuration file and from the command line. -/
def customSans (tls : TlsConfig) (args : ServeArgs) : List String :=
  ((applyOverrides tls args).sanNames).getD []

theorem mem_customSans {tls : TlsConfig} {args : ServeArgs} {name : String} :
    name ∈ customSans tls args ↔ name ∈ tls.sanNames.getD [] ∨ name ∈ args.sanNames := by
  unfold customSans applyOverrides
  dsimp only
  split
  · rw [Option.getD_some, mem_foldl_pushNew]
    split <;> split <;> rfl
  · next none =>
    rw [not_ne_iff.mp none]
    split <;> split <;> simp

/-- What the machine and the server's name contribute. -/
def machineSans (serverName : String) (machine : Machine) : List String :=
  desiredSans serverName defaultTls machine

theorem desiredSans_eq (serverName : String) (tls : TlsConfig) (machine : Machine) :
    desiredSans serverName tls machine = (tls.sanNames.getD []).foldl pushNew (machineSans serverName machine) := by
  unfold machineSans desiredSans
  cases tls.sanNames <;> rfl

end RdGateway.Server
