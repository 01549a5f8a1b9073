import DeviceAdmission.Config.Overrides
import DeviceAdmission.Config.Settings
import DeviceAdmission.Proofs.Results

/-!
# The two sets of defaults

Defaults are written down twice: a configuration is filled with them, and settings take them for
what a configuration leaves unset. The main statement is that the two agree, whatever sections and
fields are set. Settings are what the filled configuration says, no more and no less; filling keeps
everything that is set; and it makes no difference whether the overrides of the environment come
before it or after it.
-/

namespace DeviceAdmission

namespace Config

/-! ## What is set stays set -/

/-- Whether what is set before is set afterwards, to something that it is related to. -/
def Stays {α : Type} (r : α → α → Prop) (before after : Option α) : Prop :=
  ∀ x ∈ before, ∃ y ∈ after, r x y

/-- A field that is left alone keeps its value. -/
theorem stays_refl {α : Type} (a : Option α) : Stays Eq a a :=
  fun x given => ⟨x, given, rfl⟩

/-- A field that is filled keeps its value. -/
theorem stays_filled {α : Type} (dflt : α) (a : Option α) : Stays Eq a (filled dflt a) := by
  rintro x ⟨⟩
  exact ⟨x, rfl, rfl⟩

/-- A section that is filled keeps what each section keeps. -/
theorem stays_section {α : Type} {r : α → α → Prop} {fill : α → α} (each : ∀ s, r s (fill s))
    (blank : α) (a : Option α) : Stays r a (some (fill (a.getD blank))) := by
  rintro s ⟨⟩
  exact ⟨fill s, rfl, each s⟩

structure Server.Within (s t : Server) : Prop where
  bind : Stays Eq s.bind t.bind
  port : Stays Eq s.port t.port

structure Storage.Within (s t : Storage) : Prop where
  backend : Stays Eq s.backend t.backend
  path : Stays Eq s.path t.path
  timeoutMillis : Stays Eq s.timeoutMillis t.timeoutMillis

structure Tokens.Within (s t : Tokens) : Prop where
  privateKeyPath : Stays Eq s.privateKeyPath t.privateKeyPath
  publicKeyPath : Stays Eq s.publicKeyPath t.publicKeyPath
  issuer : Stays Eq s.issuer t.issuer
  expirationSeconds : Stays Eq s.expirationSeconds t.expirationSeconds
  leewaySeconds : Stays Eq s.leewaySeconds t.leewaySeconds

structure Tenancy.Within (s t : Tenancy) : Prop where
  mode : Stays Eq s.mode t.mode
  verifyKeyPath : Stays Eq s.verifyKeyPath t.verifyKeyPath
  managementHeader : Stays Eq s.managementHeader t.managementHeader

structure Pagination.Within (s t : Pagination) : Prop where
  defaultPerPage : Stays Eq s.defaultPerPage t.defaultPerPage
  maxPerPage : Stays Eq s.maxPerPage t.maxPerPage

structure Devices.Within (s t : Devices) : Prop where
  allowKeyRotation : Stays Eq s.allowKeyRotation t.allowKeyRotation

structure Logging.Within (s t : Logging) : Prop where
  level : Stays Eq s.level t.level
  directory : Stays Eq s.directory t.directory
  json : Stays Eq s.json t.json

/-- Whether every field that a configuration sets is set to the same value in another one. -/
structure Within (c d : Config) : Prop where
  server : Stays Server.Within c.server d.server
  storage : Stays Storage.Within c.storage d.storage
  tokens : Stays Tokens.Within c.tokens d.tokens
  tenancy : Stays Tenancy.Within c.tenancy d.tenancy
  pagination : Stays Pagination.Within c.pagination d.pagination
  devices : Stays Devices.Within c.devices d.devices
  logging : Stays Logging.Within c.logging d.logging

/-- Filling changes no field that is set. -/
theorem within_withDefaults (c : Config) : c.Within c.withDefaults where
  server := stays_section (fun _ => ⟨stays_filled _ _, stays_filled _ _⟩) _ _
  storage := stays_section (fun _ => ⟨stays_filled _ _, stays_filled _ _, stays_filled _ _⟩) _ _
  tokens := stays_section (fun _ => ⟨stays_refl _, stays_refl _, stays_filled _ _,
    stays_filled _ _, stays_filled _ _⟩) _ _
  tenancy := stays_section (fun _ => ⟨stays_filled _ _, stays_refl _, stays_filled _ _⟩) _ _
  pagination := stays_section (fun _ => ⟨stays_filled _ _, stays_filled _ _⟩) _ _
  devices := stays_section (fun _ => ⟨stays_filled _ _⟩) _ _
  logging := stays_section (fun _ => ⟨stays_filled _ _, stays_refl _, stays_filled _ _⟩) _ _

/-- Filling a configuration that is filled changes nothing. -/
theorem withDefaults_withDefaults (c : Config) : c.withDefaults.withDefaults = c.withDefaults :=
  rfl

/-! ## Overrides -/

/-- An override that can be made before the defaults or after them can be left out as well. -/
theorem withDefaults_applyOverride {α : Type} {change : α → Config → Config}
    (commutes : ∀ a c, (change a c).withDefaults = change a c.withDefaults) (a : Option α)
    (c : Config) :
    (applyOverride change a c).withDefaults = applyOverride change a c.withDefaults := by
  cases a with
  | none => rfl
  | some a => exact commutes a c

/-- Overrides win over defaults and over nothing else that a default depends on, so they can be
applied before or after. -/
theorem withDefaults_withOverrides (env : Environment) (c : Config) :
    (c.withOverrides env).withDefaults = c.withDefaults.withOverrides env := by
  have bind : ∀ text c, (withBind text c).withDefaults = withBind text c.withDefaults :=
    fun _ _ => rfl
  have port : ∀ n c, (withPort n c).withDefaults = withPort n c.withDefaults :=
    fun _ _ => rfl
  have path : ∀ text c, (withDatabasePath text c).withDefaults =
      withDatabasePath text c.withDefaults := fun _ _ => rfl
  unfold withOverrides
  rw [withDefaults_applyOverride path, withDefaults_applyOverride port,
    withDefaults_applyOverride bind]

end Config

/-! ## Settings of a filled configuration -/

namespace Settings

open Config

variable {c : Config} {s : Settings}

/-- The configuration in which everything is set as it is in the settings. Which path of the key for
tenant tokens it has they say in signed mode only. -/
def toConfig (s : Settings) (verifyKeyPath : Option String) : Config :=
  { server := some { bind := some s.bind, port := some s.port }
    storage := some
      { backend := some s.backend
        path := some s.databasePath
        timeoutMillis := some s.storageTimeout }
    tokens := some
      { privateKeyPath := some s.privateKeyPath
        publicKeyPath := some s.publicKeyPath
        issuer := some s.issuer
        expirationSeconds := some s.expirationSeconds
        leewaySeconds := some s.leewaySeconds }
    tenancy := some
      { mode := some s.tenancyMode
        verifyKeyPath
        managementHeader := some s.managementHeader }
    pagination := some
      { defaultPerPage := some s.defaultPerPage, maxPerPage := some s.maxPerPage }
    devices := some { allowKeyRotation := some s.allowKeyRotation }
    logging := some
      { level := some s.logLevel, directory := s.logDirectory, json := some s.logJson } }

theorem required_eq_ok_iff {α : Type} {fault : SettingsFault} {a : Option α} {x : α} :
    required fault a = .ok x ↔ a = some x := by
  cases a <;> simp [required]

/-- Settings take the defaults that a configuration is filled with. -/
theorem ofConfig_withDefaults (c : Config) : ofConfig c.withDefaults = ofConfig c :=
  rfl

/-- Settings are had from the configuration that says what they say. -/
theorem ofConfig_toConfig {path : Option String}
    (verifyKey : verifyKeyPathOf s.tenancyMode path = .ok s.verifyKeyPath) :
    ofConfig (s.toConfig path) = .ok s := by
  simp only [ofConfig, toConfig, Option.getD_some, verifyKey]
  rfl

/-- Settings are those of a configuration exactly if it says what they say once it is filled. -/
theorem ofConfig_eq_ok_iff :
    ofConfig c = .ok s ↔
      ∃ path, c.withDefaults = s.toConfig path ∧
        verifyKeyPathOf s.tenancyMode path = .ok s.verifyKeyPath := by
  constructor
  · intro given
    unfold ofConfig at given
    rcases bind_eq_ok_iff.mp given with ⟨verifyKeyPath, verifyKey, given⟩
    rcases bind_eq_ok_iff.mp given with ⟨privateKeyPath, privateKey, given⟩
    rcases bind_eq_ok_iff.mp given with ⟨publicKeyPath, publicKey, given⟩
    rw [required_eq_ok_iff] at privateKey publicKey
    cases given
    refine ⟨(c.tenancy.getD .blank).verifyKeyPath, ?_, verifyKey⟩
    simp only [toConfig, ← privateKey, ← publicKey]
    rfl
  · rintro ⟨path, said, verifyKey⟩
    rw [← ofConfig_withDefaults, said, ofConfig_toConfig verifyKey]

end Settings

namespace Config

/-! ## The main statement -/

/-- The defaults that a configuration is filled with are those that its settings take: filled or
not, it has the same settings or lacks the same, and they say everything that the filled one says.
Filling twice is filling once, no field that is set is changed, and the overrides of an environment
can be applied before the defaults or after them. -/
theorem withDefaults_exact (c : Config) :
    Settings.ofConfig c.withDefaults = Settings.ofConfig c ∧
    (∀ s, Settings.ofConfig c = .ok s ↔
      ∃ path, c.withDefaults = s.toConfig path ∧
        Settings.verifyKeyPathOf s.tenancyMode path = .ok s.verifyKeyPath) ∧
    c.withDefaults.withDefaults = c.withDefaults ∧
    c.Within c.withDefaults ∧
    ∀ env, (c.withOverrides env).withDefaults = c.withDefaults.withOverrides env :=
  ⟨Settings.ofConfig_withDefaults c, fun _ => Settings.ofConfig_eq_ok_iff,
    withDefaults_withDefaults c, within_withDefaults c,
    fun env => withDefaults_withOverrides env c⟩

end Config

end DeviceAdmission
