import DeviceAdmission.Config.Preparation
import DeviceAdmission.Proofs.Config.Defaults

/-!
# What a valid report promises

A configuration that was prepared is filled: it says of itself everything that its settings say. So
the checks of the report, of which each looks at one section and passes over what is unset, are
checks of the settings. The main statement is that a prepared configuration is valid exactly if it
has settings and these are sound, whatever tree and environment it was prepared from.
-/

namespace DeviceAdmission

/-- What settings have to be like for the service to make sense. -/
structure Settings.Sound (s : Settings) : Prop where
  port : s.port ≠ 0
  storageTimeout : 1 ≤ s.storageTimeout
  databasePath : s.backend = .tables → Text.isBlankText s.databasePath = false
  privateKeyPath : Text.isBlankText s.privateKeyPath = false
  publicKeyPath : Text.isBlankText s.publicKeyPath = false
  issuer : Text.isBlankText s.issuer = false
  expirationSeconds : 0 < s.expirationSeconds
  leewaySeconds : 0 ≤ s.leewaySeconds
  header_nonempty : s.managementHeader ≠ ""
  header_chars : ∀ ch ∈ s.managementHeader.toList, ch.isAlphanum = true ∨ ch = '-' ∨ ch = '_'
  defaultPerPage : 1 ≤ s.defaultPerPage
  maxPerPage : s.defaultPerPage ≤ s.maxPerPage
  /-- In signed mode there is a path of the key for tenant tokens, and it is not blank. -/
  verifyKeyPath_of_signed : s.tenancyMode = .signed →
    ∃ path, s.verifyKeyPath = some path ∧ Text.isBlankText path = false
  verifyKeyPath_of_unsigned : s.tenancyMode ≠ .signed → s.verifyKeyPath = none

namespace Config

variable {env : Environment} {tree : Json.Value} {c config : Config}

/-! ## Checking -/

/-- None of some findings is an error. -/
def Harmless (findings : List Finding) : Prop :=
  ∀ f ∈ findings, f.severity ≠ .error

@[simp]
theorem harmless_nil : Harmless [] := by
  simp [Harmless]

@[simp]
theorem harmless_append {fs gs : List Finding} :
    Harmless (fs ++ gs) ↔ Harmless fs ∧ Harmless gs := by
  simp [Harmless, or_imp, forall_and]

@[simp]
theorem harmless_finding {condition : Bool} {f : Finding} :
    Harmless (finding condition f) ↔ condition = false ∨ f.severity ≠ .error := by
  cases condition <;> simp [Harmless, finding]

/-- A configuration is valid when its findings are harmless. -/
theorem isValid_iff : c.isValid = true ↔ Harmless c.findings := by
  simp [isValid, errors, Harmless]

@[simp]
theorem isBlank_some (text : String) : isBlank (some text) = Text.isBlankText text :=
  rfl

/-- A text that is not blank is set. -/
theorem exists_of_not_isBlank {s : Option String} (notBlank : isBlank s = false) :
    ∃ text, s = some text ∧ Text.isBlankText text = false := by
  cases s with
  | none => cases notBlank
  | some text => exact ⟨text, rfl, notBlank⟩

theorem Tokens.harmless_iff {t : Tokens} :
    Harmless t.findings ↔
      isBlank t.privateKeyPath = false ∧ isBlank t.publicKeyPath = false ∧
        isBlank t.issuer = false ∧ (∀ s ∈ t.expirationSeconds, 0 < s) ∧
        ∀ s ∈ t.leewaySeconds, 0 ≤ s := by
  simp only [Tokens.findings, harmless_append, harmless_finding, Finding.severity, ne_eq,
    not_true_eq_false, or_false, reduceCtorEq, not_false_eq_true, or_true, and_true, and_assoc,
    Option.any_eq_false, decide_eq_false_iff_not, Int.not_le, Int.not_lt, Option.mem_def]

theorem Tenancy.harmless_iff {t : Tenancy} :
    Harmless t.findings ↔
      (t.mode.getD default = .signed → isBlank t.verifyKeyPath = false) ∧
        ∀ name ∈ t.managementHeader, isManagementHeader name = true := by
  cases given : t.managementHeader with
  | none => simp [Tenancy.findings, Finding.severity, given]
  | some name => simp [Tenancy.findings, Finding.severity, given]

theorem Server.harmless_iff {s : Server} : Harmless s.findings ↔ ∀ port ∈ s.port, port ≠ 0 := by
  cases given : s.port with
  | none => simp [Server.findings, given]
  | some port => simp [Server.findings, Finding.severity, given]

theorem Storage.harmless_iff {s : Storage} :
    Harmless s.findings ↔
      (s.backend.getD default = .tables → isBlank s.path = false) ∧ s.timeoutMillis ≠ some 0 := by
  cases kind : s.backend.getD default with
  | tables => simp [Storage.findings, Finding.severity, kind]
  | memory => simp [Storage.findings, Finding.severity, Harmless, finding, kind]

theorem Pagination.harmless_iff {p : Pagination} :
    Harmless p.findings ↔
      p.defaultPerPage ≠ some 0 ∧
        ∀ least ∈ p.defaultPerPage, ∀ most ∈ p.maxPerPage, least ≤ most := by
  cases least : p.defaultPerPage with
  | none => simp [Pagination.findings, least]
  | some least' =>
      cases most : p.maxPerPage with
      | none => simp [Pagination.findings, Finding.severity, least, most]
      | some most' => simp [Pagination.findings, Finding.severity, least, most]

theorem isManagementHeader_iff {name : String} :
    isManagementHeader name = true ↔
      name ≠ "" ∧ ∀ ch ∈ name.toList, ch.isAlphanum = true ∨ ch = '-' ∨ ch = '_' := by
  simp [isManagementHeader, isHeaderChar, or_assoc]

/-! ## Prepared configurations -/

/-- A prepared configuration is filled, as the overrides leave it so. -/
theorem withDefaults_of_prepare (prepared : prepare env tree = .ok config) :
    config.withDefaults = config := by
  unfold prepare at prepared
  rcases bind_eq_ok_iff.mp prepared with ⟨resolved, -, prepared⟩
  rcases bind_eq_ok_iff.mp prepared with ⟨c, -, prepared⟩
  cases prepared
  rw [withDefaults_withOverrides, withDefaults_withDefaults]

end Config

namespace Settings

open Config

variable {c : Config} {s : Settings}

theorem verifyKeyPathOf_eq_ok_iff {mode : TenancyMode} {path found : Option String} :
    verifyKeyPathOf mode path = .ok found ↔
      (mode = .signed → path.isSome = true ∧ path = found) ∧ (mode ≠ .signed → found = none) := by
  cases mode with
  | single => simp [verifyKeyPathOf, eq_comm (a := none)]
  | passthrough => simp [verifyKeyPathOf, eq_comm (a := none)]
  | signed => cases path <;> simp [verifyKeyPathOf, required, Except.map]

theorem exists_verifyKeyPathOf_iff {mode : TenancyMode} {path : Option String} :
    (∃ found, verifyKeyPathOf mode path = .ok found) ↔
      (mode = .signed → path.isSome = true) := by
  cases mode with
  | single => simp [verifyKeyPathOf]
  | passthrough => simp [verifyKeyPathOf]
  | signed => cases path <;> simp [verifyKeyPathOf, required, Except.map]

/-- A configuration has settings exactly if the paths that have to be set are. -/
theorem exists_ofConfig_iff :
    (∃ s, ofConfig c = .ok s) ↔
      (c.tokens.getD .blank).privateKeyPath.isSome = true ∧
      (c.tokens.getD .blank).publicKeyPath.isSome = true ∧
      ((c.tenancy.getD .blank).mode.getD default = .signed →
        (c.tenancy.getD .blank).verifyKeyPath.isSome = true) := by
  rw [← exists_verifyKeyPathOf_iff, Option.isSome_iff_exists, Option.isSome_iff_exists]
  constructor
  · rintro ⟨s, given⟩
    unfold ofConfig at given
    rcases bind_eq_ok_iff.mp given with ⟨verifyKeyPath, verifyKey, given⟩
    rcases bind_eq_ok_iff.mp given with ⟨privateKeyPath, privateKey, given⟩
    rcases bind_eq_ok_iff.mp given with ⟨publicKeyPath, publicKey, -⟩
    exact ⟨⟨_, required_eq_ok_iff.mp privateKey⟩, ⟨_, required_eq_ok_iff.mp publicKey⟩,
      _, verifyKey⟩
  · rintro ⟨⟨privateKeyPath, privateKey⟩, ⟨publicKeyPath, publicKey⟩, verifyKeyPath, verifyKey⟩
    unfold ofConfig
    simp only [privateKey, publicKey, verifyKey]
    exact ⟨_, rfl⟩

/-- What says the same as sound settings is valid, and nothing else is. -/
theorem isValid_toConfig_iff {path : Option String}
    (verifyKey : verifyKeyPathOf s.tenancyMode path = .ok s.verifyKeyPath) :
    (s.toConfig path).isValid = true ↔ s.Sound := by
  rcases verifyKeyPathOf_eq_ok_iff.mp verifyKey with ⟨signed, unsigned⟩
  simp only [isValid_iff, findings, toConfig, Option.elim_some, Option.getD_some, harmless_append,
    Server.harmless_iff, Storage.harmless_iff, Tokens.harmless_iff, Tenancy.harmless_iff,
    Pagination.harmless_iff, isManagementHeader_iff, isBlank_some, Option.mem_some_iff,
    forall_eq', ne_eq, Option.some.injEq]
  constructor
  · rintro ⟨⟨⟨⟨port, databasePath, timeout⟩, privateKey, publicKey, issuer, expiration, leeway⟩,
      verifyKeyPath, nonempty, chars⟩, perPage, maxPerPage⟩
    refine ⟨port, Nat.one_le_iff_ne_zero.mpr timeout, databasePath, privateKey, publicKey, issuer,
      expiration, leeway, nonempty, chars, Nat.one_le_iff_ne_zero.mpr perPage, maxPerPage, ?_,
      unsigned⟩
    intro isSigned
    rw [← (signed isSigned).2]
    exact exists_of_not_isBlank (verifyKeyPath isSigned)
  · intro sound
    refine ⟨⟨⟨⟨sound.port, sound.databasePath, Nat.one_le_iff_ne_zero.mp sound.storageTimeout⟩,
      sound.privateKeyPath, sound.publicKeyPath, sound.issuer, sound.expirationSeconds,
      sound.leewaySeconds⟩, ?_, sound.header_nonempty, sound.header_chars⟩,
      Nat.one_le_iff_ne_zero.mp sound.defaultPerPage, sound.maxPerPage⟩
    intro isSigned
    rcases sound.verifyKeyPath_of_signed isSigned with ⟨text, set, notBlank⟩
    rw [(signed isSigned).2, set]
    exact notBlank

end Settings

namespace Config

variable {env : Environment} {tree : Json.Value} {config : Config}

/-- A filled configuration that is valid has settings, and they are sound. -/
theorem exists_sound (filled : config.withDefaults = config) (valid : config.isValid = true) :
    ∃ s, Settings.ofConfig config = .ok s ∧ s.Sound := by
  have harmless := isValid_iff.mp valid
  have tenancyEq : config.tenancy = some (config.tenancy.getD .blank) := by
    rw [← filled]
    rfl
  simp only [findings, harmless_append] at harmless
  rcases harmless with ⟨⟨⟨-, tokens⟩, tenancy⟩, -⟩
  rw [tenancyEq, Option.elim_some] at tenancy
  rcases Tokens.harmless_iff.mp tokens with ⟨privateKey, publicKey, -⟩
  have isSet {path : Option String} (notBlank : isBlank path = false) : path.isSome = true := by
    rcases exists_of_not_isBlank notBlank with ⟨text, rfl, -⟩
    rfl
  rcases Settings.exists_ofConfig_iff.mpr ⟨isSet privateKey, isSet publicKey,
    fun signed => isSet ((Tenancy.harmless_iff.mp tenancy).1 signed)⟩ with ⟨s, given⟩
  rcases Settings.ofConfig_eq_ok_iff.mp given with ⟨path, said, verifyKey⟩
  rw [← filled, said] at valid
  exact ⟨s, given, (Settings.isValid_toConfig_iff verifyKey).mp valid⟩

/-- A prepared configuration is valid exactly if it has settings and these are sound, whatever its
tree refers to and whatever the environment overrides. -/
theorem isValid_iff_sound (prepared : prepare env tree = .ok config) :
    config.isValid = true ↔ ∃ s, Settings.ofConfig config = .ok s ∧ s.Sound := by
  have filled := withDefaults_of_prepare prepared
  constructor
  · exact exists_sound filled
  · rintro ⟨s, given, sound⟩
    rcases Settings.ofConfig_eq_ok_iff.mp given with ⟨path, said, verifyKey⟩
    rw [← filled, said]
    exact (Settings.isValid_toConfig_iff verifyKey).mpr sound

end Config

namespace Sample

open Config

/-- An environment that says where the keys are, and on which port to listen. -/
def signedEnvironment : Environment :=
  [("KEYS", "/etc/devauth"), ("DEVAUTH_PORT", " 9000 "), ("DEVAUTH_DB", " ")]

def keyReference (file : String) : Json.Value :=
  .text ("$\x7bKEYS\x7d/" ++ file)

/-- A configuration in signed mode that refers to the environment. -/
def signedTree : Json.Value :=
  .object
    [ ("jwt", .object
        [ ("privateKeyPath", keyReference "server.pem"),
          ("publicKeyPath", keyReference "server.pub") ]),
      ("tenancy", .object
        [("mode", .text "signed"), ("verifyKeyPath", keyReference "tenants.pub")]) ]

def signedSettings : Settings where
  bind := Default.bind
  port := 9000
  backend := Default.backend
  databasePath := Default.databasePath
  storageTimeout := defaultStorageTimeout
  privateKeyPath := "/etc/devauth/server.pem"
  publicKeyPath := "/etc/devauth/server.pub"
  issuer := Default.issuer
  expirationSeconds := Default.expirationSeconds
  leewaySeconds := Default.leewaySeconds
  tenancyMode := .signed
  verifyKeyPath := some "/etc/devauth/tenants.pub"
  managementHeader := Default.managementHeader
  defaultPerPage := PageRequest.defaultPerPage
  maxPerPage := PageRequest.defaultMaxPerPage
  allowKeyRotation := Default.allowKeyRotation
  logLevel := Default.logLevel
  logDirectory := none
  logJson := Default.logJson

set_option maxRecDepth 20000 in
/-- The configuration is prepared and valid, and its settings are sound. -/
theorem sound_signedSettings :
    ∃ config, prepare signedEnvironment signedTree = .ok config ∧ config.isValid = true ∧
      Settings.ofConfig config = .ok signedSettings ∧ signedSettings.Sound := by
  have result : (prepare signedEnvironment signedTree).toOption =
      some (signedSettings.toConfig signedSettings.verifyKeyPath) := by decide +kernel
  have valid : (signedSettings.toConfig signedSettings.verifyKeyPath).isValid = true := by
    decide +kernel
  have given : Settings.ofConfig (signedSettings.toConfig signedSettings.verifyKeyPath) =
      .ok signedSettings := Settings.ofConfig_toConfig rfl
  cases prepared : prepare signedEnvironment signedTree with
  | error fault =>
      rw [prepared] at result
      cases result
  | ok config =>
      rw [prepared] at result
      cases result
      rcases (isValid_iff_sound prepared).mp valid with ⟨s, given', sound⟩
      cases given.symm.trans given'
      exact ⟨_, rfl, valid, given, sound⟩

end Sample

end DeviceAdmission
