import DeviceAdmission.Proofs.Config.Checked
import DeviceAdmission.Proofs.Config.References
import DeviceAdmission.Proofs.Service.Verification
import DeviceAdmission.Proofs.Store.Devices
import DeviceAdmission.Host.Snapshot
import DeviceAdmission.Startup

/-!
# Putting the service together

What of a service can still fail once its configuration was checked. The checks bound a lifetime
and a leeway on one side only and leave the length of the management header open, so three bounds
are missing: the greatest span, the greatest length of a header name, and the greatest lifetime
with which no token expires beyond the range of instants. The main statement is that each of the
three decides its part of the wiring, and that with all of them nothing but the host keeps the
service from starting and nothing but the signing key from minting.
-/

namespace DeviceAdmission

/-! ## Spans -/

/-- The longest lifetime in seconds of a token that is minted in the years 1970 to 9999 and expires
in the range of instants. -/
def Authority.maxLifetime : Int := Instant.lastSecond - 253402300799

theorem Authority.maxLifetime_le : Authority.maxLifetime ≤ Span.maxSeconds := by
  decide

@[simp]
theorem Instant.seconds_add_ofSeconds (t : Instant) (s : Int) :
    (t.add (.ofSeconds s)).seconds = t.seconds + s := by
  simp only [seconds, add, Span.ofSeconds, nanosPerSecond]
  omega

/-- A lifetime ends in range, whenever it begins in the years 1970 to 9999, unless it is too
long. -/
theorem Instant.isInRange_add_iff {lifetime : Int} (pos : 0 < lifetime) :
    (∀ now : Instant, now.isTimely = true → (now.add (.ofSeconds lifetime)).isInRange = true) ↔
      lifetime ≤ Authority.maxLifetime := by
  have first : firstSecond ≤ 0 := by decide
  simp only [isInRange, seconds_add_ofSeconds, Bool.and_eq_true, decide_eq_true_eq, isTimely_iff,
    Authority.maxLifetime]
  constructor
  · intro inRange
    have last := (inRange (.ofSeconds 253402300799) (by simp)).2
    rw [seconds_ofSeconds] at last
    omega
  · intro short now timely
    omega

namespace Startup

variable {s : Settings}

theorem span_eq_ok_iff {seconds : Int} (nonneg : 0 ≤ seconds) {span : Span} :
    Startup.span seconds = .ok span ↔ seconds ≤ Span.maxSeconds ∧ span = .ofSeconds seconds := by
  have natAbs : seconds.natAbs ≤ Span.maxSeconds ↔ seconds ≤ Span.maxSeconds := by omega
  by_cases short : seconds ≤ Span.maxSeconds
  · simp [Startup.span, Span.ofSeconds?, natAbs, short, eq_comm]
  · simp [Startup.span, Span.ofSeconds?, natAbs, short]

/-- There is a policy exactly where neither span is too long. -/
theorem policy_eq_ok_iff (checked : s.Checked) {policy : TokenPolicy} :
    Startup.policy s = .ok policy ↔
      (s.expirationSeconds ≤ Span.maxSeconds ∧ s.leewaySeconds ≤ Span.maxSeconds) ∧
        policy = ⟨s.issuer, .ofSeconds s.expirationSeconds, .ofSeconds s.leewaySeconds,
          s.storageTimeout⟩ := by
  have expirationNonneg := Int.le_of_lt checked.expiration_pos
  simp only [Startup.policy, bind_eq_ok_iff, span_eq_ok_iff expirationNonneg,
    span_eq_ok_iff checked.leeway_nonneg, pure, Except.pure, Except.ok.injEq]
  constructor
  · rintro ⟨expiration, ⟨short, rfl⟩, leeway, ⟨leewayShort, rfl⟩, rfl⟩
    exact ⟨⟨short, leewayShort⟩, rfl⟩
  · rintro ⟨⟨short, leewayShort⟩, rfl⟩
    exact ⟨_, ⟨short, rfl⟩, _, ⟨leewayShort, rfl⟩, rfl⟩

/-- The keys of a service match where its two key files hold a private key and its public key. -/
theorem match_of_authority {privateKey publicKey : String} {a : Authority}
    (pair : Rsa.IsPair privateKey publicKey)
    (made : Startup.authority s privateKey publicKey = .ok a) : a.keys.Match := by
  rcases TokenKeys.exists_match_of_isPair pair with ⟨keys, read, matching⟩
  rw [Startup.authority, read] at made
  rcases bind_eq_ok_iff.mp made with ⟨_, ⟨⟩, made⟩
  rcases bind_eq_ok_iff.mp made with ⟨policy, -, ⟨⟩⟩
  exact matching

end Startup

/-! ## Header names -/

theorem GatewaySettings.isHeaderChar_of_config {c : Char} (h : Config.isHeaderChar c = true) :
    GatewaySettings.isHeaderChar c = true := by
  simp only [Config.isHeaderChar, Bool.or_eq_true, decide_eq_true_eq] at h
  rcases h with (alphanum | rfl) | rfl
  · simp [GatewaySettings.isHeaderChar, alphanum]
  · decide
  · decide

/-- A management header can be one exactly when it is not too long. -/
theorem GatewaySettings.isHeaderName_iff {name : String}
    (checked : Config.isManagementHeader name = true) :
    isHeaderName name = true ↔ name.length ≤ maxHeaderName := by
  simp only [Config.isManagementHeader, Bool.and_eq_true, List.all_eq_true] at checked
  rcases checked with ⟨notEmpty, chars⟩
  have all : name.toList.all GatewaySettings.isHeaderChar = true :=
    List.all_eq_true.mpr fun c member => isHeaderChar_of_config (chars c member)
  simp [isHeaderName, notEmpty, all]

theorem GatewaySettings.exists_ofHeader_iff {name : String} {defaultPerPage maxPerPage : Nat} :
    (∃ g, ofHeader name defaultPerPage maxPerPage = .ok g) ↔ isHeaderName name = true := by
  unfold ofHeader
  split
  · rename_i named
    simp [named]
  · rename_i unnamed
    simp [unnamed]

/-! ## Starting -/

/-- Whether what keeps a service from starting lies in the settings alone, whatever is on the
host. -/
def StartFault.isOfSettings : StartFault → Bool
  | .spanTooLong _ | .verifyKeyPathMissing | .managementHeader _ => true
  | .database _ | .keyFile _ _ _ | .tokenKeys _ | .tenantKey _ => false

namespace Startup

variable {σ α β : Type} {s : Settings} {gives : α → Prop} {results : β → Prop}

/-- Whatever the state of the host, a step of the start gives what it should, or fails with a fault
that is not of the settings. -/
def Blameless (x : ExceptT StartFault (StateM σ) α) (gives : α → Prop) : Prop :=
  ∀ host : σ, match (x.run.run host).1 with
    | .ok a => gives a
    | .error fault => fault.isOfSettings = false

theorem Blameless.bind {x : ExceptT StartFault (StateM σ) α}
    {f : α → ExceptT StartFault (StateM σ) β} (first : Blameless x gives)
    (rest : ∀ a, gives a → Blameless (f a) results) : Blameless (x >>= f) results := by
  intro host
  have given := first host
  rw [ExceptT.run_bind, StateT.run_bind]
  cases ended : x.run.run host with
  | mk result host' =>
      rw [ended] at given
      cases result with
      | error fault => exact given
      | ok a => exact rest a given host'

theorem blameless_pure {a : α} (given : gives a) :
    Blameless (pure a : ExceptT StartFault (StateM σ) α) gives :=
  fun _ => given

theorem blameless_throw {fault : StartFault} (ofHost : fault.isOfSettings = false) :
    Blameless (throw fault : ExceptT StartFault (StateM σ) α) gives :=
  fun _ => ofHost

theorem blameless_liftExcept {x : Except StartFault α} (given : ∀ a, x = .ok a → gives a)
    (ofHost : ∀ fault, x = .error fault → fault.isOfSettings = false) :
    Blameless (liftExcept x : ExceptT StartFault (StateM σ) α) gives := by
  cases x with
  | error fault => exact blameless_throw (ofHost fault rfl)
  | ok a => exact blameless_pure (given a rfl)

/-- Faults that are only renamed are not of the settings where their new names are not. -/
theorem blameless_mapError {ε : Type} {f : ε → StartFault}
    (ofHost : ∀ e, (f e).isOfSettings = false) (x : StateM σ (Except ε α)) :
    Blameless (ExceptT.mk ((·.mapError f) <$> x)) fun _ => True := by
  intro host
  rw [ExceptT.run_mk, StateT.run_map]
  cases ended : x.run host with
  | mk result host' =>
      cases result with
      | error e => exact ofHost e
      | ok a => trivial

/-- The authority has the policy of the settings, and only its keys can be at fault. -/
theorem blameless_authority {policy : TokenPolicy} (given : Startup.policy s = .ok policy)
    (privateKey publicKey : String) :
    Blameless (liftExcept (Startup.authority s privateKey publicKey) :
      ExceptT StartFault (StateM σ) Authority) fun authority => authority.policy = policy := by
  refine blameless_liftExcept ?_ ?_
  · intro authority made
    rcases bind_eq_ok_iff.mp made with ⟨keys, -, made⟩
    rw [given] at made
    cases made
    rfl
  · intro fault failed
    rcases bind_eq_error_iff.mp failed with failed | ⟨keys, -, failed⟩
    · rcases eq_error_of_mapError failed with ⟨problem, -, rfl⟩
      rfl
    · rw [given] at failed
      cases failed

/-- With a header that can be named there is a gateway, over the authority that was made. -/
theorem blameless_gateway (named : GatewaySettings.isHeaderName s.managementHeader = true)
    (authority : Authority) (tenants : TenantResolver) :
    Blameless (liftExcept (gateway s authority tenants) : ExceptT StartFault (StateM σ) Gateway)
      fun gateway => gateway.service.authority = authority := by
  have opened : GatewaySettings.ofHeader s.managementHeader s.defaultPerPage s.maxPerPage =
      .ok ⟨Http.lowerName s.managementHeader, s.defaultPerPage, s.maxPerPage⟩ := if_pos named
  refine blameless_liftExcept ?_ ?_
  · intro made isMade
    rw [gateway, opened] at isMade
    cases isMade
    rfl
  · intro fault failed
    rw [gateway, opened] at failed
    cases failed

section Steps

variable [Host (StateM σ)]

theorem blameless_openStore (s : Settings) :
    Blameless (openStore (m := StateM σ) s) fun _ => True := by
  unfold openStore
  cases s.backend with
  | memory => exact blameless_pure trivial
  | tables => exact blameless_mapError (fun _ => rfl) _

theorem blameless_readKey (purpose : KeyPurpose) (path : String) :
    Blameless (readKey (m := StateM σ) purpose path) fun _ => True :=
  blameless_mapError (fun _ => rfl) _

theorem blameless_tenantResolver (checked : s.Checked) :
    Blameless (tenantResolver (m := StateM σ) s) fun _ => True := by
  unfold tenantResolver
  split
  · exact blameless_pure trivial
  · exact blameless_pure trivial
  · rename_i signed missing
    exact absurd missing (checked.verifyKey signed)
  · refine (blameless_readKey .tenants _).bind fun key _ =>
      blameless_liftExcept (fun _ _ => trivial) ?_
    intro fault failed
    unfold signedResolver at failed
    rcases eq_error_of_mapError failed with ⟨problem, -, rfl⟩
    rfl

/-- With a policy and a header that can be named, only the host keeps the service from starting. -/
theorem blameless_start (checked : s.Checked) {policy : TokenPolicy}
    (given : Startup.policy s = .ok policy)
    (named : GatewaySettings.isHeaderName s.managementHeader = true) :
    Blameless (start (m := StateM σ) s) fun started =>
      started.1.service.authority.policy = policy := by
  refine (blameless_openStore s).bind fun store _ => ?_
  refine (blameless_readKey .signing _).bind fun privateKey _ => ?_
  refine (blameless_readKey .verification _).bind fun publicKey _ => ?_
  refine (blameless_authority given privateKey publicKey).bind fun authority policyEq => ?_
  refine (blameless_tenantResolver checked).bind fun tenants _ => ?_
  refine (blameless_gateway named authority tenants).bind fun gateway authorityEq => ?_
  refine blameless_pure ?_
  rw [authorityEq, policyEq]

end Steps

end Startup

/-! ## Minting -/

/-- A token whose expiry is in range is minted, unless it cannot be signed. -/
theorem Authority.mint_of_isInRange {a : Authority} {now : Instant}
    (inRange : (now.add a.policy.expiration).isInRange = true) (tokenId : String) (tenant : Tenant)
    (deviceId : String) :
    (∃ t, a.mint tokenId tenant deviceId now = .ok t) ∨
      ∃ fault, a.mint tokenId tenant deviceId now = .error (.internal (.signing fault)) := by
  cases encoded : (a.newClaims tokenId tenant deviceId now).encode a.keys.sign with
  | error fault =>
      right
      exact ⟨fault, by simp [mint, encoded, Except.mapError, bind, Except.bind]⟩
  | ok raw =>
      left
      simp [mint, encoded, inRange, Except.mapError, bind, Except.bind, pure, Except.pure]

/-- On a host whose state is given the service starts and mints at every time of the years 1970 to
9999, unless the signing key fails it; or what keeps it from starting is not of its settings. -/
def Settings.WorksOn {σ : Type} [Host (StateM σ)] (s : Settings) (host : σ) : Prop :=
  match ((Startup.start (m := StateM σ) s).run.run host).1 with
  | .error fault => fault.isOfSettings = false
  | .ok (gateway, _) =>
    ∀ (now : Instant), now.isTimely = true → ∀ (tokenId : String) (tenant : Tenant)
      (deviceId : String),
      (∃ t, gateway.service.authority.mint tokenId tenant deviceId now = .ok t) ∨
        ∃ fault, gateway.service.authority.mint tokenId tenant deviceId now =
          .error (.internal (.signing fault))

namespace Config

variable {env : Environment} {tree : Json.Value} {config : Config}

/-- A prepared configuration without errors has settings. Its two spans can be had exactly where
neither is longer than the longest span, its header exactly where the name is not too long, and its
lifetime ends in range exactly where it is not longer than the longest lifetime. With these bounds
the service works on every host. -/
theorem wiring_of_valid (prepared : prepare env tree = .ok config)
    (valid : config.isValid = true) :
    ∃ settings, Settings.ofConfig config = .ok settings ∧ settings.Checked ∧
      ((∃ policy, Startup.policy settings = .ok policy) ↔
        settings.expirationSeconds ≤ Span.maxSeconds ∧
          settings.leewaySeconds ≤ Span.maxSeconds) ∧
      ((∃ gateway, GatewaySettings.ofHeader settings.managementHeader settings.defaultPerPage
          settings.maxPerPage = .ok gateway) ↔
        settings.managementHeader.length ≤ GatewaySettings.maxHeaderName) ∧
      ((∀ now : Instant, now.isTimely = true →
          (now.add (.ofSeconds settings.expirationSeconds)).isInRange = true) ↔
        settings.expirationSeconds ≤ Authority.maxLifetime) ∧
      (settings.expirationSeconds ≤ Authority.maxLifetime →
        settings.leewaySeconds ≤ Span.maxSeconds →
        settings.managementHeader.length ≤ GatewaySettings.maxHeaderName →
        ∀ (σ : Type) [Host (StateM σ)] (host : σ), settings.WorksOn host) := by
  rcases exists_settings prepared valid with ⟨settings, given, checked⟩
  have named := GatewaySettings.isHeaderName_iff checked.header
  have inRange := Instant.isInRange_add_iff checked.expiration_pos
  refine ⟨settings, given, checked, ?spans, ?header, inRange, ?works⟩
  case spans => simp [Startup.policy_eq_ok_iff checked]
  case header => rw [GatewaySettings.exists_ofHeader_iff, named]
  case works =>
    intro lifetimeShort leewayShort headerShort σ _ host
    have expirationShort := Int.le_trans lifetimeShort Authority.maxLifetime_le
    have policy := (Startup.policy_eq_ok_iff checked).mpr ⟨⟨expirationShort, leewayShort⟩, rfl⟩
    have started := Startup.blameless_start checked policy (named.mpr headerShort) host
    unfold Settings.WorksOn
    split at started
    · rename_i result ended
      rw [ended]
      intro now timely tokenId tenant deviceId
      apply Authority.mint_of_isInRange
      rw [started]
      exact inRange.mpr lifetimeShort now timely
    · rename_i fault ended
      rw [ended]
      exact started

end Config

namespace Sample

open Config

/-- A configuration that says how long tokens hold and which header names the tenant. -/
def configTree (lifetime leeway : Int) (header : String) : Json.Value :=
  .object
    [ ("jwt", .object
        [ ("expirationSecs", .number (.integer lifetime)),
          ("leewaySecs", .number (.integer leeway)),
          ("privateKeyPath", .text "server_private.pem"),
          ("publicKeyPath", .text "server_public.pem") ]),
      ("storage", .object [("backend", .text "memory")]),
      ("tenancy", .object [("managementHeader", .text header)]) ]

/-- The configuration as it is read. -/
def configRead (lifetime leeway : Int) (header : String) : Config :=
  { Config.blank with
    storage := some { Storage.blank with backend := some .memory }
    tokens := some
      { privateKeyPath := some "server_private.pem"
        publicKeyPath := some "server_public.pem"
        issuer := none
        expirationSeconds := some lifetime
        leewaySeconds := some leeway }
    tenancy := some { Tenancy.blank with managementHeader := some header } }

variable {lifetime leeway : Int} {header : String}

theorem resolve_configTree (plain : '$' ∉ header.toList) (env : Environment) :
    Substitution.resolve env (configTree lifetime leeway header) =
      .ok (configTree lifetime leeway header) := by
  simp [Substitution.resolve, configTree, Substitution.resolveAt, Substitution.resolveFields,
    Reference.expand_of_plain, plain, bind, Except.bind, pure, Except.pure, Except.map,
    Except.mapError]

theorem ofTree_configTree (lifetimeFits : minSigned ≤ lifetime ∧ lifetime ≤ maxSigned)
    (leewayFits : minSigned ≤ leeway ∧ leeway ≤ maxSigned) :
    ofTree (configTree lifetime leeway header) = .ok (configRead lifetime leeway header) := by
  simp [ofTree, record, configTree, Json.ShapeRecord.shape, Json.ShapeRecord.readField,
    Tokens.record, Tenancy.record, Storage.record, field, bind, Except.bind, pure, Except.pure,
    Except.map, Json.Shape.optional, seconds, Json.Shape.text, Json.Shape.integer, lifetimeFits,
    leewayFits, Json.Shape.choice, Json.Shape.alternative, storeKinds, configRead, Config.blank,
    Storage.blank, Tokens.blank, Tenancy.blank]

/-- The configuration is valid, and its settings are what it says. -/
theorem exists_configured (lifetime leeway : Int) (header : String)
    (lifetimeFits : 0 < lifetime ∧ lifetime ≤ maxSigned)
    (leewayFits : 0 ≤ leeway ∧ leeway ≤ maxSigned) (named : isManagementHeader header = true) :
    ∃ config settings, prepare [] (configTree lifetime leeway header) = .ok config ∧
      config.isValid = true ∧ Settings.ofConfig config = .ok settings ∧
      settings.expirationSeconds = lifetime ∧ settings.leewaySeconds = leeway ∧
      settings.managementHeader = header := by
  have least : minSigned ≤ 0 := by decide
  have plain : '$' ∉ header.toList := by
    intro dollar
    rw [isManagementHeader, Bool.and_eq_true, List.all_eq_true] at named
    have allowed := named.2 '$' dollar
    revert allowed
    decide
  have read : ofTree (configTree lifetime leeway header) =
      .ok (configRead lifetime leeway header) :=
    ofTree_configTree ⟨by omega, lifetimeFits.2⟩ ⟨by omega, leewayFits.2⟩
  have prepared : prepare [] (configTree lifetime leeway header) =
      .ok (configRead lifetime leeway header).withDefaults := by
    rw [prepare, resolve_configTree plain]
    simp only [Except.mapError, bind, Except.bind, read]
    rfl
  have server : Harmless Server.blank.withDefaults.findings := by
    unfold Harmless
    decide
  have storage : Harmless { Storage.blank with backend := some .memory }.withDefaults.findings := by
    unfold Harmless
    decide
  have pagination : Harmless Pagination.blank.withDefaults.findings := by
    unfold Harmless
    decide
  have tokens : Harmless ((configRead lifetime leeway header).withDefaults.tokens.getD
      .blank).findings := by
    have issuer : isBlank (filled Default.issuer none) = false := by decide
    refine Tokens.harmless_iff.mpr ⟨rfl, rfl, issuer, ?_, ?_⟩
    · rintro _ ⟨⟩
      exact lifetimeFits.1
    · rintro _ ⟨⟩
      exact leewayFits.1
  have tenancy : Harmless { Tenancy.blank with
      managementHeader := some header }.withDefaults.findings := by
    refine Tenancy.harmless_iff.mpr ⟨TenancyMode.noConfusion, ?_⟩
    rintro _ ⟨⟩
    exact named
  refine ⟨_, _, prepared, isValid_iff.mpr ?_, rfl, rfl, rfl, rfl⟩
  simp only [findings, harmless_append]
  exact ⟨⟨⟨⟨server, storage⟩, tokens⟩, tenancy⟩, pagination⟩

/-- With a lifetime of a week and the usual header everything can be had on every host. -/
theorem wiring_of_usual :
    ∃ config settings, prepare [] (configTree 604800 60 "x-devauth-tenant") = .ok config ∧
      config.isValid = true ∧ Settings.ofConfig config = .ok settings ∧
      (∃ policy, Startup.policy settings = .ok policy) ∧
      (∃ gateway, GatewaySettings.ofHeader settings.managementHeader settings.defaultPerPage
        settings.maxPerPage = .ok gateway) ∧
      ∀ host : Snapshot, settings.WorksOn host := by
  rcases exists_configured 604800 60 "x-devauth-tenant" (by decide) (by decide)
    (by decide) with ⟨config, settings, prepared, valid, given, lifetimeEq, leewayEq, headerEq⟩
  rcases wiring_of_valid prepared valid with ⟨found, foundEq, -, spans, named, -, works⟩
  cases given.symm.trans foundEq
  rw [lifetimeEq, leewayEq] at spans
  rw [lifetimeEq, leewayEq, headerEq] at works
  have short : "x-devauth-tenant".length ≤ GatewaySettings.maxHeaderName := by decide
  refine ⟨config, settings, prepared, valid, given, spans.mpr (by decide), ?_, ?_⟩
  · exact named.mpr (headerEq ▸ short)
  · exact fun host => works (by decide) (by decide) short Snapshot host

/-- A name of one letter, over and over. -/
def letters (n : Nat) : String :=
  String.ofList (List.replicate n 'a')

theorem length_letters (n : Nat) : (letters n).length = n := by
  simp [letters]

theorem isManagementHeader_letters (n : Nat) : isManagementHeader (letters (n + 1)) = true := by
  have nonempty : letters (n + 1) ≠ "" := by
    intro empty
    have length := congrArg String.length empty
    rw [length_letters] at length
    cases length
  have chars : ∀ c ∈ (letters (n + 1)).toList, isHeaderChar c = true := by
    intro c member
    rw [letters, String.toList_ofList] at member
    rw [List.eq_of_mem_replicate member]
    decide
  rw [isManagementHeader, Bool.and_eq_true, List.all_eq_true]
  exact ⟨by simpa using nonempty, chars⟩

/-- A header name is refused from the first letter too many on. -/
theorem ofHeader_letters {n : Nat} (long : GatewaySettings.maxHeaderName < n)
    (defaultPerPage maxPerPage : Nat) :
    GatewaySettings.ofHeader (letters n) defaultPerPage maxPerPage = .error ⟨letters n⟩ := by
  rw [GatewaySettings.ofHeader, if_neg]
  simp [GatewaySettings.isHeaderName, length_letters, long]

/-- Configurations without errors whose header cannot be one, whose lifetime is no span, and whose
lifetime ends out of range for a token that is minted in the year 9999. -/
theorem not_wired :
    (∃ config settings, prepare [] (configTree 604800 0 (letters 65536)) = .ok config ∧
      config.isValid = true ∧ Settings.ofConfig config = .ok settings ∧
      GatewaySettings.ofHeader settings.managementHeader settings.defaultPerPage
        settings.maxPerPage = .error ⟨letters 65536⟩) ∧
    (∃ config settings, prepare [] (configTree maxSigned 0 "x-devauth-tenant") = .ok config ∧
      config.isValid = true ∧ Settings.ofConfig config = .ok settings ∧
      Startup.policy settings = .error (.spanTooLong maxSigned)) ∧
    (∃ config settings, prepare [] (configTree 7956864576001 0 "x-devauth-tenant") = .ok config ∧
      config.isValid = true ∧ Settings.ofConfig config = .ok settings ∧
      ∃ now : Instant, now.isTimely = true ∧
        (now.add (.ofSeconds settings.expirationSeconds)).isInRange = false) := by
  refine ⟨?header, ?span, ?range⟩
  case header =>
    rcases exists_configured 604800 0 (letters 65536) (by decide) (by decide)
      (isManagementHeader_letters 65535) with
      ⟨config, settings, prepared, valid, given, -, -, headerEq⟩
    refine ⟨config, settings, prepared, valid, given, ?_⟩
    rw [headerEq]
    exact ofHeader_letters (by decide) _ _
  case span =>
    rcases exists_configured maxSigned 0 "x-devauth-tenant" (by decide) (by decide)
      (by decide) with ⟨config, settings, prepared, valid, given, lifetimeEq, -, -⟩
    refine ⟨config, settings, prepared, valid, given, ?_⟩
    rw [Startup.policy, lifetimeEq]
    rfl
  case range =>
    rcases exists_configured 7956864576001 0 "x-devauth-tenant" (by decide) (by decide)
      (by decide) with ⟨config, settings, prepared, valid, given, lifetimeEq, -, -⟩
    refine ⟨config, settings, prepared, valid, given, .ofSeconds 253402300799, by decide, ?_⟩
    rw [lifetimeEq]
    decide

end Sample

end DeviceAdmission
