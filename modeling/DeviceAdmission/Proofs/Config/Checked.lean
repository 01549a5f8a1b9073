import DeviceAdmission.Proofs.Config.Soundness

/-!
# What a checked configuration promises

The lifetime and the leeway of a configuration that was prepared fit the words that they are read
into, whatever tree and environment it was prepared from. Where nothing in it is an error, these
bounds and the promises of a valid report are what is known of its settings when the service is put
together.
-/

namespace DeviceAdmission

/-! ## Reading records -/

namespace Json

variable {σ α : Type}

namespace ShapeRecord

variable {r : ShapeRecord σ} {P : σ → Prop} {s : σ}

/-- What the reading of every field keeps is kept by the entries of an object. -/
theorem holds_of_foldlM
    (kept : ∀ f ∈ r.fields, ∀ sofar v next, P sofar → f.read sofar v = .ok next → P next)
    {entries : Fields} {sofar : σ} (holds : P sofar)
    (read : entries.foldlM r.readField sofar = .ok s) : P s := by
  induction entries generalizing sofar with
  | nil =>
      cases read
      exact holds
  | cons entry entries ih =>
      rw [List.foldlM_cons, bind_eq_ok_iff] at read
      rcases read with ⟨next, first, rest⟩
      refine ih ?_ rest
      unfold readField at first
      split at first
      · rename_i f found
        exact kept f (List.mem_of_find?_eq_some found) sofar entry.2 next holds first
      · cases first
        exact holds

/-- What the reading of every field keeps is kept by the items of a list. -/
theorem holds_of_readItems {fields : List (ShapeField σ)}
    (kept : ∀ f ∈ fields, ∀ sofar v next, P sofar → f.read sofar v = .ok next → P next)
    {items : List Value} {sofar : σ} (holds : P sofar)
    (read : readItems fields items sofar = .ok s) : P s := by
  induction fields generalizing items sofar with
  | nil =>
      cases read
      exact holds
  | cons f fields ih =>
      cases items with
      | nil =>
          cases read
          exact holds
      | cons item items =>
          rw [readItems, bind_eq_ok_iff] at read
          rcases read with ⟨next, first, rest⟩
          have holdsNext := kept f (.head _) sofar item next holds first
          exact ih (fun g member => kept g (.tail _ member)) holdsNext rest

/-- What holds of the blank record and is kept by every field holds of every record that is read. -/
theorem holds_of_shape (blank : P r.blank)
    (kept : ∀ f ∈ r.fields, ∀ sofar v next, P sofar → f.read sofar v = .ok next → P next)
    {v : Value} (read : r.shape v = .ok s) : P s := by
  cases v with
  | object entries => exact holds_of_foldlM kept blank read
  | list items =>
      rw [shape, bind_eq_ok_iff] at read
      rcases read with ⟨next, items, fits⟩
      split at fits
      · cases fits
        exact holds_of_readItems kept blank items
      · cases fits
  | null => cases read
  | bool b => cases read
  | number n => cases read
  | text t => cases read

end ShapeRecord

/-- A value that is read as an optional one has what every value of the shape has. -/
theorem Shape.holds_of_optional {shape : Shape α} {P : α → Prop}
    (each : ∀ v a, shape v = .ok a → P a) {v : Value} {read : Option α}
    (done : Shape.optional shape v = .ok read) : ∀ a ∈ read, P a := by
  intro a given
  unfold Shape.optional at done
  split at done
  · cases done
    cases given
  · cases first : shape v with
    | error problem =>
        rw [first] at done
        cases done
    | ok b =>
        rw [first] at done
        cases done
        cases given
        exact each v a first

/-- An integer that is read lies between its bounds. -/
theorem Shape.integer_bounds {name : String} {low high i : Int} {v : Value}
    (read : Shape.integer name low high v = .ok i) : low ≤ i ∧ i ≤ high := by
  unfold Shape.integer at read
  split at read
  · split at read
    · rename_i bounds
      cases read
      exact bounds
    · cases read
  · cases read

end Json

namespace Config

open Json (Shape Value)

variable {env : Environment} {tree : Value} {c config : Config}

/-- A field is read by reading its value and setting it. -/
theorem field_read_eq_ok {σ α : Type} {key : String} {shape : Shape α} {set : σ → Option α → σ}
    {sofar next : σ} {v : Value} :
    (field key shape set).read sofar v = .ok next ↔
      ∃ read, Shape.optional shape v = .ok read ∧ set sofar read = next := by
  simp only [field]
  cases Shape.optional shape v with
  | error problem => simp [Except.map]
  | ok read => simp [Except.map]

/-- The lifetime and the leeway of tokens are numbers of 64 bits of which one is the sign. -/
structure Tokens.Fits (t : Tokens) : Prop where
  expiration : ∀ s ∈ t.expirationSeconds, minSigned ≤ s ∧ s ≤ maxSigned
  leeway : ∀ s ∈ t.leewaySeconds, minSigned ≤ s ∧ s ≤ maxSigned

theorem Tokens.fits_blank : Tokens.blank.Fits := by
  constructor <;> simp [Tokens.blank]

theorem Tokens.fits_of_shape {v : Value} {t : Tokens} (read : Tokens.record.shape v = .ok t) :
    t.Fits := by
  refine Json.ShapeRecord.holds_of_shape (P := Tokens.Fits) Tokens.fits_blank ?_ read
  intro f member sofar v next fits done
  have bounds {read : Option Int} (done : Shape.optional seconds v = .ok read) :
      ∀ s ∈ read, minSigned ≤ s ∧ s ≤ maxSigned :=
    Shape.holds_of_optional (fun _ _ => Shape.integer_bounds) done
  simp only [Tokens.record, List.mem_cons, List.not_mem_nil, or_false] at member
  rcases member with rfl | rfl | rfl | rfl | rfl <;>
    rcases field_read_eq_ok.mp done with ⟨read, value, rfl⟩
  · exact ⟨fits.expiration, fits.leeway⟩
  · exact ⟨fits.expiration, fits.leeway⟩
  · exact ⟨fits.expiration, fits.leeway⟩
  · exact ⟨bounds value, fits.leeway⟩
  · exact ⟨fits.expiration, bounds value⟩

theorem fits_of_ofTree (read : ofTree tree = .ok c) : ∀ t ∈ c.tokens, t.Fits := by
  refine Json.ShapeRecord.holds_of_shape (P := fun c : Config => ∀ t ∈ c.tokens, t.Fits)
    (by simp [record, blank]) ?_ read
  intro f member sofar v next fits done
  simp only [record, List.mem_cons, List.not_mem_nil, or_false] at member
  rcases member with rfl | rfl | rfl | rfl | rfl | rfl | rfl <;>
    rcases field_read_eq_ok.mp done with ⟨read, value, rfl⟩
  · exact fits
  · exact fits
  · exact Shape.holds_of_optional (fun _ _ => Tokens.fits_of_shape) value
  · exact fits
  · exact fits
  · exact fits
  · exact fits

/-! ## Preparing -/

theorem Tokens.Fits.withDefaults {t : Tokens} (fits : t.Fits) : t.withDefaults.Fits := by
  have filledFits {d : Int} {a : Option Int} (ofDefault : minSigned ≤ d ∧ d ≤ maxSigned)
      (given : ∀ s ∈ a, minSigned ≤ s ∧ s ≤ maxSigned) :
      ∀ s ∈ filled d a, minSigned ≤ s ∧ s ≤ maxSigned := by
    cases a with
    | none =>
        rintro s ⟨⟩
        exact ofDefault
    | some s => exact given
  exact ⟨filledFits (by decide) fits.expiration, filledFits (by decide) fits.leeway⟩

/-- The overrides concern the server and the store. -/
theorem tokens_withOverrides (env : Environment) (c : Config) :
    (c.withOverrides env).tokens = c.tokens := by
  unfold withOverrides
  cases override? env databaseVariable <;> cases portOverride? env <;>
    cases override? env bindVariable <;> rfl

/-- What a prepared configuration says of tokens fits, whether the tree says it or a default. -/
theorem fits_of_prepare (prepared : prepare env tree = .ok config) :
    ∀ t ∈ config.tokens, t.Fits := by
  unfold prepare at prepared
  rcases bind_eq_ok_iff.mp prepared with ⟨resolved, -, prepared⟩
  rcases bind_eq_ok_iff.mp prepared with ⟨c, read, prepared⟩
  cases prepared
  rw [tokens_withOverrides]
  rintro _ ⟨⟩
  apply Tokens.Fits.withDefaults
  cases given : c.tokens with
  | none => exact Tokens.fits_blank
  | some t => exact fits_of_ofTree (eq_ok_of_mapError read) t given

end Config

/-! ## Settings -/

/-- What the checks of a configuration say of its settings. -/
structure Settings.Checked (s : Settings) : Prop where
  expiration_pos : 0 < s.expirationSeconds
  expiration_le : s.expirationSeconds ≤ maxSigned
  leeway_nonneg : 0 ≤ s.leewaySeconds
  leeway_le : s.leewaySeconds ≤ maxSigned
  header : Config.isManagementHeader s.managementHeader = true
  verifyKey : s.tenancyMode = .signed → s.verifyKeyPath ≠ none

namespace Config

variable {env : Environment} {tree : Json.Value} {config : Config}

/-- A prepared configuration without errors has settings, and they are checked. -/
theorem exists_settings (prepared : prepare env tree = .ok config)
    (valid : config.isValid = true) :
    ∃ settings, Settings.ofConfig config = .ok settings ∧ settings.Checked := by
  have filled := withDefaults_of_prepare prepared
  rcases exists_sound filled valid with ⟨settings, given, sound⟩
  rcases Settings.ofConfig_eq_ok_iff.mp given with ⟨path, said, -⟩
  rw [filled] at said
  have fits := fits_of_prepare prepared _ (congrArg Config.tokens said)
  refine ⟨settings, given, ?_⟩
  constructor
  case expiration_pos => exact sound.expirationSeconds
  case expiration_le => exact (fits.expiration _ rfl).2
  case leeway_nonneg => exact sound.leewaySeconds
  case leeway_le => exact (fits.leeway _ rfl).2
  case header => exact isManagementHeader_iff.mpr ⟨sound.header_nonempty, sound.header_chars⟩
  case verifyKey =>
    intro isSigned
    rcases sound.verifyKeyPath_of_signed isSigned with ⟨text, set, -⟩
    rw [set]
    exact Option.some_ne_none text

end Config

end DeviceAdmission
