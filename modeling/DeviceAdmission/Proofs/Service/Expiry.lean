import DeviceAdmission.Proofs.Service.Success
import DeviceAdmission.Proofs.Service.Verification
import DeviceAdmission.Proofs.Store.Insertions

/-!
# When a token expires

A token expires at a whole second. Verification compares the seconds of its clock with the expiry
that the token says and the whole seconds of the leeway; the store compares its clock, to the
nanosecond, with the expiry in the record. Since an instant is not before a whole second just when
the second that it lies in is not, the two agree at every instant, but for the leeway.
-/

namespace DeviceAdmission

open TokenEntry

/-! ## Whole seconds -/

/-- An instant rounded down to a whole second. -/
def Instant.roundedDown (t : Instant) : Instant :=
  ⟨t.nanos - t.nanos % nanosPerSecond⟩

/-- A span rounded down to whole seconds. -/
def Span.roundedDown (s : Span) : Span :=
  ⟨s.nanos - s.nanos % nanosPerSecond⟩

theorem Instant.ofSeconds_seconds (t : Instant) : ofSeconds t.seconds = t.roundedDown := by
  simp only [ofSeconds, seconds, roundedDown, nanosPerSecond]
  congr 1
  omega

/-- The whole seconds of a span that is not negative are rounded down. -/
theorem Span.ofSeconds_wholeSeconds {s : Span} (nonneg : 0 ≤ s.nanos) :
    ofSeconds s.wholeSeconds = s.roundedDown := by
  simp only [ofSeconds, wholeSeconds, roundedDown, Int.tdiv_eq_ediv_of_nonneg nonneg,
    nanosPerSecond]
  congr 1
  omega

/-- Whole seconds are added as instants are. -/
theorem Instant.add_ofSeconds (i j : Int) :
    (ofSeconds i).add (.ofSeconds j) = ofSeconds (i + j) := by
  simp only [add, ofSeconds, Span.ofSeconds, Int.add_mul]

/-- What lies between 1970 and an instant in range is in range. -/
theorem Instant.isInRange_of_le {t u : Instant} (since : 0 ≤ t.nanos) (le : t ≤ u)
    (inRange : u.isInRange = true) : t.isInRange = true := by
  have first : firstSecond ≤ 0 := by decide
  have least : 0 ≤ t.seconds := Int.ediv_nonneg since (by decide)
  simp only [isInRange, Bool.and_eq_true, decide_eq_true_eq] at inRange ⊢
  exact ⟨Int.le_trans first least, Int.le_trans (seconds_le le) inRange.2⟩

/-- A token that lasts a second or longer has not expired in the second of its issue. -/
theorem Instant.lt_roundedDown {t : Instant} {s : Span} (lasts : nanosPerSecond ≤ s.nanos) :
    t < (t.add s).roundedDown := by
  simp only [lt_iff, roundedDown, add, nanosPerSecond] at lasts ⊢
  omega

/-! ## Failures of verification -/

namespace Action

variable {α β : Type} {e : Failure}

/-- Whether an action never ends with the failure, in whatever world. -/
def Avoids (x : Action α) (e : Failure) : Prop :=
  ∀ w, (x.run w).1 ≠ .error e

theorem avoids_pure (a : α) : (pure a : Action α).Avoids e :=
  fun _ => nofun

theorem avoids_fail {f : Failure} (other : f ≠ e) : (fail f : Action α).Avoids e :=
  fun _ failed => other (Except.error.inj failed)

/-- A call fails with nothing but a failure of the store. -/
theorem avoids_call (limit : Nat) (c : StoreCall α) (notOfCall : e.call? = none) :
    (call limit c).Avoids e := by
  intro w failed
  have named := call?_of_call failed
  rw [notOfCall] at named
  cases named

theorem Avoids.bind {x : Action α} {f : α → Action β} (first : x.Avoids e)
    (second : ∀ a, (f a).Avoids e) : (x >>= f).Avoids e := by
  intro w
  rw [run_bind]
  cases ran : x.run w with
  | mk result w' =>
      cases result with
      | ok a => exact second a w'
      | error other =>
          intro failed
          apply first w
          rw [ran]
          exact congrArg Except.error (Except.error.inj failed)

end Action

namespace Authority

variable {a : Authority} {raw : String} {t : Token} {w : World}

/-- Verification says that a token has expired just where its claims have. -/
theorem verify_eq_tokenExpired_iff : ((a.verify raw).run w).1 = .error .tokenExpired ↔
    ∃ claims, TokenClaims.decode? a.keys.verifies a.policy.issuer raw = some claims ∧
      a.hasExpired claims w.now = true := by
  unfold verify
  cases decoded : TokenClaims.decode? a.keys.verifies a.policy.issuer raw with
  | none => simp
  | some claims =>
      rw [Action.run_bind_ok (Action.run_now w)]
      by_cases expired : a.hasExpired claims w.now = true
      · simp [expired]
      · have none : ¬∃ c, some claims = some c ∧ a.hasExpired c w.now = true := by
          rintro ⟨c, same, ended⟩
          exact expired (Option.some.inj same ▸ ended)
        rw [if_neg expired]
        -- What follows the look at the clock fails in other ways.
        refine iff_of_false
          (Action.Avoids.bind (Action.avoids_call _ _ rfl) (fun found => ?_) w) none
        cases found with
        | none => exact Action.avoids_fail nofun
        | some token =>
            dsimp only
            split
            · exact Action.avoids_fail nofun
            · refine Action.Avoids.bind (Action.avoids_call _ _ rfl) fun device? => ?_
              cases device? with
              | none => exact Action.avoids_fail nofun
              | some device =>
                  dsimp only
                  split
                  · exact Action.avoids_pure _
                  · exact Action.avoids_fail nofun

/-- A minted token is found expired as soon as its expiry and the leeway in whole seconds are
over. -/
theorem Minted.verify_eq_tokenExpired_iff (minted : a.Minted t) (matching : a.keys.Match)
    (least : 0 ≤ t.expiresAt.seconds) (lenient : 0 ≤ a.policy.leeway.nanos)
    (inRange : w.now.isInRange = true) :
    ((a.verify t.raw).run w).1 = .error .tokenExpired ↔
      t.expiresAt.add a.policy.leeway.roundedDown ≤ w.now := by
  obtain ⟨claims, decoded, -, -, -, expiryEq⟩ := minted.decode? matching least
  have expiresEq := (minted.eq_of_decode? decoded).2.2.2
  calc
    ((a.verify t.raw).run w).1 = .error .tokenExpired
    _ ↔ a.hasExpired claims w.now = true := by
      rw [Authority.verify_eq_tokenExpired_iff, decoded]
      simp only [Option.some.injEq, exists_eq_left']
    _ ↔ Instant.ofSeconds (claims.expiry + a.policy.leeway.wholeSeconds) ≤ w.now := by
      rw [hasExpired_iff inRange, Instant.le_seconds_iff]
    _ ↔ t.expiresAt.add a.policy.leeway.roundedDown ≤ w.now := by
      rw [← Instant.add_ofSeconds, expiresEq, Span.ofSeconds_wholeSeconds lenient]

end Authority

/-! ## Main statement -/

/-- Whether an insertion of the candidate over the store meets the token, as the one of its device
that is not revoked. -/
structure Store.Holds (s : Store) (t candidate : Token) : Prop where
  sound : s.Sound
  held : t.entry ∈ s.tokens
  tenant : candidate.tenant = t.tenant
  deviceId : candidate.deviceId = t.deviceId
  other : candidate ≠ t

/-- Such a token is given just as long as it has not expired. -/
theorem Store.Holds.reused_iff {s : Store} {t candidate : Token} {now : Instant}
    (holds : s.Holds t candidate) (unrevoked : t.revoked = false) :
    (s.run (.insertOrGetLive candidate now)).1 = .ok t ↔ now < t.expiresAt := by
  have outstanding : t.isOutstanding candidate.tenant candidate.deviceId = true := by
    simp [Token.isOutstanding, unrevoked, holds.tenant, holds.deviceId]
  exact insertOrGetLive_eq_ok_iff holds.sound holds.held outstanding holds.other

namespace Authority

variable {a : Authority} {t : Token} {issued : Instant} {tokenId deviceId : String}
variable {tenant : Tenant}

/-- A token that lasts a second or longer is not expired when it is given by an issuance, whether it
was minted then or before. -/
theorem lt_expiresAt_of_issue {w : World} {newId : String}
    (lasts : nanosPerSecond ≤ a.policy.expiration.nanos)
    (given : ((a.issue newId tenant deviceId).run w).1 = .ok t) : w.now < t.expiresAt := by
  obtain ⟨candidate, s, s', minted, -, answer, -⟩ := issue_eq_ok (Action.run_eq_of_fst given)
  rcases Store.eq_or_live_of_insertOrGetLive answer with rfl | live
  · rw [(minting minted).expiresAt, Instant.ofSeconds_seconds]
    exact Instant.lt_roundedDown lasts
  · exact Int.not_le.mp (of_decide_eq_false live)

/-- The expiry of every token that is minted from 1970 on, with an expiration and a leeway that are
not negative and with keys that match: it is the end of the expiration, rounded down to a whole
second. In whatever world it is verified, it is found expired from then on, the leeway in whole
seconds added; and a store that holds it gives it again until then. So with a leeway of less than a
second the two judge alike at every instant, and with an expiration of at least a second neither
finds a token expired at the time at which it is issued, for the first time or again. -/
theorem expiry_agrees (matching : a.keys.Match) (lasting : 0 ≤ a.policy.expiration.nanos)
    (lenient : 0 ≤ a.policy.leeway.nanos) (since : 0 ≤ issued.nanos)
    (minted : a.mint tokenId tenant deviceId issued = .ok t) :
    t.expiresAt = (issued.add a.policy.expiration).roundedDown ∧
      (∀ w : World, w.now.isInRange = true →
        (((a.verify t.raw).run w).1 = .error .tokenExpired ↔
          t.expiresAt.add a.policy.leeway.roundedDown ≤ w.now)) ∧
      (∀ (s : Store) (candidate : Token) (now : Instant), s.Holds t candidate →
        ((s.run (.insertOrGetLive candidate now)).1 ≠ .ok t ↔ t.expiresAt ≤ now)) ∧
      (a.policy.leeway.nanos < nanosPerSecond →
        ∀ (w : World) (s : Store) (candidate : Token), w.now.isInRange = true →
          s.Holds t candidate → (((a.verify t.raw).run w).1 = .error .tokenExpired ↔
            (s.run (.insertOrGetLive candidate w.now)).1 ≠ .ok t)) ∧
      (nanosPerSecond ≤ a.policy.expiration.nanos →
        issued < t.expiresAt ∧
          ∀ newId tenant deviceId (w w' : World), w.now.isInRange = true → w'.now = w.now →
            ((a.issue newId tenant deviceId).run w).1 = .ok t →
              w.now < t.expiresAt ∧ ((a.verify t.raw).run w').1 ≠ .error .tokenExpired) := by
  have made := minting minted
  have expiresAt := made.expiresAt.trans (Instant.ofSeconds_seconds _)
  have least : 0 ≤ t.expiresAt.seconds := by
    rw [made.expiresAt, Instant.seconds_ofSeconds]
    simp only [Instant.seconds, Instant.add, nanosPerSecond]
    omega
  have inRange : issued.isInRange = true :=
    Instant.isInRange_of_le since (Int.le_add_of_nonneg_right lasting) made.inRange
  have own : a.Minted t := (minted_of_mints inRange ⟨tenant, deviceId, minted⟩).2
  have verified : ∀ w : World, w.now.isInRange = true →
      (((a.verify t.raw).run w).1 = .error .tokenExpired ↔
        t.expiresAt.add a.policy.leeway.roundedDown ≤ w.now) := fun w reading =>
    own.verify_eq_tokenExpired_iff matching least lenient reading
  have reused : ∀ (s : Store) (candidate : Token) (now : Instant), s.Holds t candidate →
      ((s.run (.insertOrGetLive candidate now)).1 ≠ .ok t ↔ t.expiresAt ≤ now) := by
    intro s candidate now holds
    rw [ne_eq, holds.reused_iff made.unrevoked]
    exact Int.not_lt
  refine ⟨expiresAt, verified, reused, ?_, ?_⟩
  · intro short w s candidate reading holds
    rw [verified w reading, reused s candidate w.now holds]
    simp only [Instant.le_iff, Instant.add, Span.roundedDown, nanosPerSecond] at short ⊢
    omega
  · intro lasts
    refine ⟨expiresAt ▸ Instant.lt_roundedDown lasts, ?_⟩
    intro newId tenant deviceId w w' reading sameTime given
    have before := lt_expiresAt_of_issue lasts given
    refine ⟨before, fun expired => ?_⟩
    rw [verified w' (sameTime ▸ reading), sameTime] at expired
    simp only [Instant.le_iff, Instant.lt_iff, Instant.add, Span.roundedDown, nanosPerSecond]
      at before expired
    omega

end Authority

namespace Sample

/-- A nanosecond before its expiry the token of the sample is given again and is not found expired,
and at its expiry it is. -/
theorem expiry_agrees_token :
    let again := { token with id := "t3" }
    ((issued .memory).store.run (.insertOrGetLive again ⟨161999999999⟩)).1 = .ok token ∧
      ((issued .memory).store.run (.insertOrGetLive again ⟨162000000000⟩)).1 ≠ .ok token ∧
      ((admission.authority.verify token.raw).run
        (World.quiet (issued .memory).store ⟨162000000000⟩ 0)).1 = .error .tokenExpired := by
  have minted : admission.authority.mint "t1" .default "d" (.ofSeconds 102) = .ok token := by
    decide +kernel
  obtain ⟨-, verified, reused, -, -⟩ := admission.authority.expiry_agrees keys_match (by decide)
    (by decide) (by decide) minted
  have stored : ∃ e ∈ (issued .memory).store.tokens, e.read = .ok token := by decide +kernel
  obtain ⟨e, member, read⟩ := stored
  have sound := ((reached_issued .memory).kept (by decide +kernel)).sound
  have holds : (issued .memory).store.Holds token { token with id := "t3" } :=
    ⟨sound, entry_of_read read ▸ member, rfl, rfl, by decide⟩
  refine ⟨?_, (reused _ _ _ holds).mpr (by decide), (verified _ (by decide)).mpr (by decide)⟩
  have notOver := mt (reused _ _ ⟨161999999999⟩ holds).mp (by decide)
  exact not_ne_iff.mp notOver

end Sample

end DeviceAdmission
