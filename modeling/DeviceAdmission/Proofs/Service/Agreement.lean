import DeviceAdmission.Proofs.Service.History

/-!
# Verification agrees with history

Over a run that nobody interferes with, what verification says of a token that was handed out is
decided by the events since and by the clock. The invariant is that the store has exactly the tokens
that were handed out, each with the mark that the events since give. The main statement is at the
end.
-/

namespace DeviceAdmission

open TokenEntry

@[simp]
theorem Token.after_nil (t : Token) : t.after [] = t := by
  simp only [Token.after, List.any_nil, Bool.or_false]

/-- Of the tokens that were ended or not, one with force was not. -/
theorem Token.eq_of_after {t u : Token} {later : List Event} (same : t = u.after later)
    (unrevoked : t.revoked = false) : t = u := by
  have both : (u.revoked || later.any fun e => e.ends u) = false := by
    rw [same] at unrevoked
    exact unrevoked
  have first : u.revoked = false := (Bool.or_eq_false_iff.mp both).1
  rw [same, Token.after, both, ← first]

namespace Run

/-- How far a token has gone: it is verified, then it is invalid, and then it has expired. -/
def stage : Except Failure VerifiedToken → Nat
  | .ok _ => 0
  | .error .tokenInvalid => 1
  | .error _ => 2

/-- What verification at a time says of a raw text over the store of a run. -/
def verdict (r : Run) (s : Admission) (raw : String) (now : Instant) (wallSeconds : Int) :
    Except Failure VerifiedToken :=
  ((s.authority.verify raw).run (World.quiet r.store now wallSeconds)).1

/-- The store has exactly the tokens that were handed out, as the events since have left them. -/
structure Agrees (r : Run) (s : Admission) : Prop where
  orderly : r.store.Orderly (deviceIds r.past)
  kept : ∀ later e earlier t, r.past = later ++ e :: earlier → e.HandsOut t →
    (t.after later).entry ∈ r.store.tokens
  origin : ∀ f ∈ r.store.tokens, ∃ later e earlier t, r.past = later ++ e :: earlier ∧
    e.HandsOut t ∧ f = (t.after later).entry
  handed : ∀ e ∈ r.past, ∀ t, e.HandsOut t → t.revoked = false ∧ s.authority.Minted t

variable {s : Admission} {kind : StoreKind} {r : Run} {t : Token} {e : Event}
variable {earlier later : List Event} {now : Instant} {wall : Int}

theorem agrees_start (s : Admission) (kind : StoreKind) : Agrees ⟨.empty kind, []⟩ s := by
  constructor
  · exact Store.orderly_empty kind
  · intro later e earlier t past
    cases later <;> cases past
  · rw [Store.tokens_empty]
    rintro f ⟨⟩
  · rintro e ⟨⟩

/-- A token of the store with force was handed out as it is. -/
theorem Agrees.exists_handed (agrees : r.Agrees s) (member : t.entry ∈ r.store.tokens)
    (unrevoked : t.revoked = false) :
    ∃ later e earlier, r.past = later ++ e :: earlier ∧ e.HandsOut t ∧
      (later.any fun e => e.ends t) = false := by
  rcases agrees.origin t.entry member with ⟨later, e, earlier, u, past, handed, same⟩
  have equal := Token.eq_of_after (entry_injective same) unrevoked
  rw [← equal] at handed same
  refine ⟨later, e, earlier, past, handed, ?_⟩
  have marks : t.revoked = (t.revoked || later.any fun e => e.ends t) :=
    congrArg Token.revoked (entry_injective same)
  rw [unrevoked, Bool.false_or] at marks
  exact marks.symm

/-- The ids of a step are put before those of the past. -/
theorem deviceIds_cons (e : Event) (past : List Event) :
    deviceIds (e :: past) = e.step.operation.deviceId?.toList ++ deviceIds past := by
  simp only [deviceIds, List.filterMap_cons]
  cases e.step.operation.deviceId? with
  | none => rfl
  | some id => rfl

/-- A step that nobody interferes with keeps the agreement. -/
theorem Agrees.step (agrees : r.Agrees s) (kept : r.Kept s) (st : Step)
    (calm : ∀ e ∈ (r.next s st).past, e.Calm)
    (freshTokens : (tokenIds (r.next s st).past).Nodup)
    (freshDevices : (deviceIds (r.next s st).past).Nodup) : (r.next s st).Agrees s := by
  have own := calm _ List.mem_cons_self
  have freshDevice : ∀ id, st.operation.deviceId? = some id → id ∉ deviceIds r.past := by
    intro id given used
    rw [next, deviceIds_cons, given, Option.toList_some] at freshDevices
    exact (List.nodup_cons.mp freshDevices).1 used
  have freshToken : ∀ id, st.operation.tokenId? = some id →
      ∀ f ∈ r.store.tokens, f.id ≠ id := by
    intro id given
    rw [tokenIds_next, given, Option.toList_some] at freshTokens
    exact kept.id_ne (List.nodup_cons.mp freshTokens).1
  obtain ⟨reply, store, ends, left⟩ :=
    Admission.exists_ends_perform s agrees.orderly own.timely freshDevice freshToken
  have worldEq : st.world r.store = World.quiet r.store st.now st.wallSeconds := by
    have quiet : st.interference = fun _ _ => .none := own.quiet
    rw [Step.world, quiet]
    rfl
  rcases ends.run_quiet with ⟨replyEq, storeEq⟩
  have nextEq : r.next s st = ⟨store, ⟨st, reply⟩ :: r.past⟩ := by
    rw [next, worldEq, replyEq, storeEq]
  have replied : ((s.perform st.operation).run (st.world r.store)).1 = reply := by
    rw [worldEq, replyEq]
  rw [replied] at own
  rcases left own.expires with ⟨orderly, accounts⟩
  rw [nextEq]
  constructor
  · rw [deviceIds_cons]
    exact orderly
  · intro later e earlier t past handed
    cases later with
    | nil =>
        obtain ⟨rfl, rfl⟩ := List.cons.inj past
        rw [Token.after_nil]
        exact (accounts.handed t handed).1
    | cons latest later =>
        rcases List.cons.inj past with ⟨rfl, pastEq⟩
        rw [← Token.after_cons]
        exact accounts.kept _ (agrees.kept later e earlier t pastEq handed)
  · intro f member
    rcases accounts.origin f member with ⟨t, old, rfl⟩ | ⟨t, handed, rfl⟩
    · rcases agrees.origin t.entry old with ⟨later, e, earlier, u, past, handed, same⟩
      refine ⟨⟨st, reply⟩ :: later, e, earlier, u, ?_, handed, ?_⟩
      · rw [List.cons_append, ← past]
      · rw [entry_injective same, Token.after_cons]
    · exact ⟨[], ⟨st, reply⟩, r.past, t, rfl, handed, by rw [Token.after_nil]⟩
  · intro e member t handed
    rcases List.mem_cons.mp member with rfl | before
    · rcases accounts.handed t handed with ⟨-, unrevoked, old | minted⟩
      · obtain ⟨later, e, earlier, past, before, -⟩ := agrees.exists_handed old unrevoked
        exact agrees.handed e (mem_past past) t before
      · exact ⟨unrevoked, minted⟩
    · exact agrees.handed e before t handed

theorem Agrees.rearranged {store : Store} (agrees : r.Agrees s)
    (order : r.store.Rearranged store) : Agrees ⟨store, r.past⟩ s := by
  have perm := order.perm
  constructor
  · exact agrees.orderly.rearranged order
  · intro later e earlier t past handed
    exact perm.mem_iff.mp (agrees.kept later e earlier t past handed)
  · intro f member
    exact agrees.origin f (perm.mem_iff.mpr member)
  · exact agrees.handed

/-- Every run that nobody interferes with, with fresh ids, agrees with its past. -/
theorem Reached.agrees (reached : r.Reached s kind) (calm : ∀ e ∈ r.past, e.Calm)
    (freshTokens : (tokenIds r.past).Nodup) (freshDevices : (deviceIds r.past).Nodup) :
    r.Agrees s := by
  induction reached with
  | start => exact agrees_start s kind
  | @step r before st ih =>
      have earlierTokens : (tokenIds r.past).Nodup := by
        rw [tokenIds_next] at freshTokens
        exact freshTokens.of_append_right
      have earlierDevices : (deviceIds r.past).Nodup := by
        rw [next, deviceIds_cons] at freshDevices
        exact freshDevices.of_append_right
      have earlierCalm : ∀ e ∈ r.past, e.Calm := fun e member =>
        calm e (List.mem_cons_of_mem _ member)
      exact (ih earlierCalm earlierTokens earlierDevices).step (before.kept earlierTokens) st calm
        freshTokens freshDevices
  | rearranged before order ih => exact (ih calm freshTokens freshDevices).rearranged order

/-! ## Verdicts -/

/-- A token that was handed out gets the verdict on what the events since have left of it. -/
theorem Agrees.verdict_eq (agrees : r.Agrees s) (calm : ∀ e ∈ r.past, e.Calm)
    (matching : s.authority.keys.Match) (timely : now.isTimely = true)
    (past : r.past = later ++ e :: earlier) (handed : e.HandsOut t) :
    r.verdict s t.raw now wall = (t.after later).verdict s.authority.policy.leeway now := by
  have inPast := mem_past past
  rcases agrees.handed e inPast t handed with ⟨unrevoked, minted⟩
  have same : { t.after later with revoked := false } = t := by
    rw [Token.after, ← unrevoked]
  have ends : (s.authority.verify t.raw).Ends now wall r.store
      ((t.after later).verdict s.authority.policy.leeway now) r.store :=
    Authority.ends_verify agrees.orderly timely (agrees.kept later e earlier t past handed)
      (same.symm ▸ minted) matching ((calm e inPast).expires t handed)
  exact ends.run_quiet.1

theorem stage_verdict (t : Token) (leeway : Span) (now : Instant) :
    stage (t.verdict leeway now) =
      if t.expiresAt.seconds + leeway.wholeSeconds ≤ now.seconds then 2
      else if t.revoked then 1 else 0 := by
  unfold Token.verdict
  split
  · rfl
  · split
    · rfl
    · rfl

/-- What events have ended stays so when more events follow. -/
theorem stage_verdict_le {more : List Event} {leeway : Span} {now₀ : Instant}
    (forward : now₀ ≤ now) :
    stage ((t.after later).verdict leeway now₀) ≤
      stage ((t.after (more ++ later)).verdict leeway now) := by
  have seconds : now₀.seconds ≤ now.seconds := Instant.seconds_le forward
  have ended : (t.after later).revoked = true → (t.after (more ++ later)).revoked = true := by
    intro ended
    simp only [Token.after, List.any_append, Bool.or_eq_true] at ended ⊢
    rcases ended with before | since
    · exact .inl before
    · exact .inr (.inr since)
  have same : (t.after (more ++ later)).expiresAt = (t.after later).expiresAt := rfl
  rw [stage_verdict, stage_verdict, same]
  by_cases expired : (t.after later).expiresAt.seconds + leeway.wholeSeconds ≤ now.seconds
  · rw [if_pos expired]
    split
    · exact Nat.le_refl 2
    · split
      · exact Nat.le_succ 1
      · exact Nat.zero_le 2
  · have notBefore : ¬(t.after later).expiresAt.seconds + leeway.wholeSeconds ≤ now₀.seconds :=
      fun before => expired (Int.le_trans before seconds)
    rw [if_neg expired, if_neg notBefore]
    by_cases invalid : (t.after later).revoked = true
    · simp only [invalid, ended invalid, if_true, Nat.le_refl]
    · rw [if_neg invalid]
      exact Nat.zero_le _

/-! ## Main statement -/

/-- Verification agrees with history, in every run without interference whose ids are fresh and
whose keys match. A token that was handed out has expired exactly when the whole second of the clock
has got to its expiry and the leeway; else it is invalid exactly when an event since then ended it;
else it is verified as what it was issued as. So as the clock goes on a token is first verified,
then invalid, and then it has expired. And whatever is verified was handed out, is recorded with
force, and is of an accepted device. -/
theorem Reached.verdict_of_history (reached : r.Reached s kind) (calm : ∀ e ∈ r.past, e.Calm)
    (freshTokens : (tokenIds r.past).Nodup) (freshDevices : (deviceIds r.past).Nodup)
    (matching : s.authority.keys.Match) :
    (∀ later e earlier t, r.past = later ++ e :: earlier → e.HandsOut t →
        ∀ now wall, now.isTimely = true →
          r.verdict s t.raw now wall =
            if t.expiresAt.seconds + s.authority.policy.leeway.wholeSeconds ≤ now.seconds then
              .error .tokenExpired
            else if later.any fun e => e.ends t then .error .tokenInvalid
            else .ok ⟨t.id, t.deviceId, t.tenant, t.expiresAt⟩) ∧
      (∀ (r₀ : Run) (more : List Event), r₀.Reached s kind → r.past = more ++ r₀.past →
        ∀ e ∈ r₀.past, ∀ t, e.HandsOut t → ∀ now₀ now wall₀ wall, now₀.isTimely = true →
          now.isTimely = true → now₀ ≤ now →
            stage (r₀.verdict s t.raw now₀ wall₀) ≤ stage (r.verdict s t.raw now wall)) ∧
      ∀ raw now wall v, r.verdict s raw now wall = .ok v →
        ∃ later e earlier t, r.past = later ++ e :: earlier ∧ e.HandsOut t ∧
          (later.any fun e => e.ends t) = false ∧ t.entry ∈ r.store.tokens ∧ t.revoked = false ∧
          v = ⟨t.id, t.deviceId, t.tenant, t.expiresAt⟩ ∧
          r.store.HasAccepted v.tenant v.deviceId := by
  have agrees := reached.agrees calm freshTokens freshDevices
  constructor
  · intro later e earlier t past handed now wall timely
    rcases agrees.handed e (mem_past past) t handed with ⟨unrevoked, -⟩
    rw [agrees.verdict_eq calm matching timely past handed, Token.verdict, Token.after, unrevoked,
      Bool.false_or]
  constructor
  · intro r₀ more reached₀ pastEq e member t handed now₀ now wall₀ wall timely₀ timely forward
    have freshTokens₀ : (tokenIds r₀.past).Nodup := by
      rw [pastEq, tokenIds, List.filterMap_append] at freshTokens
      exact freshTokens.of_append_right
    have freshDevices₀ : (deviceIds r₀.past).Nodup := by
      rw [pastEq, deviceIds, List.filterMap_append] at freshDevices
      exact freshDevices.of_append_right
    have calm₀ : ∀ e ∈ r₀.past, e.Calm := by
      intro e member
      apply calm
      rw [pastEq]
      exact List.mem_append_right _ member
    have agrees₀ := reached₀.agrees calm₀ freshTokens₀ freshDevices₀
    rcases List.append_of_mem member with ⟨later, earlier, past₀⟩
    have past : r.past = (more ++ later) ++ e :: earlier := by
      rw [pastEq, past₀, List.append_assoc]
    rw [agrees₀.verdict_eq calm₀ matching timely₀ past₀ handed,
      agrees.verdict_eq calm matching timely past handed]
    exact stage_verdict_le forward
  · intro raw now wall v verified
    have orderly : (World.quiet r.store now wall).store.Orderly (deviceIds r.past) :=
      agrees.orderly
    obtain ⟨t, member, unrevoked, rfl, accepted⟩ := Authority.exists_of_verify orderly verified
    rcases agrees.exists_handed member unrevoked with ⟨later, e, earlier, past, handed, idle⟩
    exact ⟨later, e, earlier, t, past, handed, idle, member, unrevoked, rfl, accepted⟩

end Run

namespace Sample

/-- Until its expiry the token of a rejected device is invalid. -/
theorem verdict_rejected :
    (rejected .memory).verdict admission token.raw (.ofSeconds 161) 0 = .error .tokenInvalid ∧
      (rejected .memory).verdict admission token.raw (.ofSeconds 162) 0 =
        .error .tokenExpired := by
  obtain ⟨history, -, -⟩ := (reached .memory).verdict_of_history (calm .memory)
    (nodup_tokenIds .memory) (nodup_deviceIds .memory) keys_match
  constructor
  · apply (history [_] _ _ token rfl (by decide +kernel) (.ofSeconds 161) 0 (by decide)).trans
    decide +kernel
  · apply (history [_] _ _ token rfl (by decide +kernel) (.ofSeconds 162) 0 (by decide)).trans
    decide +kernel

end Sample

end DeviceAdmission
