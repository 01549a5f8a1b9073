import DeviceAdmission.Proofs.Service.Grants
import DeviceAdmission.Proofs.Service.Verification

/-!
# Verification agrees with history

In a run without failures and interference, the past alone decides what verification says of a token
that was handed out. The invariant is that the store has exactly the tokens that were handed out,
each with the mark that the events after it give.
-/

namespace DeviceAdmission

open TokenEntry

/-! ## What events end -/

/-- Whether an event takes the force of a token: its device was set to another status than accepted,
it was revoked by its id, or a token was issued for its device when it was over. -/
def Event.ends (e : Event) (t : Token) : Bool :=
  match e.reply with
  | .ok (.token u) => u.tenant = t.tenant && u.deviceId = t.deviceId && t.isExpiredAt e.step.now
  | .ok .done =>
    match e.step.operation with
    | .setStatus tenant deviceId status =>
      status.revokesTokens && tenant = t.tenant && deviceId = t.deviceId
    | .revokeToken tenant tokenId => tenant = t.tenant && tokenId = t.id
    | _ => false
  | _ => false

/-- A token as some events leave it. -/
def Token.after (t : Token) (events : List Event) : Token :=
  { t with revoked := t.revoked || events.any fun e => e.ends t }

/-- An event at a time of the years 1970 to 9999 that nobody interfered with. -/
structure Event.Calm (e : Event) : Prop where
  quiet : e.step.interference = fun _ _ => .none
  timely : e.step.now.isTimely = true
  expires : ∀ t, e.HandsOut t → t.expiresAt.isTimely = true

/-- An event accounts for what has become of the tokens of a store. -/
structure Event.Accounts (e : Event) (a : Authority) (s s' : Store) : Prop where
  kept : ∀ t : Token, t.entry ∈ s.tokens → (t.after [e]).entry ∈ s'.tokens
  origin : ∀ f ∈ s'.tokens,
    (∃ t : Token, t.entry ∈ s.tokens ∧ f = (t.after [e]).entry) ∨ ∃ t, e.HandsOut t ∧ f = t.entry
  handed : ∀ t, e.HandsOut t → t.entry ∈ s'.tokens ∧ t.revoked = false ∧
    (t.entry ∈ s.tokens ∨ a.Minted t)

theorem Token.after_cons (t : Token) (e : Event) (later : List Event) :
    (t.after later).after [e] = t.after (e :: later) := by
  have same : e.ends (t.after later) = e.ends t := rfl
  simp only [Token.after, List.any_cons, List.any_nil, Bool.or_false]
  rw [Bool.or_assoc, Bool.or_comm (later.any _)]
  rfl

namespace Event

variable {e : Event} {a : Authority} {s s' : Store} {ids : List String} {t : Token}
variable {p : TokenEntry → Bool}

theorem ends_of_error {failure : Failure} (reply : e.reply = .error failure) (t : Token) :
    e.ends t = false := by
  simp only [ends, reply]

/-- A token is left as revoking leaves it, where what is revoked is what the event ends. -/
theorem entry_after (same : (t.revoked || p t.entry) = (t.revoked || e.ends t)) :
    (t.after [e]).entry = if p t.entry then t.entry.revoke else t.entry := by
  simp only [Token.after, List.any_cons, List.any_nil, Bool.or_false, ← same]
  cases p t.entry with
  | true => simp only [Token.entry, revoke, Bool.or_true, if_true]
  | false => simp only [Token.entry, Bool.or_false, Bool.false_eq_true, if_false]

/-- An event that hands out nothing accounts for the tokens that it ends. -/
theorem accounts_of_revoked (orderly : s.Orderly ids) (tokens : s'.tokens = revokeWhere p s.tokens)
    (same : ∀ t : Token, t.entry ∈ s.tokens → (t.revoked || p t.entry) = (t.revoked || e.ends t))
    (none : ∀ t, ¬e.HandsOut t) : e.Accounts a s s' := by
  constructor
  · intro t member
    rw [tokens, entry_after (same t member)]
    exact mem_revokeWhere_iff.mpr ⟨t.entry, member, rfl⟩
  · intro f member
    rw [tokens] at member
    rcases mem_revokeWhere_iff.mp member with ⟨g, old, rfl⟩
    rcases orderly.readable g old with ⟨t, rfl⟩
    exact .inl ⟨t, old, (entry_after (same t old)).symm⟩
  · intro t handed
    exact absurd handed (none t)

/-- An event that ends and hands out nothing leaves the tokens. -/
theorem accounts_of_same (orderly : s.Orderly ids) (tokens : s'.tokens = s.tokens)
    (idle : ∀ t, e.ends t = false) (none : ∀ t, ¬e.HandsOut t) : e.Accounts a s s' := by
  apply accounts_of_revoked orderly (p := fun _ => false) ?_ ?_ none
  · rw [tokens]
    exact (revokeWhere_eq_self fun _ _ => rfl).symm
  · intro t _
    rw [idle t]

theorem accounts_of_error {failure : Failure} (orderly : s.Orderly ids)
    (tokens : s'.tokens = s.tokens) (reply : e.reply = .error failure) : e.Accounts a s s' := by
  apply accounts_of_same orderly tokens (ends_of_error reply)
  intro t handed
  rw [HandsOut, reply] at handed
  cases handed

/-- An issuance that gave the live token of a device ended nothing. -/
theorem accounts_of_reused (orderly : s.Orderly ids) (reply : e.reply = .ok (.token t))
    (member : t.entry ∈ s.tokens) (unrevoked : t.revoked = false)
    (live : t.isExpiredAt e.step.now = false) : e.Accounts a s s := by
  have own : t.entry.isOutstanding t.tenant t.deviceId = true :=
    isOutstanding_iff.mpr ⟨unrevoked, rfl, rfl⟩
  have idle : ∀ u : Token, u.entry ∈ s.tokens → (u.revoked || false) = (u.revoked || e.ends u) := by
    intro u uMem
    cases revoked : u.revoked with
    | true => rfl
    | false =>
        cases ended : e.ends u with
        | false => rfl
        | true =>
            simp only [ends, reply, Bool.and_eq_true, decide_eq_true_eq] at ended
            rcases ended with ⟨⟨tenantEq, deviceEq⟩, expired⟩
            have outstanding : u.entry.isOutstanding t.tenant t.deviceId = true :=
              isOutstanding_iff.mpr ⟨revoked, tenantEq.symm, deviceEq.symm⟩
            have same := orderly.sound.single.eq_of_outstanding uMem member outstanding own
            rw [entry_injective same, live] at expired
            cases expired
  have left : s.tokens = revokeWhere (fun _ => false) s.tokens :=
    (revokeWhere_eq_self fun _ _ => rfl).symm
  constructor
  · intro u uMem
    rw [entry_after (p := fun _ => false) (idle u uMem)]
    exact uMem
  · intro f fMem
    obtain ⟨u, rfl⟩ := orderly.readable f fMem
    exact .inl ⟨u, fMem, (entry_after (p := fun _ => false) (idle u fMem)).symm⟩
  · intro u handed
    rw [HandsOut, reply] at handed
    cases handed
    exact ⟨member, unrevoked, .inl member⟩

/-- An issuance that gave a new token ended the old ones of the device. -/
theorem accounts_of_added (orderly : s.Orderly ids) (reply : e.reply = .ok (.token t))
    (minted : a.Minted t) (unrevoked : t.revoked = false)
    (fresh : ∀ f ∈ s.tokens, f.id ≠ t.id)
    (expired : ∀ u : Token, u.entry ∈ s.tokens → u.isOutstanding t.tenant t.deviceId = true →
      u.isExpiredAt e.step.now = true)
    (tokens : s'.tokens = put t.entry (revokeWhere (isOutstanding t.tenant t.deviceId) s.tokens)) :
    e.Accounts a s s' := by
  have same : ∀ u : Token, u.entry ∈ s.tokens →
      (u.revoked || u.entry.isOutstanding t.tenant t.deviceId) = (u.revoked || e.ends u) := by
    intro u uMem
    cases revoked : u.revoked with
    | true => rfl
    | false =>
        simp only [Bool.false_or]
        cases outstanding : u.entry.isOutstanding t.tenant t.deviceId with
        | true =>
            rcases isOutstanding_iff.mp outstanding with ⟨-, tenantEq, deviceEq⟩
            have tenantEq : u.tenant = t.tenant := tenantEq
            have deviceEq : u.deviceId = t.deviceId := deviceEq
            simp only [ends, reply, tenantEq, deviceEq, expired u uMem outstanding, decide_true,
              Bool.and_true]
        | false =>
            cases ended : e.ends u with
            | false => rfl
            | true =>
                simp only [ends, reply, Bool.and_eq_true, decide_eq_true_eq] at ended
                rcases ended with ⟨⟨tenantEq, deviceEq⟩, -⟩
                have own : u.entry.isOutstanding t.tenant t.deviceId = true :=
                  isOutstanding_iff.mpr ⟨revoked, tenantEq.symm, deviceEq.symm⟩
                rw [own] at outstanding
                cases outstanding
  constructor
  · intro u uMem
    rw [tokens, entry_after (same u uMem)]
    apply mem_put_of_mem (mem_revokeWhere_iff.mpr ⟨u.entry, uMem, rfl⟩)
    intro keyEq
    apply fresh u.entry uMem
    rw [← entry_after (same u uMem)] at keyEq
    exact congrArg Prod.snd keyEq
  · intro f fMem
    rw [tokens] at fMem
    rcases mem_of_mem_put fMem with rfl | old
    · exact .inr ⟨t, reply, rfl⟩
    · rcases mem_revokeWhere_iff.mp old with ⟨g, gMem, rfl⟩
      obtain ⟨u, rfl⟩ := orderly.readable g gMem
      exact .inl ⟨u, gMem, (entry_after (same u gMem)).symm⟩
  · intro u handed
    rw [HandsOut, reply] at handed
    cases handed
    rw [tokens]
    exact ⟨mem_put_self, unrevoked, .inr minted⟩

end Event

/-! ## Operations -/

/-- An issuance accounts for the tokens, where the token that it gives expires in time. -/
theorem Authority.Issuance.accounts {a : Authority} {tokenId deviceId : String} {tenant : Tenant}
    {r : Except Failure Token} {s s' : Store} {ids : List String} {e : Event}
    (h : a.Issuance s tokenId tenant deviceId e.step.now r s') (orderly : s.Orderly ids)
    (fresh : ∀ f ∈ s.tokens, f.id ≠ tokenId) (timely : e.step.now.isTimely = true)
    (expires : ∀ t, r = .ok t → t.expiresAt.isTimely = true) (reply : e.reply = r.map .token) :
    e.Accounts a s s' := by
  cases h with
  | notEntitled unfit => exact Event.accounts_of_error orderly rfl reply
  | notMinted accepted failed => exact Event.accounts_of_error orderly rfl reply
  | @reused t accepted member outstanding live =>
      obtain ⟨unrevoked, -, -⟩ :=
        TokenEntry.isOutstanding_iff.mp ((Token.isOutstanding_entry t).trans outstanding)
      exact Event.accounts_of_reused orderly reply member unrevoked live
  | @added t s' accepted minted expired devices tokens =>
      have made := minting minted
      rcases minted_of_mints e.step.inRange ⟨tenant, deviceId, minted⟩ with ⟨idEq, isMinted⟩
      rw [tokenEntry_of_mint s.kind timely minted (expires t rfl)] at tokens
      rw [← idEq] at fresh
      rw [← made.tenantEq, ← made.deviceEq] at expired tokens
      exact Event.accounts_of_added orderly reply isMinted made.unrevoked fresh expired tokens

/-- What an operation that puts nothing and reads only leaves. -/
theorem Action.Idle.accounts {α : Type} {x : Action α} {f : α → Reply} {st : Step} {s : Store}
    {ids : List String} (a : Authority) (idle : x.Idle st.now st.wallSeconds s)
    (orderly : s.Orderly ids) (reads : ∀ b, ∀ t, f b ≠ .token t) (leaves : ∀ b, f b ≠ .done) :
    ∃ r s', (x >>= fun b => pure (f b)).Ends st.now st.wallSeconds s r s' ∧ s'.Orderly ids ∧
      Event.Accounts ⟨st, r⟩ a s s' := by
  rcases idle with ⟨r, ends⟩
  refine ⟨r.map f, s, ends.map f, orderly, ?_⟩
  cases r with
  | error failure => exact Event.accounts_of_error orderly rfl rfl
  | ok b =>
      apply Event.accounts_of_same orderly rfl
      · intro t
        simp only [Except.map, Event.ends]
        cases replied : f b with
        | token u => exact absurd replied (reads b u)
        | done => exact absurd replied (leaves b)
        | verified v => rfl
        | device d => rfl
        | devices page => rfl
      · intro t handed
        exact reads b t (Except.ok.inj handed)

namespace Admission

variable {s : Store} {ids : List String}

theorem accounts_revokeToken (a : Admission) {st : Step} {tenant : Tenant} {tokenId : String}
    (operation : st.operation = .revokeToken tenant tokenId) (orderly : s.Orderly ids) :
    ∃ r s', (a.perform (.revokeToken tenant tokenId)).Ends st.now st.wallSeconds s r s' ∧
      s'.Orderly ids ∧ Event.Accounts ⟨st, r⟩ a.authority s s' := by
  obtain ⟨r, s', ends, orderly', ⟨rfl, tokens⟩ | ⟨rfl, tokens⟩⟩ :=
    Authority.exists_ends_revoke a.authority st.wallSeconds orderly tenant tokenId st.now
  · refine ⟨_, s', ends.map fun _ => Reply.done, orderly', ?_⟩
    apply Event.accounts_of_revoked orderly tokens
    · intro t _
      simp only [Event.ends, operation, Except.map, isToken, Token.entry, eq_comm]
    · intro t handed
      cases handed
  · exact ⟨_, s', ends.map fun _ => Reply.done, orderly',
      Event.accounts_of_error orderly tokens rfl⟩

theorem accounts_setStatus (a : Admission) {st : Step} {tenant : Tenant} {deviceId : String}
    {status : DeviceStatus} (operation : st.operation = .setStatus tenant deviceId status)
    (orderly : s.Orderly ids) (timely : st.now.isTimely = true) :
    ∃ r s', (a.perform (.setStatus tenant deviceId status)).Ends st.now st.wallSeconds s r s' ∧
      s'.Orderly ids ∧ Event.Accounts ⟨st, r⟩ a.authority s s' := by
  obtain ⟨r, s', ends, orderly', ⟨rfl, tokens⟩ | ⟨rfl, tokens⟩⟩ :=
    exists_ends_setStatus a st.wallSeconds orderly timely tenant deviceId status
  · refine ⟨_, s', ends.map fun _ => Reply.done, orderly', ?_⟩
    apply Event.accounts_of_revoked orderly tokens
    · intro t _
      simp only [Event.ends, operation, Except.map, isOutstanding, Token.entry, eq_comm,
        Bool.and_assoc]
      cases t.revoked with
      | true => rfl
      | false => rfl
    · intro t handed
      cases handed
  · exact ⟨_, s', ends.map fun _ => Reply.done, orderly',
      Event.accounts_of_error orderly tokens rfl⟩

/-- A request accounts for the tokens, where the token that it gives expires in time. -/
theorem Grant.accounts {a : Admission} {given : FreshIds} {body : Bytes}
    {signature : Option String} {r : Except Failure Token} {s s' : Store} {e : Event}
    (h : a.Grant s given body signature e.step.now e.step.wallSeconds r s')
    (orderly : s.Orderly ids) (freshDevice : given.device ∉ ids)
    (freshToken : ∀ f ∈ s.tokens, f.id ≠ given.token) (timely : e.step.now.isTimely = true)
    (expires : ∀ t, r = .ok t → t.expiresAt.isTimely = true) (reply : e.reply = r.map .token) :
    e.Accounts a.authority s s' := by
  cases h with
  | unchecked failed => exact Event.accounts_of_error orderly rfl reply
  | refused checked lookedUp =>
      exact Event.accounts_of_error orderly lookedUp.sameTokens.tokens reply
  | issued checked lookedUp issued =>
      have same := lookedUp.sameTokens.tokens
      have accounts := issued.accounts (lookedUp.orderly orderly freshDevice) (same ▸ freshToken)
        timely expires reply
      constructor
      · rw [← same]
        exact accounts.kept
      · rw [← same]
        exact accounts.origin
      · rw [← same]
        exact accounts.handed

/-- An operation with fresh ids leaves an orderly store and accounts for its tokens, where the token
that it gives expires in time. -/
theorem exists_ends_perform (a : Admission) {st : Step} (orderly : s.Orderly ids)
    (timely : st.now.isTimely = true)
    (freshDevice : ∀ id, st.operation.deviceId? = some id → id ∉ ids)
    (freshToken : ∀ id, st.operation.tokenId? = some id → ∀ f ∈ s.tokens, f.id ≠ id) :
    ∃ r s', (a.perform st.operation).Ends st.now st.wallSeconds s r s' ∧
      ((∀ t, r = .ok (.token t) → t.expiresAt.isTimely = true) →
        s'.Orderly (st.operation.deviceId?.toList ++ ids) ∧
          Event.Accounts ⟨st, r⟩ a.authority s s') := by
  cases operation : st.operation with
  | submit given body signature =>
      have deviceFresh : given.device ∉ ids := freshDevice _ (by rw [operation]; rfl)
      have tokenFresh : ∀ f ∈ s.tokens, f.id ≠ given.token :=
        freshToken _ (by rw [operation]; rfl)
      obtain ⟨r, s', granted, ends⟩ := exists_ends_grant a st.wallSeconds orderly deviceFresh
        tokenFresh timely body signature
      refine ⟨_, s', ends.map Reply.token, fun expires => ?_⟩
      have expires : ∀ t, r = .ok t → t.expiresAt.isTimely = true := by
        rintro t rfl
        exact expires t rfl
      exact ⟨granted.orderly orderly deviceFresh tokenFresh timely expires,
        Grant.accounts granted orderly deviceFresh tokenFresh timely expires rfl⟩
  | issue tokenId tenant deviceId =>
      have tokenFresh : ∀ f ∈ s.tokens, f.id ≠ tokenId := freshToken _ (by rw [operation]; rfl)
      rcases Authority.exists_issuance orderly tokenFresh with ⟨r, s', issued, ends⟩
      refine ⟨_, s', ends.map Reply.token, fun expires => ?_⟩
      have expires : ∀ t, r = .ok t → t.expiresAt.isTimely = true := by
        rintro t rfl
        exact expires t rfl
      exact ⟨issued.orderly orderly tokenFresh timely expires,
        issued.accounts orderly tokenFresh timely expires rfl⟩
  | setStatus tenant deviceId status =>
      obtain ⟨r, s', ends, rest⟩ := accounts_setStatus a operation orderly timely
      exact ⟨r, s', ends, fun _ => rest⟩
  | revokeToken tenant tokenId =>
      rcases accounts_revokeToken a operation orderly with ⟨r, s', ends, rest⟩
      exact ⟨r, s', ends, fun _ => rest⟩
  | verify raw =>
      have idle : (a.verify raw).Idle st.now st.wallSeconds s := Authority.idle_verify _ _ _ _ _
      obtain ⟨r, s', ends, rest⟩ := idle.accounts (f := Reply.verified) a.authority orderly
        (fun _ _ same => Reply.noConfusion same) fun _ same => Reply.noConfusion same
      exact ⟨r, s', ends, fun _ => rest⟩
  | getDevice tenant deviceId =>
      have idle := idle_getDevice a tenant deviceId st.now st.wallSeconds s
      obtain ⟨r, s', ends, rest⟩ := idle.accounts (f := Reply.device) a.authority orderly
        (fun _ _ same => Reply.noConfusion same) fun _ same => Reply.noConfusion same
      exact ⟨r, s', ends, fun _ => rest⟩
  | listDevices tenant request =>
      have idle := idle_listDevices a tenant request st.now st.wallSeconds s
      obtain ⟨r, s', ends, rest⟩ := idle.accounts (f := Reply.devices) a.authority orderly
        (fun _ _ same => Reply.noConfusion same) fun _ same => Reply.noConfusion same
      exact ⟨r, s', ends, fun _ => rest⟩

end Admission

/-! ## The small service -/

namespace Sample

theorem calm (kind : StoreKind) : ∀ e ∈ (rejected kind).past, e.Calm := by
  have expires : ∀ e ∈ (rejected kind).past, ∀ t, e.HandsOut t → t = token := by
    intro e member t handed
    have reply : e.reply ∈ (rejected kind).past.map Event.reply := List.mem_map_of_mem member
    rw [replies, handed] at reply
    simpa using reply
  have quiet : ∀ e ∈ (rejected kind).past,
      e.step.interference = (fun _ _ => .none) ∧ e.step.now.isTimely = true := by
    simp only [rejected, issued, registered, Run.next, List.forall_mem_cons]
    exact ⟨⟨rfl, by decide⟩, ⟨rfl, by decide⟩, ⟨rfl, by decide⟩, ⟨rfl, by decide⟩,
      ⟨rfl, by decide⟩, List.forall_mem_nil _⟩
  intro e member
  constructor
  · exact (quiet e member).1
  · exact (quiet e member).2
  · intro t handed
    rw [expires e member t handed]
    decide

end Sample

end DeviceAdmission
