import DeviceAdmission.Proofs.Store.Calls
import Mathlib.Logic.Relation

/-!
# Moves of tokens

A call changes the tokens of a store in one of two ways: it revokes some of them, or it revokes some
and then puts one whose device has no outstanding token. Whatever is to be known of the tokens after
any number of calls follows from what a move does.
-/

namespace DeviceAdmission

open TokenEntry Relation

/-- The token that a call may put. -/
def StoreCall.candidate? {α : Type} : StoreCall α → Option Token
  | insertOrGetLive candidate _ => some candidate
  | _ => none

/-! ## Entries over time -/

/-- Whether an entry is the one of a token, revoked or not. -/
structure TokenEntry.Records (e : TokenEntry) (t : Token) : Prop where
  id : e.id = t.id
  tenant : e.tenant = t.tenant
  deviceId : e.deviceId = t.deviceId
  raw : e.raw = t.raw

/-- Whether an entry is another one that may have been revoked since. -/
def TokenEntry.Becomes (e f : TokenEntry) : Prop :=
  f = e ∨ f = e.revoke

namespace TokenEntry

variable {e f g : TokenEntry} {t : Token}

theorem records_entry (t : Token) : t.entry.Records t :=
  ⟨rfl, rfl, rfl, rfl⟩

theorem records_tokenEntry (kind : StoreKind) (t : Token) :
    (kind.tokenEntry t).Records t := by
  constructor <;> simp

theorem Becomes.trans (first : e.Becomes f) (second : f.Becomes g) : e.Becomes g := by
  rcases first with rfl | rfl
  · exact second
  · rcases second with rfl | rfl
    · exact .inr rfl
    · exact .inr rfl

theorem Becomes.key (h : e.Becomes f) : f.key = e.key := by
  rcases h with rfl | rfl
  · rfl
  · rfl

theorem Becomes.id (h : e.Becomes f) : f.id = e.id :=
  congrArg Prod.snd h.key

theorem Becomes.tenant (h : e.Becomes f) : f.tenant = e.tenant :=
  congrArg Prod.fst h.key

theorem Becomes.deviceId (h : e.Becomes f) : f.deviceId = e.deviceId := by
  rcases h with rfl | rfl
  · rfl
  · rfl

theorem Becomes.records (h : e.Becomes f) (records : e.Records t) : f.Records t := by
  rcases h with rfl | rfl
  · exact records
  · exact ⟨records.id, records.tenant, records.deviceId, records.raw⟩

theorem Becomes.revoked (h : e.Becomes f) (revoked : e.revoked = true) : f.revoked = true := by
  rcases h with rfl | rfl
  · exact revoked
  · rfl

theorem exists_becomes_of_mem_revokeWhere {entries : List TokenEntry} {p : TokenEntry → Bool}
    (member : f ∈ revokeWhere p entries) : ∃ e ∈ entries, e.Becomes f := by
  rcases mem_revokeWhere_iff.mp member with ⟨e, old, rfl⟩
  refine ⟨e, old, ?_⟩
  split
  · exact .inr rfl
  · exact .inl rfl

theorem exists_mem_revokeWhere {entries : List TokenEntry} (p : TokenEntry → Bool)
    (member : e ∈ entries) : ∃ f ∈ revokeWhere p entries, e.Becomes f := by
  refine ⟨_, mem_revokeWhere_iff.mpr ⟨e, member, rfl⟩, ?_⟩
  split
  · exact .inr rfl
  · exact .inl rfl

end TokenEntry

/-! ## Moves -/

namespace Store

/-- A change of the tokens of a store, where `new` says which ones may be put. -/
inductive Move (new : TokenEntry → Prop) (s s' : Store) : Prop where
  | revoked (p : TokenEntry → Bool) (kind : s'.kind = s.kind)
      (tokens : s'.tokens = revokeWhere p s.tokens)
  | added (p : TokenEntry → Bool) {e : TokenEntry} (isNew : new e)
      (none : ∀ f ∈ revokeWhere p s.tokens, f.isOutstanding e.tenant e.deviceId = false)
      (fresh : s.kind = .tables → ∀ f ∈ s.tokens, f.id ≠ e.id) (kind : s'.kind = s.kind)
      (tokens : s'.tokens = put e (revokeWhere p s.tokens))

variable {s s' : Store} {new : TokenEntry → Prop} {e f : TokenEntry}

theorem SameTokens.move (same : s.SameTokens s') : Move new s s' := by
  refine .revoked (fun _ => false) same.kind ?_
  rw [same.tokens, revokeWhere_eq_self fun _ _ => rfl]

theorem Move.mono {larger : TokenEntry → Prop} (h : Move new s s')
    (included : ∀ e, new e → larger e) : Move larger s s' := by
  cases h with
  | revoked p kind tokens => exact .revoked p kind tokens
  | added p isNew none fresh kind tokens =>
      exact .added p (included _ isNew) none fresh kind tokens

theorem Insertion.move {candidate : Token} {now : Instant} {r : Except StoreFault Token × Store}
    (h : Insertion s candidate now r) : Move (· = s.kind.tokenEntry candidate) s r.2 := by
  cases h with
  | failed fault => exact (SameTokens.refl s).move
  | reused member outstanding live => exact (SameTokens.refl s).move
  | added expired fresh devices tokens =>
      refine .added (isOutstanding candidate.tenant candidate.deviceId) rfl ?_ ?_ devices.kind
        tokens
      · intro f member
        rw [StoreKind.tenant_tokenEntry, StoreKind.deviceId_tokenEntry]
        exact notOutstanding_of_mem_revokeWhere (fun _ _ outstanding => outstanding) member
      · intro isTables f member
        rw [StoreKind.id_tokenEntry]
        exact fresh isTables f member

/-- What a call does to the tokens. -/
theorem move_run {α : Type} (sound : s.Sound) (c : StoreCall α) :
    Move (fun e => ∃ t, c.candidate? = some t ∧ e = s.kind.tokenEntry t) s (s.run c).2 := by
  cases c with
  | insertOrGetLive candidate now =>
      apply (insertion sound candidate now).move.mono
      rintro e rfl
      exact ⟨candidate, rfl, rfl⟩
  | revokeToken tenant id =>
      exact .revoked (isToken tenant id) (kind_run s _) (tokens_revokeToken s tenant id)
  | revokeDeviceTokens tenant deviceId =>
      exact .revoked (isOutstanding tenant deviceId) (kind_run s _)
        (tokens_revokeDeviceTokens s tenant deviceId)
  | getToken tenant id =>
      rw [run_getToken]
      exact (SameTokens.refl s).move
  | getOrCreate candidate => exact (sameTokens_run s rfl).move
  | getDevice tenant id => exact (sameTokens_run s rfl).move
  | listDevices tenant skip limit => exact (sameTokens_run s rfl).move
  | updateStatus tenant id status now => exact (sameTokens_run s rfl).move
  | rotateKey tenant id key now => exact (sameTokens_run s rfl).move

theorem Move.kind (h : Move new s s') : s'.kind = s.kind := by
  cases h with
  | revoked p kind tokens => exact kind
  | added p isNew none fresh kind tokens => exact kind

theorem Move.keyed (h : Move new s s') (keyed : Keyed s.tokens) : Keyed s'.tokens := by
  cases h with
  | revoked p kind tokens =>
      rw [tokens]
      exact keyed.revokeWhere
  | added p isNew none fresh kind tokens =>
      rw [tokens]
      exact keyed.revokeWhere.put

/-- An entry stays, perhaps revoked, where what may be put has another key. -/
theorem Move.exists_mem (h : Move new s s') (member : e ∈ s.tokens)
    (other : ∀ f, new f → f.key ≠ e.key) : ∃ f ∈ s'.tokens, e.Becomes f := by
  cases h with
  | revoked p kind tokens =>
      rw [tokens]
      exact exists_mem_revokeWhere p member
  | added p isNew none fresh kind tokens =>
      rcases exists_mem_revokeWhere p member with ⟨f, fMem, becomes⟩
      refine ⟨f, ?_, becomes⟩
      rw [tokens]
      apply mem_put_of_mem fMem
      rw [becomes.key]
      exact (other _ isNew).symm

/-- An entry was there before, perhaps not revoked yet, or it was put. -/
theorem Move.exists_origin (h : Move new s s') (member : f ∈ s'.tokens) :
    (∃ e, new e ∧ e.Becomes f) ∨ ∃ e ∈ s.tokens, e.Becomes f := by
  cases h with
  | revoked p kind tokens =>
      rw [tokens] at member
      exact .inr (exists_becomes_of_mem_revokeWhere member)
  | added p isNew none fresh kind tokens =>
      rw [tokens] at member
      rcases mem_of_mem_put member with rfl | old
      · exact .inl ⟨_, isNew, .inl rfl⟩
      · exact .inr (exists_becomes_of_mem_revokeWhere old)

/-! ## Soundness -/

theorem map_id_revokeWhere (p : TokenEntry → Bool) (entries : List TokenEntry) :
    (revokeWhere p entries).map TokenEntry.id = entries.map TokenEntry.id := by
  rw [revokeWhere, List.map_map]
  apply List.map_congr_left
  intro e _
  simp only [Function.comp]
  split
  · rfl
  · rfl

theorem sound_empty (kind : StoreKind) : (Store.empty kind).Sound := by
  cases kind with
  | memory => exact ⟨fun _ _ => Nat.zero_le 1, fun _ => List.nodup_nil⟩
  | tables => exact ⟨fun _ _ => Nat.zero_le 1, fun _ => List.nodup_nil⟩

/-- A change of the tokens keeps a store sound. -/
theorem Sound.move (sound : s.Sound) (h : Move new s s') : s'.Sound := by
  cases h with
  | revoked p kind tokens =>
      constructor
      · rw [tokens]
        exact sound.single.revokeWhere
      · intro isTables
        rw [tokens, map_id_revokeWhere]
        exact sound.unique (kind ▸ isTables)
  | @added p e isNew none fresh kind tokens =>
      constructor
      · rw [tokens]
        exact sound.single.revokeWhere.put none
      · intro isTables
        have isTables : s.kind = .tables := kind ▸ isTables
        have absent : e.id ∉ (revokeWhere p s.tokens).map TokenEntry.id := by
          rw [map_id_revokeWhere]
          intro member
          rcases List.mem_map.mp member with ⟨f, fMem, idEq⟩
          exact fresh isTables f fMem idEq
        have behind : put e (revokeWhere p s.tokens) = revokeWhere p s.tokens ++ [e] := by
          apply put_eq_append
          intro f fMem keyEq
          exact absent (List.mem_map.mpr ⟨f, fMem, congrArg Prod.snd keyEq⟩)
        rw [tokens, behind, List.map_append]
        apply List.Nodup.append
        · rw [map_id_revokeWhere]
          exact sound.unique isTables
        · exact List.nodup_singleton _
        · intro id old same
          rw [List.map_singleton, List.mem_singleton] at same
          exact absent (same ▸ old)

theorem Sound.run {α : Type} (sound : s.Sound) (c : StoreCall α) : (s.run c).2.Sound :=
  sound.move (move_run sound c)

theorem SameTokens.sound (same : s.SameTokens s') (sound : s.Sound) : s'.Sound := by
  have step : Move (fun _ => False) s s' := same.move
  exact sound.move step

/-! ## Sequences of moves -/

theorem kind_of_moves (h : ReflTransGen (Move new) s s') : s'.kind = s.kind := by
  induction h with
  | refl => rfl
  | tail before step ih => rw [step.kind, ih]

theorem Sound.moves (sound : s.Sound) (h : ReflTransGen (Move new) s s') : s'.Sound := by
  induction h with
  | refl => exact sound
  | tail before step ih => exact ih.move step

theorem keyed_of_moves (h : ReflTransGen (Move new) s s') (keyed : Keyed s.tokens) :
    Keyed s'.tokens := by
  induction h with
  | refl => exact keyed
  | tail before step ih => exact step.keyed ih

theorem exists_mem_of_moves (h : ReflTransGen (Move new) s s') (member : e ∈ s.tokens)
    (other : ∀ f, new f → f.key ≠ e.key) : ∃ f ∈ s'.tokens, e.Becomes f := by
  induction h with
  | refl => exact ⟨e, member, .inl rfl⟩
  | tail before step ih =>
      obtain ⟨f, fMem, became⟩ := ih
      have stillOther : ∀ g, new g → g.key ≠ f.key := by
        rw [became.key]
        exact other
      rcases step.exists_mem fMem stillOther with ⟨g, gMem, becomes⟩
      exact ⟨g, gMem, became.trans becomes⟩

theorem exists_origin_of_moves (h : ReflTransGen (Move new) s s') (member : f ∈ s'.tokens) :
    (∃ e, new e ∧ e.Becomes f) ∨ ∃ e ∈ s.tokens, e.Becomes f := by
  induction h generalizing f with
  | refl => exact .inr ⟨f, member, .inl rfl⟩
  | tail before step ih =>
      rcases step.exists_origin member with ⟨e, isNew, becomes⟩ | ⟨g, gMem, becomes⟩
      · exact .inl ⟨e, isNew, becomes⟩
      · rcases ih gMem with ⟨e, isNew, became⟩ | ⟨e, old, became⟩
        · exact .inl ⟨e, isNew, became.trans becomes⟩
        · exact .inr ⟨e, old, became.trans becomes⟩

end Store

end DeviceAdmission
