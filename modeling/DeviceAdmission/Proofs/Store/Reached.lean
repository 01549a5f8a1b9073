import DeviceAdmission.Proofs.Store.Moves

/-!
# Stores that calls lead to

What every move of tokens preserves holds of every store that is reached from an empty one, above
all that a device has at most one token that is not revoked. So a token that was inserted is either
the one live token of its device or the candidate.
-/

namespace DeviceAdmission

open TokenEntry

namespace Store

/-- The order of the tokens in memory changes, and nothing else. -/
inductive Rearranged : Store → Store → Prop where
  | memory {m : MemoryStore} {tokens : List Token} (perm : m.tokens.Perm tokens) :
      Rearranged (.memory m) (.memory { m with tokens })

variable {s s' : Store}

theorem Rearranged.perm (h : Rearranged s s') : s.tokens.Perm s'.tokens := by
  cases h with
  | memory perm => exact perm.map Token.entry

theorem Rearranged.sameDevices (h : Rearranged s s') : s.SameDevices s' := by
  cases h with
  | memory perm => exact ⟨rfl, rfl, rfl⟩

theorem Sound.rearranged (sound : s.Sound) (h : Rearranged s s') : s'.Sound := by
  refine ⟨sound.single.perm h.perm, ?_⟩
  intro isTables
  exact (h.perm.map TokenEntry.id).nodup_iff.mp (sound.unique (h.sameDevices.kind ▸ isTables))

/-! ## Reached stores -/

/-- The stores that any calls lead to, from an empty store of the kind. -/
inductive Reached (kind : StoreKind) : Store → Prop where
  | empty : Reached kind (.empty kind)
  | call {s : Store} {α : Type} (before : Reached kind s) (c : StoreCall α) :
      Reached kind (s.run c).2
  | rearranged {s s' : Store} (before : Reached kind s) (order : Rearranged s s') :
      Reached kind s'

/-- Every store that calls lead to is sound. -/
theorem Reached.sound {kind : StoreKind} (reached : Reached kind s) : s.Sound := by
  induction reached with
  | empty => exact sound_empty kind
  | call before c ih => exact ih.run c
  | rearranged before order ih => exact ih.rearranged order

/-- A token that was inserted is the one outstanding token of the device, which has not expired, and
then the store stays as it is; or it is the candidate, and what is outstanding has expired. -/
theorem Insertion.eq_ok {candidate t : Token} {now : Instant} {s' : Store} (sound : s.Sound)
    (h : Insertion s candidate now (.ok t, s')) :
    (t.entry ∈ s.tokens ∧ t.isOutstanding candidate.tenant candidate.deviceId = true ∧
        t.isExpiredAt now = false ∧ s' = s ∧
        ∀ e ∈ s.tokens, e.isOutstanding candidate.tenant candidate.deviceId = true →
          e = t.entry) ∨
      (t = candidate ∧ s.kind.tokenEntry candidate ∈ s'.tokens ∧
        ∀ e ∈ s.tokens, e.isOutstanding candidate.tenant candidate.deviceId = true →
          ∃ u : Token, e = u.entry ∧ u.isExpiredAt now = true) := by
  cases h with
  | reused member outstanding live =>
      left
      refine ⟨member, outstanding, live, rfl, ?_⟩
      intro e eMem eOut
      exact sound.single.eq_of_outstanding eMem member eOut outstanding
  | added expired fresh devices tokens =>
      right
      refine ⟨rfl, ?_, expired⟩
      rw [tokens]
      exact mem_put_self

end Store

end DeviceAdmission
