import DeviceAdmission.Device

/-!
# Token records

The store's record of a token that was handed out. Of a record only the mark that it is revoked ever
changes.
-/

namespace DeviceAdmission

structure Token where
  id : String
  deviceId : String
  tenant : Tenant
  /-- The signed text that the device holds. -/
  raw : String
  issuedAt : Instant
  expiresAt : Instant
  revoked : Bool
  deriving DecidableEq, Repr

namespace Token

def isExpiredAt (t : Token) (now : Instant) : Bool :=
  t.expiresAt ≤ now

/-- A token is live while it is neither revoked nor expired. -/
def isLiveAt (t : Token) (now : Instant) : Bool :=
  !t.revoked && !t.isExpiredAt now

/-- A token record as a document. -/
def json (t : Token) : Json.Value :=
  .object
    [("id", .text t.id), ("device_id", .text t.deviceId), ("tenant_id", .text t.tenant.name),
      ("raw", .text t.raw), ("issued_at", .text (Rfc3339.write .letter t.issuedAt)),
      ("expires_at", .text (Rfc3339.write .letter t.expiresAt)), ("revoked", .bool t.revoked)]

theorem isLiveAt_iff {t : Token} {now : Instant} :
    t.isLiveAt now = true ↔ t.revoked = false ∧ now < t.expiresAt := by
  simp [isLiveAt, isExpiredAt, Instant.le_iff, Instant.lt_iff]

end Token

end DeviceAdmission
