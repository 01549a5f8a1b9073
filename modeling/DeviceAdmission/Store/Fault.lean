/-!
# Faults of a store

Why a store refused a call, and the message that says so.
-/

namespace DeviceAdmission

/-- The tables of a store. -/
inductive Table where
  | devices
  | tokens
  deriving DecidableEq, Repr

def Table.name : Table → String
  | devices => "devices"
  | tokens => "tokens"

inductive StoreFault where
  /-- Another row of the table has the id. -/
  | idTaken (table : Table)
  /-- The device has a token that is not revoked. -/
  | liveTokenTaken
  /-- The status of a device is none. -/
  | statusUnreadable
  /-- The timestamp in a column of a row cannot be read. -/
  | timeUnreadable (column : Nat)
  /-- The device that was just registered or found cannot be read. -/
  | deviceUnreadable (cause : StoreFault)
  /-- The device that was just registered or found is not there. -/
  | deviceMissing
  /-- A fault of the medium, as it describes itself. -/
  | medium (text : String)
  deriving DecidableEq, Repr

def StoreFault.message : StoreFault → String
  | idTaken table =>
    "UNIQUE constraint failed: " ++ table.name ++
      ".id: Error code 1555: A PRIMARY KEY constraint failed"
  | liveTokenTaken =>
    "UNIQUE constraint failed: tokens.tenant_id, tokens.device_id: Error code 2067: " ++
      "A UNIQUE constraint failed"
  | statusUnreadable =>
    "Conversion error from type Text at index: 4, incorrect device status: incorrect device status"
  | timeUnreadable column =>
    "Conversion error from type Text at index: " ++ toString column ++
      ", input contains invalid characters: input contains invalid characters"
  | deviceUnreadable cause => "Device vanished after create-or-fetch: " ++ cause.message
  | deviceMissing => "Device vanished after create-or-fetch: Query returned no rows"
  | medium text => text

end DeviceAdmission
