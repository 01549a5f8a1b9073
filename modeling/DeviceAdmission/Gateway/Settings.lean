import DeviceAdmission.Http.Message
import DeviceAdmission.Paging

/-!
# Settings of the gateway

The header that names the tenant of a management request, and the sizes of pages.
-/

namespace DeviceAdmission

structure GatewaySettings where
  /-- In small letters. -/
  managementHeader : String
  defaultPerPage : Nat
  maxPerPage : Nat
  deriving DecidableEq, Repr

/-- A text that is no header name. -/
structure HeaderNameFault where
  name : String
  deriving DecidableEq, Repr

/-- The causes of the fault, the outermost first. -/
def HeaderNameFault.causes (f : HeaderNameFault) : List String :=
  ["Invalid management header name: " ++ f.name, "invalid HTTP header name"]

namespace GatewaySettings

/-- The marks that a header name may hold beside letters and digits. -/
def headerMarks : List Char :=
  ['!', '#', '$', '%', '&', '\'', '*', '+', '-', '.', '^', '_', '\x60', '|', '~']

def isHeaderChar (c : Char) : Bool :=
  c.isAlphanum || headerMarks.contains c

/-- The greatest length of a header name. -/
def maxHeaderName : Nat := 65535

def isHeaderName (s : String) : Bool :=
  !s.isEmpty && s.toList.all isHeaderChar && s.length ≤ maxHeaderName

/-- The settings with a management header, if its name can be one. -/
def ofHeader (managementHeader : String) (defaultPerPage maxPerPage : Nat) :
    Except HeaderNameFault GatewaySettings :=
  if isHeaderName managementHeader then
    .ok ⟨Http.lowerName managementHeader, defaultPerPage, maxPerPage⟩
  else .error ⟨managementHeader⟩

end GatewaySettings

end DeviceAdmission
