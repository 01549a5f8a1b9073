/-!
# Name and version

How the service calls itself, on the command line and when its health is asked for.
-/

namespace DeviceAdmission

def serviceName : String := "devauth"

def version : String := "0.1.0"

end DeviceAdmission
