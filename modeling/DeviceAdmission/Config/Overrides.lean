import DeviceAdmission.Config.Basic
import DeviceAdmission.Config.Reference

/-!
# Overrides

Three variables of the environment that win over a configuration: where to listen, on which port,
and where the database is. A variable that is blank counts as unset, and a port that is no number of
a port is passed over.
-/

namespace DeviceAdmission.Config

def bindVariable : String := "DEVAUTH_BIND"

def portVariable : String := "DEVAUTH_PORT"

def databaseVariable : String := "DEVAUTH_DB"

/-- The variables that win over a configuration. -/
def overridingVariables : List String :=
  [bindVariable, portVariable, databaseVariable]

/-- The value of a variable without the blanks around it, unless it is blank. -/
def override? (env : Environment) (name : String) : Option String :=
  ((env.get? name).map Text.trim).filter (!·.isEmpty)

/-- The port that the environment asks for. -/
def portOverride? (env : Environment) : Option Nat :=
  (override? env portVariable).bind fun text => Numeral.readUpTo? maxPort text.toList

def withBind (bind : String) (c : Config) : Config :=
  { c with server := some { c.server.getD .blank with bind := some bind } }

def withPort (port : Nat) (c : Config) : Config :=
  { c with server := some { c.server.getD .blank with port := some port } }

def withDatabasePath (path : String) (c : Config) : Config :=
  { c with storage := some { c.storage.getD .blank with path := some path } }

/-- Apply a change where a variable asks for it. -/
def applyOverride {α : Type} (change : α → Config → Config) (a : Option α) (c : Config) : Config :=
  a.elim c fun a => change a c

/-- A configuration with the overrides of the environment. -/
def withOverrides (env : Environment) (c : Config) : Config :=
  applyOverride withDatabasePath (override? env databaseVariable)
    (applyOverride withPort (portOverride? env)
      (applyOverride withBind (override? env bindVariable) c))

end DeviceAdmission.Config
