import DeviceAdmission.Config.Defaults
import DeviceAdmission.Config.Overrides
import DeviceAdmission.Config.Report
import DeviceAdmission.Config.Substitution

/-!
# Preparing a configuration

From the tree in a file to the configuration that holds: references are resolved, the tree is read,
defaults are filled in, and the overrides of the environment are applied.
-/

namespace DeviceAdmission.Config

/-- Why no configuration comes out of a tree. -/
inductive PreparationFault where
  | unset (missing : UnsetVariable)
  | unreadable (problem : Json.Problem)
  deriving DecidableEq, Repr

/-- The causes of the fault, the outermost first. -/
def PreparationFault.causes : PreparationFault → List String
  | unset u => ["Failed to resolve env vars in config", u.message]
  | unreadable problem => ["Failed to deserialize config", problem.message]

/-- The configuration that a tree stands for in an environment. -/
def prepare (env : Environment) (tree : Json.Value) : Except PreparationFault Config := do
  let resolved ← (Substitution.resolve env tree).mapError .unset
  let config ← (ofTree resolved).mapError .unreadable
  pure (config.withDefaults.withOverrides env)

end DeviceAdmission.Config
