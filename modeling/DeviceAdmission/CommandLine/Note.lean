/-!
# Notes to the operator

The lines that the commands print. In colour a note begins with a sign, otherwise with a word.
-/

namespace DeviceAdmission

inductive NoteKind where
  | info
  | warning
  | error
  | success
  deriving DecidableEq, Repr

namespace NoteKind

def label : NoteKind → String
  | info => "INFO"
  | warning => "WARN"
  | error => "ERROR"
  | success => "OK"

def sign : NoteKind → String
  | info => "ℹ"
  | warning => "⚠"
  | error => "✗"
  | success => "✓"

/-- The number of the terminal colour. -/
def colour : NoteKind → String
  | info => "36"
  | warning => "33"
  | error => "31"
  | success => "32"

end NoteKind

/-- A terminal code that sets how the text after it looks. -/
def terminalCode (code : String) : String :=
  "\x1b[" ++ code ++ "m"

/-- The line of a note. -/
def noteLine (kind : NoteKind) (message : String) (coloured : Bool) : String :=
  if coloured then
    terminalCode kind.colour ++ terminalCode "1" ++ kind.sign ++ terminalCode "0" ++ " " ++ message
  else kind.label ++ ": " ++ message

end DeviceAdmission
