import DeviceAdmission.CommandLine.Note
import DeviceAdmission.Host.Basic
import DeviceAdmission.Text.Split

/-!
# What a command prints

A command writes lines to the output and to the error stream, asks its host for things, and may end
with the causes of a fault. What was printed before the fault stays printed.
-/

namespace DeviceAdmission.CommandLine

/-- The lines printed so far. -/
structure Transcript where
  output : List String
  errors : List String
  deriving DecidableEq, Repr

def Transcript.empty : Transcript := ⟨[], []⟩

/-- How a run ends: the exit code and the texts of both streams. -/
structure Outcome where
  code : Nat
  output : String
  errors : String
  deriving DecidableEq, Repr

/-- Lines as they stand in a stream. -/
def joinedLines (lines : List String) : String :=
  String.join (lines.map (· ++ "\n"))

/-- The lines of a text, the first behind one margin and the others behind another. -/
def withMargins (first others text : String) : List String :=
  match (Text.splitAt '\n' text.toList).map String.ofList with
  | [] => []
  | line :: lines => (first ++ line) :: lines.map (others ++ ·)

/-- The lines that tell of several causes, each with its number. -/
def numberedCauses (causes : List String) : List String :=
  causes.zipIdx.flatMap fun (cause, n) =>
    withMargins ("    " ++ String.ofList (Numeral.write n) ++ ": ") "       " cause

/-- The lines that tell of a fault. -/
def faultLines : (causes : List String) → List String
  | [] => ["Error: "]
  | [message] => ["Error: " ++ message]
  | [message, cause] =>
    ["Error: " ++ message, "", "Caused by:"] ++ withMargins "    " "    " cause
  | message :: causes => ["Error: " ++ message, "", "Caused by:"] ++ numberedCauses causes

/-- What a run leaves that ended with the causes of a fault or without one. -/
def Transcript.outcome (t : Transcript) : Except (List String) Unit → Outcome
  | .ok () => ⟨0, joinedLines t.output, joinedLines t.errors⟩
  | .error causes => ⟨1, joinedLines t.output, joinedLines (t.errors ++ faultLines causes)⟩

/-- A computation that prints and may end with the causes of a fault. -/
abbrev CommandT (m : Type → Type) := ExceptT (List String) (StateT Transcript m)

variable {m : Type → Type} [Monad m]

/-- Run a command from the first line on. -/
def CommandT.outcome (x : CommandT m Unit) : m Outcome := do
  let (result, transcript) ← StateT.run (ExceptT.run x) Transcript.empty
  pure (transcript.outcome result)

/-- Ask the host. -/
def ask {α : Type} (x : m α) : CommandT m α :=
  ExceptT.lift (StateT.lift x)

/-- Go on with a value, or end with the causes of the fault. -/
def settle {ε α : Type} (causes : ε → List String) : Except ε α → CommandT m α
  | .ok a => pure a
  | .error fault => throw (causes fault)

/-- Ask the host for what may fail. -/
def askFor {ε α : Type} (causes : ε → List String) (x : m (Except ε α)) : CommandT m α := do
  settle causes (← ask x)

/-- Print a line to the output. -/
def printLine (line : String) : CommandT m Unit :=
  modify fun t => { t with output := t.output ++ [line] }

/-- Print a line to the error stream. -/
def printErrorLine (line : String) : CommandT m Unit :=
  modify fun t => { t with errors := t.errors ++ [line] }

variable [Host m]

/-- Whether notes are in colour, as the variables of the terminal ask for. -/
def isColoured : m Bool := do
  let refused ← Host.readVariable "NO_COLOR"
  let supported ← Host.readVariable "COLORTERM"
  let terminal ← Host.readVariable "TERM"
  pure (refused.isNone && (supported.isSome || terminal.any (· ≠ "dumb")))

/-- Print a note; errors go to the error stream. -/
def printNote (kind : NoteKind) (message : String) : CommandT m Unit := do
  let line := noteLine kind message (← ask isColoured)
  if kind = .error then printErrorLine line else printLine line

end DeviceAdmission.CommandLine
