import NovaLint.Text.CharClass

/-!
# Settings and failures

What a user may choose about a run, and the ways in which a run can fail apart from what is wrong
with the program it reads.
-/

namespace NovaLint

/-- A failure of a run, with its reason in words. -/
inductive Failure where
  /-- The settings are refused. -/
  | settings (reason : String)
  /-- The tokens are not exported. -/
  | exporting (reason : String)
  /-- The operating system refuses a file. -/
  | system (reason : String)
deriving DecidableEq, Repr

/-- The failure as a line of text. -/
def Failure.text : Failure → String
  | settings reason => "Invalid configuration: " ++ reason
  | exporting reason => "Export refused: " ++ reason
  | system reason => "IO error: " ++ reason

/-- What a user may choose about a run. -/
structure Settings where
  /-- The character that names must start with. -/
  initial : Char
  /-- The tokens are shown as soon as they are cut. -/
  dumpTokens : Bool
  /-- The stages of the run are announced. -/
  verbose : Bool
deriving DecidableEq, Repr

namespace Settings

/-- Names start with an underscore unless a user chooses otherwise. -/
def defaultInitial : Char := '_'

/-- Why a character may not be required at the start of names. -/
inductive Refusal where
  /-- It is white space. -/
  | blank
  /-- It is a digit. -/
  | digit (c : Char)
deriving DecidableEq, Repr

/-- The reason in words. -/
def Refusal.reason : Refusal → String
  | blank => "name prefix must not be whitespace"
  | digit c => s!"name prefix '{c}' can never start an identifier"

/-- Why the settings are refused, if they are. -/
def refusal? (settings : Settings) : Option Refusal :=
  if Text.isBlank settings.initial then some .blank
  else if settings.initial.isDigit then some (.digit settings.initial)
  else none

/-- Settings that may be used, or the failure that they are. -/
def check (settings : Settings) : Except Failure Settings :=
  match settings.refusal? with
  | some refusal => .error (.settings refusal.reason)
  | none => .ok settings

end Settings
end NovaLint
