import NovaLint.Settings

/-!
# Arguments of the command line

Arguments are read from left to right.  The first fault ends the reading, and so does a request for
the version.  An option takes its value from behind an equals sign or from the next argument, unless
that looks like an option itself.  After two dashes alone every argument names an input file.
-/

namespace NovaLint
namespace CommandLine

/-- An option without a value. -/
inductive Flag where
  /-- Show the table of tokens. -/
  | tokens
  /-- Show the table of verdicts. -/
  | verdicts
  /-- Show the report. -/
  | report
  /-- Announce the stages of the run. -/
  | verbose
  /-- Dump the tokens. -/
  | dumpTokens
deriving DecidableEq, Repr

/-- An option with a value. -/
inductive Setting where
  /-- The character that names must start with. -/
  | initial
  /-- Where the tokens are exported to. -/
  | exportPath
deriving DecidableEq, Repr

/-- What an argument that starts with dashes asks for. -/
inductive Switch where
  /-- An option without a value. -/
  | flag (flag : Flag)
  /-- An option with a value. -/
  | setting (setting : Setting)
  /-- The version of the program. -/
  | version
deriving DecidableEq, Repr

namespace Switch

/-- The switches by their long names. -/
def longNames : List (String × Switch) :=
  [("tokens", .flag .tokens), ("syntax", .flag .verdicts), ("semantic", .flag .report),
    ("verbose", .flag .verbose), ("dump-tokens", .flag .dumpTokens),
    ("prefix", .setting .initial), ("export-tokens", .setting .exportPath), ("version", .version)]

/-- The switches by their letters. -/
def letters : List (Char × Switch) :=
  [('v', .flag .verbose), ('V', .version)]

end Switch

/-- Why a command line is refused. -/
inductive UsageError where
  /-- There is no such switch. -/
  | unknownSwitch (argument : String)
  /-- A switch is given twice. -/
  | repeated (argument : String)
  /-- A switch takes no value and is given one. -/
  | unexpectedValue (argument : String)
  /-- A switch needs a value and is given none. -/
  | missingValue (argument : String)
  /-- The value is not one that the switch takes. -/
  | invalidValue (value : String)
  /-- There is an input file already. -/
  | unexpectedArgument (argument : String)
  /-- There is no input file. -/
  | missingInput
deriving DecidableEq, Repr

/-- What is wrong with the command line, in words. -/
def UsageError.message : UsageError → String
  | unknownSwitch argument => s!"unknown option '{argument}'"
  | repeated argument => s!"option '{argument}' is given more than once"
  | unexpectedValue argument => s!"option '{argument}' takes no value"
  | missingValue argument => s!"option '{argument}' needs a value"
  | invalidValue value => s!"invalid value '{value}'"
  | unexpectedArgument argument => s!"unexpected argument '{argument}'"
  | missingInput => "no input file"

/-- What a run is to do. -/
structure Options where
  /-- The file to read. -/
  input : String
  /-- The options without a value. -/
  flags : List Flag
  /-- The character that names must start with. -/
  initial : Char
  /-- Where the tokens are exported to, if they are. -/
  exportPath? : Option String
deriving DecidableEq, Repr

/-- What the command line asks for. -/
inductive Request where
  /-- Print the version. -/
  | version
  /-- Check a file. -/
  | check (options : Options)
deriving DecidableEq, Repr

/-- What has been read of a command line. -/
structure Draft where
  /-- The file to read. -/
  input? : Option String
  /-- The options without a value. -/
  flags : List Flag
  /-- The character that names must start with. -/
  initial? : Option Char
  /-- Where the tokens are exported to. -/
  exportPath? : Option String
deriving DecidableEq, Repr

namespace Draft

/-- Nothing has been read. -/
def empty : Draft := ⟨none, [], none, none⟩

/-- Take an argument for the input file. -/
def withInput (draft : Draft) (path : String) : Except UsageError Draft :=
  if draft.input?.isSome then .error (.unexpectedArgument path)
  else if path.isEmpty then .error (.invalidValue path)
  else .ok { draft with input? := some path }

/-- Take an option without a value. -/
def withFlag (draft : Draft) (argument : String) (flag : Flag) : Except UsageError Draft :=
  if flag ∈ draft.flags then .error (.repeated argument)
  else .ok { draft with flags := draft.flags ++ [flag] }

/-- Take an option with its value: a single character, or a path that is not empty. -/
def withSetting (draft : Draft) (argument : String) (setting : Setting) (value : String) :
    Except UsageError Draft :=
  match setting with
  | .initial =>
    if draft.initial?.isSome then .error (.repeated argument)
    else
      match value.toList with
      | [initial] => .ok { draft with initial? := some initial }
      | _ => .error (.invalidValue value)
  | .exportPath =>
    if draft.exportPath?.isSome then .error (.repeated argument)
    else if value.isEmpty then .error (.invalidValue value)
    else .ok { draft with exportPath? := some value }

/-- The request, when all arguments have been read. -/
def finish (draft : Draft) : Except UsageError Request :=
  match draft.input? with
  | none => .error .missingInput
  | some input =>
    .ok <| .check
      { input
        flags := draft.flags
        initial := draft.initial?.getD Settings.defaultInitial
        exportPath? := draft.exportPath? }

/-- Take all further arguments for input files. -/
def readInputs (draft : Draft) : List String → Except UsageError Request
  | [] => draft.finish
  | path :: later => do (← draft.withInput path).readInputs later

/-- Take the letters behind a single dash, up to a letter that asks for the version; the answer is
nothing if one does. -/
def readLetters (draft : Draft) : List Char → Except UsageError (Option Draft)
  | [] => .ok (some draft)
  | letter :: later =>
    let argument := String.ofList ['-', letter]
    match Switch.letters.lookup letter with
    | some .version => .ok none
    | some (.flag flag) => do (← draft.withFlag argument flag).readLetters later
    | _ => .error (.unknownSwitch argument)

end Draft

/-- The argument looks like an option: a dash with something behind it. -/
def looksLikeOption (argument : String) : Bool :=
  match argument.toList with
  | '-' :: _ :: _ => true
  | _ => false

/-- The name of a long option and the value behind its equals sign, if there is one. -/
def splitLong (argument : List Char) : String × Option String :=
  let name := String.ofList (argument.takeWhile (· != '='))
  match argument.dropWhile (· != '=') with
  | [] => (name, none)
  | _ :: value => (name, some (String.ofList value))

/-- Read arguments behind those that a draft holds. -/
def Draft.read (draft : Draft) : List String → Except UsageError Request
  | [] => draft.finish
  | argument :: later =>
    match argument.toList with
    | ['-', '-'] => draft.readInputs later
    | '-' :: '-' :: long =>
      let (name, attached?) := splitLong long
      match Switch.longNames.lookup name, attached? with
      | none, _ => .error (.unknownSwitch argument)
      | some .version, none => .ok .version
      | some (.flag flag), none => do (← draft.withFlag argument flag).read later
      | some (.setting setting), some value => do
        (← draft.withSetting argument setting value).read later
      | some (.setting setting), none =>
        match later with
        | [] => .error (.missingValue argument)
        | value :: behind =>
          if looksLikeOption value then .error (.missingValue argument)
          else do (← draft.withSetting argument setting value).read behind
      | some _, some _ => .error (.unexpectedValue argument)
    | '-' :: letter :: letters => do
      match ← draft.readLetters (letter :: letters) with
      | none => .ok .version
      | some draft => draft.read later
    | _ => do (← draft.withInput argument).read later

/-- What a command line asks for. -/
def parse (arguments : List String) : Except UsageError Request := Draft.empty.read arguments

end CommandLine
end NovaLint
