import NovaLint.CommandLine.Run

/-!
# The program

Reads and writes files as a run asks for, and prints what it says.
-/

namespace NovaLint
namespace CommandLine

/-- The reason why the operating system refused a file. -/
def fileErrorOf : IO.Error → FileError
  | .noFileOrDirectory .. => .notFound
  | .inappropriateType _ code _ => if code = 21 then .isDirectory else .notDirectory
  | error => .other error.toString

/-- Read the text of a file. -/
def readSource (path : String) : IO (Except FileError String) := do
  match ← (IO.FS.readBinFile path).toBaseIO with
  | .error error => return .error (fileErrorOf error)
  | .ok content =>
    match String.fromUTF8? content with
    | some text => return .ok text
    | none => return .error .notText

/-- Print what a run says and return its exit status. -/
def Output.report (output : Output) : IO UInt32 := do
  IO.print output.stdout
  IO.eprint output.stderr
  return output.exit.toUInt32

/-- Write the file that a plan asks for, if it does, and tell how the run ends. -/
def Plan.carryOut (plan : Plan) : IO Output := do
  match plan.export? with
  | none => return plan.output
  | some file =>
    match ← (IO.FS.writeFile file.path file.content).toBaseIO with
    | .ok () => return file.complete plan.output (.ok ())
    | .error error => return file.complete plan.output (.error (fileErrorOf error))

end CommandLine
end NovaLint

open NovaLint CommandLine

/-- Check the file that the arguments name. -/
def main (arguments : List String) : IO UInt32 := do
  match parse arguments with
  | .error error => error.output.report
  | .ok .version => versionOutput.report
  | .ok (.check options) =>
    let plan := options.plan (← readSource options.input)
    (← plan.carryOut).report
