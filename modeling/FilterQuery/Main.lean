import FilterQuery.CommandLine.Document
import Std.Time.Zoned

/-!
# The program

Runs the command line with the files, the environment and the clock of the process.
-/

set_option autoImplicit false

namespace FilterQuery.CommandLine

def contentAt (path : String) : IO Content := do
  try
    return .text (← IO.FS.readFile path)
  catch
    | .noFileOrDirectory .. => return .nothing
    | .inappropriateType .. => return .directory
    | .permissionDenied .. => return .closed "[Errno 13] Permission denied"
    | .userError detail => return .undecodable detail
    | error => throw error

def namedContents (arguments : List String) : IO (List (String × Content)) :=
  match readOptions arguments with
  | .error _ => return []
  | .ok options =>
      (options.config.toList ++ options.fieldsFile.toList).mapM fun path =>
        return (path, ← contentAt path)

def settingVariables : IO Environment := do
  let pairs ← Config.Setting.all.mapM fun setting =>
    return (setting.variableName, ← IO.getEnv setting.variableName)
  return pairs.filterMap fun (name, value) => value.map fun value => (name, value)

/-- The time on the wall clock of the local zone, or on that of UTC when the zone is not known. -/
def currentMoment : IO Moment := do
  let offset : Int ←
    try
      pure ((← Std.Time.DateTime.now).timezone.offset.second.val * secondMicros)
    catch _ => pure 0
  let nanoseconds := (← Std.Time.Timestamp.now).toNanosecondsSinceUnixEpoch.val
  let wall : Int := nanoseconds / 1000 + offset
  return ⟨wall, offset⟩

end FilterQuery.CommandLine

open FilterQuery CommandLine

def main (arguments : List String) : IO UInt32 := do
  let contents ← namedContents arguments
  let current ← currentMoment
  let surroundings : Surroundings := {
    reader := readDocument
    content := fun path => ((contents.find? fun file => file.1 = path).map (·.2)).getD .nothing
    environment := ← settingVariables
    zone := current.offset
    current }
  match run surroundings arguments with
  | .finished code output error =>
      IO.print output
      IO.eprint error
      return UInt32.ofNat code
  | .help =>
      IO.print usageText
      return 0
  | .usage error =>
      IO.eprintln error.message
      IO.eprint usageText
      return 2
  | .broken breakdown =>
      IO.eprintln breakdown.message
      return 1
