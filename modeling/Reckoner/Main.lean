import Std.Time.DateTime.Timestamp
import Reckoner.Launch

/-!
The program as it is started from a shell. What a run may look at is read into a disk beforehand,
and what the run changed on it is written back afterwards. A shell gives the program no hold on the
terminal, so a front end ends here as it does where there is none.
-/

namespace Reckoner.Shell

/-- The place that relative paths start from. -/
def here : Place := [['.']]

/-- The place of a path. -/
def placeOf (path : Text) : Place :=
  (if Path.isAbsolute path then [] else here) ++ (Path.steps path).filter (· ≠ ['.'])

/-- The places on the way to a place, and the place itself. -/
def wayTo (place : Place) : List Place :=
  (List.range place.length).map (fun count => place.take (count + 1))

/-- The path of a place. -/
def pathOf (place : Place) : String :=
  String.ofList (Text.join ['/'] (if here.isPrefixOf place then place else [] :: place))

/-- What is at a path. -/
def entryAt (path : String) : IO (Option DiskEntry) := do
  match ← (IO.FS.readFile path).toBaseIO with
  | .ok content => return some (.file content.toList)
  | .error (.inappropriateType ..) => return some .directory
  | .error _ => return none

/-- A disk that holds what is at some places and on the way to them. -/
def readDisk (places : List Place) : IO Disk :=
  (places.flatMap wayTo).foldlM (fun disk place => do
    match ← entryAt (pathOf place) with
    | some entry => return disk.put place entry
    | none => return disk) { entries := [(here, .directory)], working := here }

/-- Writes back what differs from the disk as it was. A failure leaves a file as it is. -/
def writeDisk (was changed : Disk) : IO Unit :=
  changed.entries.forM (fun (place, entry) => do
    unless was.get? place = some entry do
      let path := pathOf place
      let _ ← (match entry with
        | .directory => IO.FS.createDirAll path
        | .file content => IO.FS.writeFile path (String.ofList content)).toBaseIO)

/-- The time. -/
def currentMoment : IO Moment := do
  let nanos := (← Std.Time.Timestamp.now).toNanosecondsSinceUnixEpoch.val
  return ⟨nanos / Moment.secondNanos, (nanos % Moment.secondNanos).toNat⟩

/-- The text of a name in the environment, if it has one. -/
def environmentText (name : String) : IO (Option Text) := do
  return (← IO.getEnv name).map String.toList

/-- Runs the program with its arguments and gives the exit code. -/
def run (arguments : List String) : IO UInt32 := do
  let launch : Launch := {
    arguments := arguments.map String.toList
    dataHome := ← environmentText "CYBERCALC_HOME"
    home := ← environmentText "HOME"
    disk := {}
    now := ← currentMoment }
  let disk ← readDisk (launch.paths.map placeOf)
  let outcome := { launch with disk := disk }.run
  writeDisk disk outcome.disk
  (← IO.getStdout).putStr (String.ofList outcome.output)
  (← IO.getStderr).putStr (String.ofList outcome.messages)
  return outcome.code.toUInt32

end Reckoner.Shell

/-- The entry point of the program. -/
def main (arguments : List String) : IO UInt32 := Reckoner.Shell.run arguments
