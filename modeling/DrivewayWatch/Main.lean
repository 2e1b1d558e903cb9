import DrivewayWatch.Arguments
import DrivewayWatch.Environment.File
import DrivewayWatch.Identifier
import DrivewayWatch.Watch
import Std.Time.DateTime.Timestamp

/-!
# The command line program

Reads the arguments, the environment and the configuration, and watches the input line by line.
Everything that is decided is decided elsewhere; here files and streams are read and written, the
clock is looked at, and random bits are drawn.

The program opens no connections.  The control server is not started, and every exchange with
another server goes without a reply.
-/

namespace DrivewayWatch.CommandLine

/-- The file of variables in the working directory. -/
def variablesFile : String := ".env"

/-- The content of a file, if it can be read. -/
def contentOf? (path : String) : IO (Option Bytes) := do
  try
    return some (← IO.FS.readBinFile path).toList
  catch _ => return none

def isDirectory (path : String) : IO Bool := do
  try
    discard <| IO.FS.Handle.mk (path ++ "/.") .read
    return true
  catch _ => return false

def filesAt (paths : List String) : IO (String → Option Bytes) := do
  let contents ← paths.mapM fun path => return (path, ← contentOf? path)
  return fun path => (contents.lookup path).join

/-- The longest pieces of a text of which names of variables can be made. -/
def wordsOf (text : List Char) : List String :=
  let isNameChar := fun c : Char => c.isAlphanum || c == '_' || c == '.'
  (text.splitBy fun a b => isNameChar a && isNameChar b).map String.ofList

/-- The variables with the given names that are set. -/
def variablesNamed (names : List String) : IO Environment := do
  let found ← names.mapM fun name => return (← IO.getEnv name).map (name, ·)
  return ⟨found.filterMap id⟩

/-- The names of the variables that the program takes something from. -/
def ownNames : List String :=
  ["DMON_CONFIG", "NTFY_TOKEN", "METRICS_ENABLED"]

/-- The environment, with the file of variables. -/
def environment : IO Environment := do
  match ← contentOf? variablesFile with
  | none => variablesNamed ownNames
  | some file =>
    let given ← variablesNamed (ownNames ++ wordsOf (Environment.File.textOf file))
    return Environment.File.provide given file

def now : IO Instant := do
  let nanoseconds := (← Std.Time.Timestamp.now).toNanosecondsSinceUnixEpoch.toInt
  return ⟨nanoseconds / 1000000000, (nanoseconds % 1000000000).toNat⟩

def newId : IO String := do
  let bytes ← IO.getRandomBytes 16
  return Identifier.ofRandom (bytes.toList.foldl (fun bits byte => bits * 256 + byte.toNat) 0)

def noReply : Net.Exchange := fun _ => none

/-- The bytes up to the end of a line; `none` at the end of the input. -/
partial def lineFrom (input : IO.FS.Stream) (reversed : Bytes) : IO (Option Bytes) := do
  match (← input.read 1).toList with
  | [] => return if reversed.isEmpty then none else some reversed.reverse
  | byte :: _ =>
    if byte = Text.Lines.lineFeed then return some reversed.reverse
    else lineFrom input (byte :: reversed)

/-- Writes the copies of photos that a step left, if there is a directory for them. -/
def writeCopies (directory : Option String) (copies : ImageCopy.Directory) : IO Unit := do
  if let some directory := directory then
    for (name, content) in copies do
      try
        IO.FS.writeBinFile (ImageCopy.pathIn directory name) ⟨content.toArray⟩
      catch problem => IO.eprintln problem.toString

/-- What surrounds the dispatching of notifications. -/
def surroundings (plan : Watch.Plan) (files : String → Option Bytes) :
    IO (Dispatch.Surroundings Instant) := do
  let copiesWork ← match plan.configuration.ntfy.copyDirectory with
    | some directory => isDirectory directory
    | none => pure false
  return { mute := .silent, now := ← now, files, copiesWork, exchange := noReply }

/-- Watches to the end of the input. -/
partial def watch (plan : Watch.Plan) (files : String → Option Bytes) (input : IO.FS.Stream)
    (state : Watch.State) : IO (Option Failure) := do
  match ← EIO.toBaseIO (lineFrom input []) with
  | .error _ => return some .input
  | .ok none => return none
  | .ok (some bytes) =>
    let line : Intake.Line := { bytes, time := ← now, id := ← newId }
    match Watch.step plan (← surroundings plan files) state line with
    | .noText => return some .input
    | .unheard => return none
    | .taken next effect =>
      if plan.prints then effect.printedLine.forM (IO.println ·)
      writeCopies plan.configuration.ntfy.copyDirectory next.dispatch.copies
      watch plan files input { next with dispatch := { next.dispatch with copies := [] } }

def openInput (path : String) : IO (Except Failure IO.FS.Stream) := do
  if path = Arguments.standardInput then return .ok (← IO.getStdin)
  else
    try
      return .ok (.ofHandle (← IO.FS.Handle.mk path .read))
    catch _ => return .error (.inputFile path)

/-- The configuration, and the files that it names. -/
def configuration (environment : Environment) (path : Option String) :
    IO (Except Failure Configuration × (String → Option Bytes)) := do
  let files ← filesAt path.toList
  match Configuration.ofFile files path with
  | .error failure => return (.error failure, files)
  | .ok named =>
    let files ← filesAt (path.toList ++ named.description.promptFiles.map (·.2))
    return (Configuration.load files environment.token path, files)

def run (environment : Environment) (arguments : Arguments) : IO (Option Failure) := do
  let (loaded, files) ← configuration environment arguments.configFile
  match loaded.bind (Watch.Plan.make · arguments.prints) with
  | .error failure => return some failure
  | .ok plan =>
    match ← openInput arguments.input with
    | .error failure => return some failure
    | .ok input => watch plan files input (.start plan)

/-- Does what the words of the command line say, and returns the exit code. -/
def follow (words : List String) : IO UInt32 := do
  let environment ← environment
  match Arguments.read environment.configFile words with
  | .error .asksForHelp =>
    (Arguments.helpLines environment.configFile).forM (IO.println ·)
    return 0
  | .error refusal =>
    IO.eprintln "the command line is not followed"
    return refusal.exitCode.toUInt32
  | .ok arguments =>
    match ← run environment arguments with
    | none => return 0
    | some failure =>
      IO.eprintln failure.message
      return 1

end DrivewayWatch.CommandLine

/-- Runs the program with the words of the command line. -/
def main (words : List String) : IO UInt32 :=
  DrivewayWatch.CommandLine.follow words
