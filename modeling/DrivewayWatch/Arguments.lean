/-!
# Command line arguments

Words that begin with two dashes choose something; a value stands behind an equals sign or is the
next word.  The configuration file can also be named from outside.
-/

namespace DrivewayWatch

/-- What the command line says. -/
structure Arguments where
  configFile : Option String
  isVerbose : Bool
  prints : Bool
  input : String
  deriving Repr, DecidableEq

namespace Arguments

/-- Why a command line is not followed. -/
inductive Refusal where
  | asksForHelp
  | unknown
  | repeated
  | missingValue
  | needlessValue
  deriving Repr, DecidableEq

/-- What can be chosen with a value. -/
inductive Choice where
  | configFile
  | input
  deriving Repr, DecidableEq

/-- What can be switched on. -/
inductive Switch where
  | verbose
  | printing
  | help
  deriving Repr, DecidableEq

/-- What has been found so far. -/
structure Found where
  configFile : Option String
  input : Option String
  isVerbose : Bool
  prints : Bool
  deriving Repr, DecidableEq

/-- A choice that waits for its value, or that has one which is not checked yet. -/
abbrev Pending : Type := Option (Choice × Option String)

def choice? (name : String) : Option Choice :=
  if name = "config" then some .configFile
  else if name = "input" then some .input
  else none

def switch? (name : String) : Option Switch :=
  if name = "debug" then some .verbose
  else if name = "print" then some .printing
  else if name = "help" then some .help
  else none

namespace Found

def empty : Found :=
  ⟨none, none, false, false⟩

def checkedPath (path : String) : Except Refusal String :=
  if path.isEmpty then .error .missingValue else .ok path

/-- Takes the value of a choice; each may be made once. -/
def choose (found : Found) (value : String) : Choice → Except Refusal Found
  | .configFile =>
    if found.configFile.isSome then .error .repeated
    else (checkedPath value).map fun path => { found with configFile := some path }
  | .input =>
    if found.input.isSome then .error .repeated else .ok { found with input := some value }

/-- Takes a switch; each may be given once. -/
def switchOn (found : Found) : Switch → Except Refusal Found
  | .verbose => if found.isVerbose then .error .repeated else .ok { found with isVerbose := true }
  | .printing => if found.prints then .error .repeated else .ok { found with prints := true }
  | .help => .error .asksForHelp

def settle (found : Found) : Pending → Except Refusal Found
  | none => .ok found
  | some (_, none) => .error .missingValue
  | some (choice, some value) => found.choose value choice

end Found

/-- The name and the value of a word behind its two dashes. -/
def nameAndValue (text : List Char) : String × Option String :=
  let name := text.takeWhile (· != '=')
  (String.ofList name,
    match text.drop name.length with
    | [] => none
    | _ :: value => some (String.ofList value))

def takeLong (found : Found) (pending : Pending) (text : List Char) :
    Except Refusal (Found × Pending) :=
  let (name, value) := nameAndValue text
  match choice? name, switch? name, value with
  | some choice, _, some value => do return (← (← found.settle pending).choose value choice, none)
  | some choice, _, none => do return (← found.settle pending, some (choice, none))
  | none, some _, some _ => .error .needlessValue
  | none, some switch, none => do return (← (← found.settle pending).switchOn switch, none)
  | none, none, _ => .error .unknown

def takeWord (found : Found) (pending : Pending) (word : String) :
    Except Refusal (Found × Pending) :=
  match word.toList, pending with
  | '-' :: '-' :: text, _ => takeLong found pending text
  | '-' :: 'h' :: _, _ => do return (← (← found.settle pending).switchOn .help, none)
  | '-' :: _ :: _, _ => .error .unknown
  | _, some (choice, none) => .ok (found, some (choice, some word))
  | _, _ => .error .unknown

/-- Takes words one after another.  Nothing may follow a word of two dashes. -/
def takeAll (found : Found) (pending : Pending) : List String → Except Refusal Found
  | [] => found.settle pending
  | word :: words =>
    if word = "--" then
      if words.isEmpty then found.settle pending else .error .unknown
    else do
      let (found, pending) ← takeWord found pending word
      takeAll found pending words

def standardInput : String := "-"

/-- Reads the words behind the name of the program.  A configuration file that is named from outside
counts if none is named here. -/
def read (fileFromOutside : Option String) (words : List String) : Except Refusal Arguments := do
  let found ← takeAll .empty none words
  let configFile ← match found.configFile, fileFromOutside with
    | some path, _ => .ok (some path)
    | none, some path => (Found.checkedPath path).map some
    | none, none => .ok none
  return {
    configFile
    isVerbose := found.isVerbose
    prints := found.prints
    input := found.input.getD standardInput }

def helpLines (fileFromOutside : Option String) : List String :=
  ["Watches a driveway for arriving objects and sends notifications",
    "",
    "Usage: driveway-monitor [OPTIONS]",
    "",
    "Options:",
    "      --config <CONFIG>  Path to the JSON config file [env: DMON_CONFIG=" ++
      fileFromOutside.getD "" ++ "]",
    "      --debug            Print debug-level logs (to stderr)",
    "      --print            Print notifications to stdout; disable ntfy",
    "      --input <INPUT>    Newline-delimited JSON detection records; \x60-\x60 reads stdin " ++
      "[default: -]",
    "  -h, --help             Print help"]

/-- What the program exits with when a command line is not followed. -/
def Refusal.exitCode : Refusal → UInt8
  | asksForHelp => 0
  | _ => 2

end Arguments

end DrivewayWatch
