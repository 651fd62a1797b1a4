import LevelScript.Export
import LevelScript.Play
import LevelScript.Settings.Document

/-!
The command line: what the arguments mean, and what a run does to a tree of files.
-/

namespace LevelScript

/-- What the arguments ask for. -/
structure Arguments where
  /-- The container to load. -/
  level : String
  survey : Option String
  output : String
  settings : Option String
  ticks : Option Nat
  summary : Bool
deriving DecidableEq, Repr, Inhabited

/-- A request that the arguments spell. -/
inductive Request
  | load (arguments : Arguments)
  | help
  | version
  /-- The arguments make no sense. -/
  | usage
deriving DecidableEq, Repr, Inhabited

namespace Arguments

/-- The arguments that have been read so far. -/
structure Draft where
  level : Option String
  survey : Option String
  output : Option String
  settings : Option String
  ticks : Option Nat
  noSummary : Bool

def Draft.empty : Draft :=
  ⟨none, none, none, none, none, false⟩

/-- A number of rounds: digits, after a plus or not, of a machine word. -/
def number? (text : String) : Option Nat :=
  let digits := match text.toList with
    | '+' :: rest => rest
    | chars => chars
  if digits.isEmpty || !digits.all Char.isDigit then none
  else
    let n := digits.foldl (fun n c => 10 * n + (c.toNat - '0'.toNat)) 0
    if n < UInt64.size then some n else none

/-- Sets an option that was not given before; a path must not be empty. -/
def Draft.setPath? (old : Option String) (value : String) : Option String :=
  if old.isSome || value == "" then none else some value

/-- Gives an option its value. -/
def Draft.option? (draft : Draft) (name value : String) : Option Draft :=
  match name with
  | "dti" => (setPath? draft.survey value).map fun path => { draft with survey := some path }
  | "output" => (setPath? draft.output value).map fun path => { draft with output := some path }
  | "config" => (setPath? draft.settings value).map fun path => { draft with settings := some path }
  | "ticks" =>
    if draft.ticks.isSome then none
    else (number? value).map fun n => { draft with ticks := some n }
  | _ => none

/-- The one argument that is not an option. -/
def Draft.positional? (draft : Draft) (value : String) : Option Draft :=
  (setPath? draft.level value).map fun path => { draft with level := some path }

def Draft.finish (draft : Draft) : Request :=
  match draft.level with
  | none => .usage
  | some level =>
    .load ⟨level, draft.survey, draft.output.getD "output", draft.settings, draft.ticks,
      !draft.noSummary⟩

/-- Reads arguments of which none is an option any more. -/
def readPlain (draft : Draft) : List String → Request
  | [] => draft.finish
  | value :: rest =>
    match draft.positional? value with
    | some draft => readPlain draft rest
    | none => .usage

/-- The name of a long option and the value that is attached to it. -/
def splitOption (text : List Char) : String × Option String :=
  let name := String.ofList (text.takeWhile (· != '='))
  match text.dropWhile (· != '=') with
  | [] => (name, none)
  | _ :: value => (name, some (String.ofList value))

/-- Whether an argument can stand for the value of the option before it. -/
def isValue (text : String) : Bool :=
  text == "-" || !text.startsWith "-"

/-- Reads arguments from left to right; the first that asks for help or version or makes no sense
decides. -/
def read (draft : Draft) : List String → Request
  | [] => draft.finish
  | argument :: rest =>
    match argument.toList with
    | ['-', '-'] => readPlain draft rest
    | '-' :: '-' :: text =>
      match splitOption text with
      | ("help", none) => .help
      | ("version", none) => .version
      | ("no-json", none) =>
        if draft.noSummary then .usage else read { draft with noSummary := true } rest
      | (name, some value) =>
        match draft.option? name value with
        | some draft => read draft rest
        | none => .usage
      | (name, none) =>
        match rest with
        | [] => .usage
        | value :: rest =>
          if isValue value then
            match draft.option? name value with
            | some draft => read draft rest
            | none => .usage
          else .usage
    | '-' :: 'h' :: _ => .help
    | '-' :: 'V' :: _ => .version
    | '-' :: _ :: _ => .usage
    | _ =>
      match draft.positional? argument with
      | some draft => read draft rest
      | none => .usage

end Arguments

/-- The request of a command line. -/
def Request.parse (arguments : List String) : Request :=
  Arguments.read .empty arguments

/-! ### Jobs -/

/-- Why a job failed. -/
inductive JobError
  | settings (path : String)
  | reading (path : String) (cause : FileError)
  | parsing (path : String) (cause : DataError)
  | loading (path : String) (cause : DataError)
  | creating (path : String) (cause : FileError)
  | writing (cause : FileError)
deriving DecidableEq, Repr, Inhabited

namespace JobError

/-- A failure and what caused it. -/
def withCause (failure cause : String) : String :=
  s!"Error: {failure}\n\nCaused by:\n    {cause}\n"

def message : JobError → String
  | settings path => s!"Error: loading config {path}"
  | reading path cause => withCause s!"reading {path}" cause.message
  | parsing path cause => withCause s!"parsing {path}" cause.message
  | loading path cause => withCause s!"loading {path}" cause.message
  | creating path cause => withCause s!"creating {path}" cause.message
  | writing cause => withCause "writing traces" cause.message

end JobError

/-- The work of a command line: a change of a tree of files that an error can stop. -/
abbrev Job := ExceptT JobError (StateM FileTree)

namespace Job

/-- Lets file work fail with an error of the job. -/
def filing {α : Type} (work : Filing α) (failure : FileError → JobError) : Job α :=
  fun tree =>
    match work.run tree with
    | (.ok a, tree) => (.ok a, tree)
    | (.error error, tree) => (.error (failure error), tree)

def check {ε α : Type} (result : Except ε α) (failure : ε → JobError) : Job α :=
  match result with
  | .ok a => pure a
  | .error error => throw (failure error)

def settings (arguments : Arguments) : Job Settings := do
  let tree ← get
  let base ← match arguments.settings with
    | none => pure Settings.standard
    | some path => check (Settings.ofFile (tree.read (.parse path)).toOption) fun _ => .settings path
  return match arguments.ticks with
    | none => base
    | some n => { base with tickIterations := n }

def placements (arguments : Arguments) : Job (List Placement) := do
  let tree ← get
  match arguments.survey with
  | none => return []
  | some path =>
    let bytes ← check (tree.read (.parse path)) (.reading path)
    let survey ← check (Survey.parse bytes) (.parsing path)
    return survey.placements

/-- Loads a level and writes it out. -/
def load (arguments : Arguments) : Job Unit := do
  let settings ← settings arguments
  let placements ← placements arguments
  let tree ← get
  let file ← check (tree.read (.parse arguments.level)) (.reading arguments.level)
  let level ← check (loadLevel settings placements (Container.stripLength file)).result
    (.loading arguments.level)
  let folder ← filing (Folder.create (.parse arguments.output)) (.creating arguments.output)
  filing (folder.writeLevel level arguments.summary) .writing

end Job

/-- What a run shows. -/
structure Report where
  code : UInt32
  stdout : String
  stderr : String
deriving DecidableEq, Repr, Inhabited

/-- The program's name and version. -/
def versionText : String :=
  "mdk-cmi 0.1.0\n"

def helpText : String :=
  "Decode and run the level scripts in an MDK CMI file\n\n" ++
  "Usage: mdk-cmi [OPTIONS] <CMI>\n\n" ++
  "Arguments:\n" ++
  "  <CMI>  CMI file to load\n\n" ++
  "Options:\n" ++
  "      --dti <PATH>     DTI file to seed placed entities from\n" ++
  "      --output <DIR>   Directory to write traces into [default: output]\n" ++
  "      --config <FILE>  TOML file with load settings\n" ++
  "      --ticks <N>      Override the number of delay ticks run after loading\n" ++
  "      --no-json        Skip writing summary.json\n" ++
  "  -h, --help           Print help\n" ++
  "  -V, --version        Print version\n"

/-- Runs a command line on a tree of files. -/
def runCommandLine (arguments : List String) (tree : FileTree) : Report × FileTree :=
  match Request.parse arguments with
  | .help => (⟨0, helpText, ""⟩, tree)
  | .version => (⟨0, versionText, ""⟩, tree)
  | .usage => (⟨2, "", "error: the arguments make no sense\n\nFor more information, try '--help'.\n"⟩, tree)
  | .load arguments =>
    match (Job.load arguments).run tree with
    | (.ok (), tree) => (⟨0, "", ""⟩, tree)
    | (.error error, tree) => (⟨1, "", error.message⟩, tree)

end LevelScript
