import LevelScript.Settings
import LevelScript.Settings.Value

/-!
Settings from text.

A settings text is a sequence of lines: a table header, or a key with a value.  It is accepted if
every key is a setting that takes such a value and nothing is defined twice; a setting that is not
mentioned keeps its standard value.
-/

namespace LevelScript

/-- A line of a settings text that says something. -/
inductive SettingLine
  | header (path : List String)
  | assign (key : List String) (value : SettingValue)

namespace SettingLine

open SettingValue

/-- A header up to its closing bracket. -/
def header? (chars : List Char) : Option (SettingLine × List Char) := do
  let (path, rest) ← key? (chars.length + 1) (skipBlanks chars)
  match skipBlanks rest with
  | ']' :: rest => return (.header path, rest)
  | _ => none

/-- A key, an equals sign and a value. -/
def assign? (chars : List Char) : Option (SettingLine × List Char) := do
  let (key, rest) ← key? (chars.length + 1) chars
  match skipBlanks rest with
  | '=' :: rest =>
    let (value, rest) ← SettingValue.read? (skipBlanks rest)
    return (.assign key value, rest)
  | _ => none

/-- A line that is not empty, up to the end of the line. -/
def read? (chars : List Char) : Option (SettingLine × List Char) := do
  let (line, rest) ← match chars with
    | '[' :: rest => header? rest
    | _ => assign? chars
  let rest ← lineEnd? rest
  return (line, rest)

/-- All lines of a text of at most `fuel` lines. -/
def readAll? : Nat → List Char → Option (List SettingLine)
  | 0, _ => none
  | fuel + 1, chars =>
    match lineEnd? chars with
    | some [] => some []
    | some rest => readAll? fuel rest
    | none => do
      let (line, rest) ← read? (skipBlanks chars)
      match rest with
      | [] => return [line]
      | _ => do
        let lines ← readAll? fuel rest
        return line :: lines

/-- Drops a byte order mark. -/
def dropMark : List Char → List Char
  | '\uFEFF' :: rest => rest
  | chars => chars

def parse? (text : String) : Option (List SettingLine) :=
  readAll? (text.length + 1) (dropMark text.toList)

end SettingLine

/-! ### Definitions -/

/-- How a path came to be defined. -/
inductive Role
  | value (v : SettingValue)
  /-- By a header of its own. -/
  | header
  /-- By the header of a table inside it. -/
  | outer
  /-- By a key of several parts. -/
  | dotted

/-- What a settings text has defined so far, and the table that new keys belong to. -/
structure Definitions where
  table : List String
  entries : List (List String × Role)

namespace Definitions

def role? (defs : Definitions) (path : List String) : Option Role :=
  (defs.entries.find? (·.1 == path)).map (·.2)

def define (defs : Definitions) (path : List String) (role : Role) : Definitions :=
  { defs with entries := (path, role) :: defs.entries }

/-- Opens the tables around a new one; a value cannot be opened. -/
def openOuter (defs : Definitions) : List (List String) → Option Definitions
  | [] => some defs
  | path :: rest =>
    match defs.role? path with
    | some (.value _) => none
    | some _ => openOuter defs rest
    | none => openOuter (defs.define path .outer) rest

/-- Opens the tables that a key of several parts goes through; neither a value nor a table with a
header of its own can be opened that way. -/
def openDotted (defs : Definitions) : List (List String) → Option Definitions
  | [] => some defs
  | path :: rest =>
    match defs.role? path with
    | some (.value _) | some .header => none
    | some _ => openDotted defs rest
    | none => openDotted (defs.define path .dotted) rest

/-- The beginnings of a path, from one part up to all but the last. -/
def beginnings : List String → List (List String)
  | [] | [_] => []
  | first :: rest => [first] :: (beginnings rest).map (first :: ·)

/-- Takes a line over, if it defines nothing a second time. -/
def take (defs : Definitions) : SettingLine → Option Definitions
  | .header path => do
    let defs ← defs.openOuter (beginnings path)
    match defs.role? path with
    | none | some .outer => return { defs.define path .header with table := path }
    | some _ => none
  | .assign key value => do
    let defs ← defs.openDotted ((beginnings key).map (defs.table ++ ·))
    match defs.role? (defs.table ++ key) with
    | none => return defs.define (defs.table ++ key) (.value value)
    | some _ => none

/-- The definitions of a whole text. -/
def ofLines? (lines : List SettingLine) : Option Definitions :=
  lines.foldlM take ⟨[], []⟩

end Definitions

/-! ### Settings -/

namespace SettingValue

/-- A whole number that is not negative. -/
def nat? : SettingValue → Option Nat
  | int n => if 0 ≤ n.toInt then some n.toInt.toNat else none
  | _ => none

def word? (value : SettingValue) : Option UInt16 := do
  let n ← value.nat?
  if n < UInt16.size then some (UInt16.ofNat n) else none

/-- Any number. -/
def single? : SettingValue → Option Single
  | int n => some (.ofInt64 n)
  | real x => some (.ofDouble x)
  | _ => none

end SettingValue

/-- The policy of a name. -/
def DoorFlagPolicy.ofName? : String → Option DoorFlagPolicy
  | "replace" => some .replace
  | "preserve_state" => some .preserveState
  | _ => none

def DoorFlagPolicy.name : DoorFlagPolicy → String
  | replace => "replace"
  | preserveState => "preserve_state"

/-- A policy by its name, or by a table whose one field has its name. -/
def SettingValue.policy? : SettingValue → Option DoorFlagPolicy
  | text name | choice name => DoorFlagPolicy.ofName? name
  | _ => none

/-- Why there are no settings. -/
inductive SettingsError
  /-- The file is missing, or is no text. -/
  | unreadable
  /-- The text says something else than settings. -/
  | malformed
deriving DecidableEq, Repr, Inhabited

namespace Settings

/-- Sets one setting by its name. -/
def set? (settings : Settings) (name : String) (value : SettingValue) : Option Settings :=
  match name with
  | "tick_iterations" => value.nat?.map fun n => { settings with tickIterations := n }
  | "tick_delta" => value.single?.map fun x => { settings with tickDelta := x }
  | "max_instructions" => value.nat?.map fun n => { settings with maxInstructions := n }
  | "max_call_depth" => value.nat?.map fun n => { settings with maxCallDepth := n }
  | "default_health" => value.word?.map fun n => { settings with defaultHealth := n }
  | "door_open_distance" => value.single?.map fun x => { settings with doorOpenDistance := x }
  | "door_flag_policy" => value.policy?.map fun p => { settings with doorFlagPolicy := p }
  | _ => none

/-- The fields of a table. -/
def fieldsOf (defs : Definitions) (table : String) : List String :=
  (defs.entries.filterMap fun entry =>
    match entry.1 with
    | [outer, field] => if outer == table then some field else none
    | _ => none).eraseDups

/-- A table spelled out over several lines, as the choice that its one field makes. -/
def tableValue? (defs : Definitions) (table : String) : Option SettingValue :=
  let isDeeper := defs.entries.any fun entry => entry.1.length > 2
  match fieldsOf defs table, isDeeper with
  | [field], false =>
    match defs.role? [table, field] with
    | some (.value .empty) | some .header => some (.choice field)
    | _ => none
  | _, _ => none

/-- Takes over what one path defines; a path inside a table is taken over with its table. -/
def adopt? (defs : Definitions) (settings : Settings) (entry : List String × Role) :
    Option Settings :=
  match entry with
  | ([name], .value value) => settings.set? name value
  | ([name], _) => do
    let value ← tableValue? defs name
    settings.set? name value
  | _ => some settings

/-- The settings that a text gives. -/
def parse (text : String) : Except SettingsError Settings :=
  let result : Option Settings := do
    let lines ← SettingLine.parse? text
    let defs ← Definitions.ofLines? lines
    defs.entries.foldlM (adopt? defs) standard
  match result with
  | some settings => .ok settings
  | none => .error .malformed

/-- The settings that a file gives, `none` for a file that does not exist. -/
def ofFile (content : Option (Array UInt8)) : Except SettingsError Settings :=
  match content with
  | none => .error .unreadable
  | some bytes =>
    match String.fromUTF8? ⟨bytes⟩ with
    | none => .error .unreadable
    | some text => parse text

end Settings

end LevelScript
