/-!
Written paths.

A path is kept as it is written: the parts between its slashes, of which some lead nowhere.  Paths
that lead to one place stay apart, because a path is shown and measured by its text.
-/

namespace LevelScript

/-- A path: parts with slashes between them, and one more slash at the front if the path starts at
the root of all directories. -/
structure FilePath where
  absolute : Bool
  parts : List String
deriving DecidableEq, Repr, Inhabited

namespace FilePath

/-- The empty path, which stands for the starting directory. -/
def empty : FilePath :=
  ⟨false, []⟩

/-- What stands between the slashes of a text. -/
def split : List Char → List (List Char)
  | [] => [[]]
  | c :: rest =>
    if c = '/' then [] :: split rest
    else
      match split rest with
      | [] => [[c]]
      | part :: parts => (c :: part) :: parts

/-- The parts of a text; the empty text has none. -/
def partsOf (chars : List Char) : List String :=
  if chars.isEmpty then [] else (split chars).map String.ofList

def parse (text : String) : FilePath :=
  match text.toList with
  | '/' :: rest => ⟨true, partsOf rest⟩
  | chars => ⟨false, partsOf chars⟩

def text (path : FilePath) : String :=
  (if path.absolute then "/" else "") ++ "/".intercalate path.parts

/-- Whether a part leads nowhere: there is nothing between two slashes, or a single point. -/
def isIdle (part : String) : Bool :=
  part == "" || part == "."

/-- Leaves out what leads nowhere at the end. -/
def dropIdle (parts : List String) : List String :=
  (parts.reverse.dropWhile isIdle).reverse

/-- The path without the parts at its end that lead nowhere.  A point at the very front stays: it
stands for the starting directory. -/
def trimmed : FilePath → FilePath
  | ⟨false, "." :: rest⟩ => ⟨false, "." :: dropIdle rest⟩
  | ⟨absolute, parts⟩ => ⟨absolute, dropIdle parts⟩

/-- The path without its last name, unless it has no name at all. -/
def parent? (path : FilePath) : Option FilePath :=
  let whole := path.trimmed
  if whole.parts.isEmpty then none else some (trimmed ⟨whole.absolute, whole.parts.dropLast⟩)

/-- The last name of a path, unless the path ends with a step up or at the starting directory. -/
def fileName? (path : FilePath) : Option String :=
  path.trimmed.parts.getLast?.filter fun name => name != ".." && name != "."

/-- The path that goes on with a text. -/
def push (path : FilePath) (text : String) : FilePath :=
  let before := if path.parts.getLast? == some "" then path.parts.dropLast else path.parts
  ⟨path.absolute, before ++ partsOf text.toList⟩

/-- The path with a text in place of its last name; a path that ends with no name goes on with the
text. -/
def withFileName (path : FilePath) (text : String) : FilePath :=
  match path.fileName?, path.parent? with
  | some _, some parent => parent.push text
  | _, _ => path.push text

theorem dropIdle_length_le (parts : List String) : (dropIdle parts).length ≤ parts.length := by
  simpa [dropIdle] using (List.dropWhile_sublist (l := parts.reverse) isIdle).length_le

theorem trimmed_parts_length_le (path : FilePath) :
    path.trimmed.parts.length ≤ path.parts.length := by
  unfold trimmed
  split
  · rename_i rest
    simpa using dropIdle_length_le rest
  · rename_i parts _
    exact dropIdle_length_le parts

/-- Going up ends: each path above has fewer parts. -/
theorem parent?_parts_length_lt {path parent : FilePath} (h : path.parent? = some parent) :
    parent.parts.length < path.parts.length := by
  unfold parent? at h
  simp only at h
  split at h
  · contradiction
  · rename_i hnonempty
    obtain rfl := Option.some.inj h
    have hshort := trimmed_parts_length_le ⟨path.trimmed.absolute, path.trimmed.parts.dropLast⟩
    have hwhole := trimmed_parts_length_le path
    have hpositive : 0 < path.trimmed.parts.length :=
      List.length_pos_iff.mpr (by simpa using hnonempty)
    simp only [List.length_dropLast] at hshort
    omega

/-- The path and those above it that have a name, the innermost first. -/
def lineage (path : FilePath) : List FilePath :=
  match _h : path.parent? with
  | none => []
  | some parent => path :: lineage parent
termination_by path.parts.length
decreasing_by exact parent?_parts_length_lt ‹_›

end FilePath

end LevelScript
