import LevelScript.FilePath

/-!
Trees of files.

A tree holds directories and files by the names on the way from a starting directory.  Making
directories and writing files obey the rules of a file system: a name is at most 255 bytes long and
a written path less than 4096, every step on the way leads through a directory that exists, and a
directory is not overwritten.  What was made before a failure stays.
-/

namespace LevelScript

/-- Why a file or directory cannot be used. -/
inductive FileError
  | notFound
  | exists
  | notADirectory
  | isADirectory
  | nameTooLong
  /-- The path has a zero character in it. -/
  | badName
deriving DecidableEq, Repr, Inhabited

def FileError.message : FileError → String
  | notFound => "No such file or directory (os error 2)"
  | .exists => "File exists (os error 17)"
  | notADirectory => "Not a directory (os error 20)"
  | isADirectory => "Is a directory (os error 21)"
  | nameTooLong => "File name too long (os error 36)"
  | badName => "file name contained an unexpected NUL byte"

/-- Checks that a path can lead anywhere: it has no zero character, is short enough, and is not
empty. -/
def FilePath.check (path : FilePath) : Except FileError Unit :=
  if path.text.toList.contains '\x00' then .error .badName
  else if path.text.utf8ByteSize ≥ 4096 then .error .nameTooLong
  else if path.text == "" then .error .notFound
  else .ok ()

/-- What is found at an address. -/
inductive FileNode
  | directory
  | file (content : Array UInt8)
deriving DecidableEq, Repr, Inhabited

/-- The names on the way to a file or directory, from the starting directory on. -/
abbrev Address := List String

namespace Address

/-- The root of all directories. -/
def root : Address :=
  ["/"]

/-- Whether an address is the root of all or a directory above the starting one.  These are there
whatever a tree holds. -/
def isOutside (address : Address) : Bool :=
  address == root || (!address.isEmpty && address.all (· == ".."))

/-- Whether an address is inside the starting directory. -/
def isInside (address : Address) : Bool :=
  address.head?.all fun name => name != "/" && name != ".."

/-- The directory above. -/
def above (address : Address) : Address :=
  match address.getLast? with
  | none | some ".." => address ++ [".."]
  | some "/" => address
  | some _ => address.dropLast

/-- A path that leads to an address. -/
def path : Address → FilePath
  | "/" :: names => ⟨true, names⟩
  | names => ⟨false, names⟩

end Address

/-- Directories and files by their addresses, the latest first.  The starting directory itself is
always there. -/
structure FileTree where
  entries : List (Address × FileNode)
deriving DecidableEq, Repr, Inhabited

namespace FileTree

def empty : FileTree :=
  ⟨[]⟩

/-- What is at an address. -/
def find? (tree : FileTree) (address : Address) : Option FileNode :=
  if address.isEmpty || address.isOutside then some .directory
  else (tree.entries.find? (·.1 == address)).map (·.2)

def insert (tree : FileTree) (address : Address) (node : FileNode) : FileTree :=
  ⟨(address, node) :: tree.entries.filter (·.1 != address)⟩

/-- Goes from an address along the parts of a path.  Each step needs a directory to start from; the
last may lead to what does not exist. -/
def walk (tree : FileTree) (here : Address) : List String → Except FileError Address
  | [] => .ok here
  | part :: rest =>
    match tree.find? here with
    | some .directory =>
      if FilePath.isIdle part then walk tree here rest
      else if part == ".." then walk tree here.above rest
      else if part.utf8ByteSize > 255 then .error .nameTooLong
      else walk tree (here ++ [part]) rest
    | some (.file _) => .error .notADirectory
    | none => .error .notFound

/-- The address that a path leads to along some parts of it. -/
def locateAlong (tree : FileTree) (path : FilePath) (parts : List String) :
    Except FileError Address := do
  path.check
  tree.walk (if path.absolute then Address.root else []) parts

/-- The address that a path leads to. -/
def locate (tree : FileTree) (path : FilePath) : Except FileError Address :=
  tree.locateAlong path path.parts

def isDirectory (tree : FileTree) (path : FilePath) : Bool :=
  match tree.locate path with
  | .ok address => tree.find? address == some .directory
  | .error _ => false

/-- The content of a file. -/
def read (tree : FileTree) (path : FilePath) : Except FileError (Array UInt8) := do
  let address ← tree.locate path
  match tree.find? address with
  | some (.file content) => .ok content
  | some .directory => .error .isADirectory
  | none => .error .notFound

end FileTree

/-- A change of a tree that a file error can stop. -/
abbrev Filing := ExceptT FileError (StateM FileTree)

namespace Filing

/-- Makes a directory inside one that exists.  Slashes at the end of the path do not count. -/
def makeDirectory (path : FilePath) : Filing Unit := do
  let tree ← get
  let names := (path.parts.reverse.dropWhile (· == "")).reverse
  match tree.locateAlong path names with
  | .error error => throw error
  | .ok address =>
    if (tree.find? address).isSome then throw .exists
    else set (tree.insert address .directory)

/-- Makes a directory inside one that exists, unless it is there already. -/
def ensureDirectory (path : FilePath) : Filing Unit :=
  tryCatch (makeDirectory path) fun error => do
    let tree ← get
    if error = .exists && tree.isDirectory path then pure () else throw error

/-- Makes the first directory of a lineage.  Only if something on the way to it is not there are
the others made before it, the outermost first. -/
def ensureLineage : List FilePath → Filing Unit
  | [] => pure ()
  | path :: outer =>
    tryCatch (ensureDirectory path) fun error => do
      if error = .notFound then
        ensureLineage outer
        ensureDirectory path
      else throw error

/-- Makes a directory, with those on the way to it that are not there. -/
def makeDirectories (path : FilePath) : Filing Unit :=
  ensureLineage path.lineage

/-- Writes a file, in place of the file that is there if there is one.  The directories on the way
must exist. -/
def write (path : FilePath) (content : Array UInt8) : Filing Unit := do
  let tree ← get
  match tree.locate path with
  | .error error => throw error
  | .ok address =>
    if tree.find? address = some .directory then throw .isADirectory
    else set (tree.insert address (.file content))

end Filing

end LevelScript
