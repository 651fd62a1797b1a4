import LevelScript.CommandLine

/-!
The program: it takes the files that the arguments name from the disk, runs the command line on
them, and puts on the disk what the run has made.
-/

namespace LevelScript.Main

open LevelScript

/-- What is at a path on the disk. -/
def look (path : String) : IO (Option FileNode) := do
  try
    let content ← IO.FS.readBinFile path
    return some (.file content.data)
  catch error =>
    return match error with
      | .inappropriateType .. => some .directory
      | _ => none

/-- Takes what is at a path on the disk into a tree. -/
def fetch (tree : FileTree) (path : FilePath) : IO FileTree := do
  match tree.locate path, ← look path.text with
  | .ok address, some node => return tree.insert address node
  | _, _ => return tree

/-- The paths that a request looks at, the outermost directories first. -/
def sources : Request → List FilePath
  | .load arguments =>
    (arguments.level :: arguments.output :: arguments.survey.toList ++ arguments.settings.toList)
      |>.flatMap fun text => (FilePath.parse text).lineage.reverse
  | _ => []

/-- Puts one entry of a tree on the disk. -/
def store (address : Address) (node : FileNode) : IO Unit :=
  match node with
  | .directory => IO.FS.createDirAll address.path.text
  | .file content => IO.FS.writeBinFile address.path.text ⟨content⟩

/-- Runs the program.  A first run tells which files the work is about, so that the second meets
all that is already on the disk. -/
def run (arguments : List String) : IO UInt32 := do
  let given ← (sources (Request.parse arguments)).foldlM fetch FileTree.empty
  let (_, touched) := runCommandLine arguments given
  let before ← (touched.entries.reverse.map (·.1.path)).foldlM fetch given
  let (report, after) := runCommandLine arguments before
  for (address, node) in after.entries.reverse do
    if before.find? address != some node then store address node
  IO.print report.stdout
  IO.eprint report.stderr
  return report.code

end LevelScript.Main

def main (arguments : List String) : IO UInt32 :=
  LevelScript.Main.run arguments
