import LevelScript.Main
import LevelScript.Unread
import LevelScript.Proofs.Scan
import LevelScript.Proofs.Step
import LevelScript.Proofs.Command
import LevelScript.Proofs.Growth
import LevelScript.Proofs.Moves
import LevelScript.Proofs.Ownership
import LevelScript.Proofs.Frame
import LevelScript.Proofs.Chronicle
import LevelScript.Proofs.Decoding
import LevelScript.Proofs.Continuity
import LevelScript.Proofs.MainBlock
import LevelScript.Proofs.Targets
import LevelScript.Proofs.Blocks
import LevelScript.Proofs.Search
import LevelScript.Proofs.Usage
import LevelScript.Proofs.Coverage
import LevelScript.Proofs.Everywhere
import LevelScript.Proofs.Coherence
import LevelScript.Proofs.Extent
import LevelScript.Proofs.Bounds
import LevelScript.Proofs.Blame
import LevelScript.Proofs.Company
import LevelScript.Proofs.Failures
import LevelScript.Proofs.Encoding
import LevelScript.Proofs.Truncation
import LevelScript.Proofs.Folders
import LevelScript.Proofs.Leeway
import LevelScript.Proofs.Seclusion
import LevelScript.Proofs.Traces
import LevelScript.Proofs.Progress
import LevelScript.Proofs.Stillness
import LevelScript.Proofs.Atomicity
import LevelScript.Proofs.Origins
import LevelScript.Proofs.Reach
import LevelScript.Proofs.Routing
import LevelScript.Proofs.Countdown
import LevelScript.Proofs.Rehearsals
import LevelScript.Proofs.Newcomers
import LevelScript.Proofs.FreeNames
import LevelScript.Proofs.Operands
import LevelScript.Proofs.Surveys
import LevelScript.Proofs.Seeding
import LevelScript.Proofs.Destruction
import LevelScript.Proofs.Doors
import LevelScript.Proofs.Filings
import LevelScript.Proofs.LengthField
import LevelScript.Proofs.Confinement
import LevelScript.Proofs.TextFields
import LevelScript.Proofs.ScriptFiles
import LevelScript.Proofs.Unread
import LevelScript.Proofs.Ranges
import LevelScript.Proofs.Readers
