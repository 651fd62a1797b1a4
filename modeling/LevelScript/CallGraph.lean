import LevelScript.Container
import LevelScript.Listing

/-!
The call graph: every script that the tables of a container reach, and who calls it.

The search starts from the tables and follows the calls of each script it lists.  A script is
listed once; each further way to it only adds to its origins, and to what the actor runs that the
way leads to.
-/

namespace LevelScript

/-- One way in which a script comes to be run. -/
structure Origin where
  arena : String
  /-- The actor whose script makes the call; an entry of a table is its own source. -/
  source : String
  /-- The calling script, zero for an entry of a table. -/
  sourceOffset : UInt32
  /-- The actor on which the script runs. -/
  target : String
  reason : String
deriving DecidableEq, Repr, Inhabited

namespace Origin

/-- Origins are ordered field by field. -/
def lt (a b : Origin) : Bool :=
  lexLt textLt a.arena b.arena <| lexLt textLt a.source b.source <|
    lexLt offsetLt a.sourceOffset b.sourceOffset <| lexLt textLt a.target b.target <|
      textLt a.reason b.reason

/-- The origin of an entry of a table. -/
def ofTable (arena name reason : String) : Origin :=
  ⟨arena, name, 0, name, reason⟩

/-- The origin that a call gives the called script, by way of the origin of the caller. -/
def ofCall (caller : Origin) (offset : UInt32) (call : Call) : Origin :=
  ⟨caller.arena, caller.target, offset, call.name, call.reason⟩

end Origin

/-- A listed script with its origins in order. -/
structure Script where
  listing : Listing
  origins : List Origin
deriving DecidableEq, Repr, Inhabited

namespace Script

def offset (script : Script) : UInt32 :=
  script.listing.offset

/-- Whether the script runs on the actor of that name. -/
def isFor (script : Script) (name : String) : Bool :=
  script.origins.any (·.target == name)

/-- The name of the script's file for an actor: its offset and the reasons why the actor runs it. -/
def title (script : Script) (name : String) : String :=
  let reasons := (script.origins.filter (·.target == name)).map (·.reason)
  String.join (hexOffset script.offset.toNat :: (sortedSet textLt reasons).map (" " ++ ·))

/-- The listing under a head that tells who calls the script for an actor, and who shares it. -/
def report (script : Script) (name : String) : String :=
  let own := script.origins.filter (·.target == name)
  let shared := script.origins.filter (·.target != name)
  let ownLine := fun (o : Origin) =>
    s!"\t[{o.arena}] from {o.source} ({hexOffset o.sourceOffset.toNat}): {o.reason}\n"
  let sharedLine := fun (o : Origin) =>
    s!"\t[{o.arena}] {o.target} from {o.source} ({hexOffset o.sourceOffset.toNat}): {o.reason}\n"
  "Called by:\n" ++ String.join (own.map ownLine) ++
    (if shared.isEmpty then "" else "\nShared by:\n" ++ String.join (shared.map sharedLine)) ++
    "\n" ++ script.listing.text

end Script

/-- What an actor of some name runs throughout a level, and what these scripts refer to. -/
structure Usage where
  arenas : List String
  scripts : List UInt32
  animations : List Animation
  paths : List UInt32
deriving DecidableEq, Repr, Inhabited

namespace Usage

def empty : Usage :=
  ⟨[], [], [], []⟩

/-- Takes in a script that is run in an arena. -/
def add (usage : Usage) (arena : String) (listing : Listing) : Usage where
  arenas := sortedInsert textLt arena usage.arenas
  scripts := sortedInsert offsetLt listing.offset usage.scripts
  animations := sortedUnion Animation.lt usage.animations listing.animations
  paths := sortedUnion offsetLt usage.paths listing.paths

end Usage

/-- The scripts that were found, and who runs them. -/
structure CallGraph where
  /-- All scripts in ascending order of their offsets. -/
  scripts : List Script
  /-- What each actor runs, in ascending order of their names. -/
  usages : List (String × Usage)
deriving DecidableEq, Repr, Inhabited

namespace CallGraph

def empty : CallGraph :=
  ⟨[], []⟩

def find? (graph : CallGraph) (offset : UInt32) : Option Script :=
  graph.scripts.find? (·.offset == offset)

/-- Takes a script in among what the actor of an origin runs. -/
def credit (listing : Listing) (usages : List (String × Usage)) (origin : Origin) :
    List (String × Usage) :=
  sortedAlter textLt origin.target .empty (·.add origin.arena listing) usages

/-- Adds an origin to the script at an offset, which the actor of the origin then runs. -/
def addOrigin (graph : CallGraph) (offset : UInt32) (origin : Origin) : CallGraph where
  scripts := graph.scripts.map fun script =>
    if script.offset == offset then
      { script with origins := sortedInsert Origin.lt origin script.origins }
    else script
  usages :=
    match graph.find? offset with
    | some script => credit script.listing graph.usages origin
    | none => graph.usages

/-- Adds a script at its place, which the actors of its origins then run. -/
def insert (graph : CallGraph) (script : Script) : CallGraph where
  scripts := sortedInsert (fun a b => offsetLt a.offset b.offset) script graph.scripts
  usages := script.origins.foldl (credit script.listing) graph.usages

/-! ### Search -/

/-- An offset to look at, and the way that led there. -/
abbrev Lead := UInt32 × Origin

/-- The name and the id within a key of the table of init scripts. -/
def splitId (name : String) : String × String :=
  let reversed := name.toList.reverse
  match reversed.dropWhile (· != '_') with
  | [] => (name, "None")
  | _ :: rest =>
    (String.ofList rest.reverse, String.ofList (reversed.takeWhile (· != '_')).reverse)

def initLead (entry : OffsetEntry) : Except DataError Lead := do
  let (arena, name) ← Container.splitKey entry.1
  let (name, id) := splitId name
  return (entry.2, .ofTable arena name s!"Init (id {id})")

def setupLead (entry : OffsetEntry) : Except DataError Lead := do
  let (arena, name) ← Container.splitKey entry.1
  return (entry.2, .ofTable arena name "Setup")

def arenaLead (record : ArenaRecord) : Lead :=
  (record.script, .ofTable record.name record.name "Arena")

/-- The entries of the tables, the last one first. -/
def tableLeads (container : Container) : Except DataError (List Lead) := do
  let inits ← container.inits.mapM initLead
  let setups ← container.setups.mapM setupLead
  return (inits ++ setups ++ container.arenas.map arenaLead).reverse

/-- The calls of a script that was just listed, the last one first. -/
def callLeads (origin : Origin) (listing : Listing) : List Lead :=
  (listing.calls.map fun call => (call.offset, origin.ofCall listing.offset call)).reverse

/-- Follows leads, the latest first.  Each new script takes one unit of fuel; a lead to a script
that is known takes none. -/
def search (bytes : Bytes) (fuel : Nat) (leads : List Lead) (graph : CallGraph)
    (reads : List Span) : CallGraph × List Span :=
  match leads with
  | [] => (graph, reads)
  | (offset, origin) :: rest =>
    if offset = 0 then search bytes fuel rest graph reads
    else
      match graph.find? offset with
      | some _ => search bytes fuel rest (graph.addOrigin offset origin) reads
      | none =>
        match fuel with
        | 0 => (graph, reads)
        | fuel + 1 =>
          let (listing, touched) := Listing.explore bytes offset
          search bytes fuel (callLeads origin listing ++ rest)
            (graph.insert ⟨listing, [origin]⟩) (touched ++ reads)
termination_by (fuel, leads.length)

/-- Lists all scripts that the tables reach, and which bytes that read.  A script starts at an
entry of a table or at a word of the buffer, which bounds their number. -/
def explore (container : Container) (bytes : Bytes) :
    Except DataError (CallGraph × List Span) := do
  let leads ← tableLeads container
  return search bytes (leads.length + bytes.size) leads empty []

/-- Lists all scripts that the tables reach. -/
def build (container : Container) (bytes : Bytes) : Except DataError CallGraph := do
  let (graph, _) ← explore container bytes
  return graph

/-! ### By actor -/

/-- The names of all actors that run a script, in order. -/
def actors (graph : CallGraph) : List String :=
  graph.usages.map Prod.fst

/-- What the actor of a name runs. -/
def usage (graph : CallGraph) (name : String) : Usage :=
  (graph.usages.lookup name).getD .empty

end CallGraph

end LevelScript
