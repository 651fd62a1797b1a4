import LevelScript.Json
import LevelScript.Text.Quoted

/-!
Tables of named values.

Entries keep the order in which they were added, a name may be given twice, and a lookup finds the
first entry of the name.
-/

namespace LevelScript

/-- Named values in order of insertion. -/
structure NamedTable (α : Type) where
  entries : List (String × α)
deriving DecidableEq, Repr

namespace NamedTable

variable {α : Type}

def empty : NamedTable α :=
  ⟨[]⟩

instance : Inhabited (NamedTable α) := ⟨empty⟩

/-- Adds an entry at the end, also if the name is taken. -/
def insert (table : NamedTable α) (name : String) (value : α) : NamedTable α :=
  ⟨table.entries ++ [(name, value)]⟩

/-- The value of the first entry of that name. -/
def get? (table : NamedTable α) (name : String) : Option α :=
  (table.entries.find? (·.1 == name)).map (·.2)

/-- The index of the first entry of that name. -/
def indexOf? (table : NamedTable α) (name : String) : Option Nat :=
  table.entries.findIdx? (·.1 == name)

/-- Replaces the value of the first entry of that name; a name without entry changes nothing. -/
def setIn (name : String) (value : α) : List (String × α) → List (String × α)
  | [] => []
  | entry :: rest =>
    if entry.1 == name then (name, value) :: rest else entry :: setIn name value rest

def set (table : NamedTable α) (name : String) (value : α) : NamedTable α :=
  ⟨setIn name value table.entries⟩

def size (table : NamedTable α) : Nat :=
  table.entries.length

/-- The table as text, each value as `showValue` writes it. -/
def plain (table : NamedTable α) (showValue : α → String) : String :=
  let entries := table.entries.map fun (name, value) => quote name ++ ": " ++ showValue value
  "\x7b" ++ ", ".intercalate entries ++ "\x7d"

def json (table : NamedTable α) (value : α → Json) : Json :=
  .object (table.entries.map fun entry => (entry.1, value entry.2))

end NamedTable

end LevelScript
