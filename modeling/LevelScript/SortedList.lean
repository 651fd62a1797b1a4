/-!
Lists in strictly ascending order, as sets that are listed in order.
-/

namespace LevelScript

variable {α : Type}

/-- Inserts an element into an ascending list, unless the list has it already. -/
def sortedInsert (lt : α → α → Bool) (a : α) : List α → List α
  | [] => [a]
  | b :: rest =>
    if lt a b then a :: b :: rest
    else if lt b a then b :: sortedInsert lt a rest
    else b :: rest

/-- Inserts elements into an ascending list one after the other. -/
def sortedUnion (lt : α → α → Bool) (set items : List α) : List α :=
  items.foldl (fun set a => sortedInsert lt a set) set

/-- The elements of a list in ascending order, each once. -/
def sortedSet (lt : α → α → Bool) (items : List α) : List α :=
  sortedUnion lt [] items

/-- Changes the value of a key in a list whose keys ascend.  A key that is not there is put at its
place, with what becomes of the initial value. -/
def sortedAlter {β : Type} (lt : α → α → Bool) (key : α) (initial : β) (change : β → β) :
    List (α × β) → List (α × β)
  | [] => [(key, change initial)]
  | (other, value) :: rest =>
    if lt key other then (key, change initial) :: (other, value) :: rest
    else if lt other key then (other, value) :: sortedAlter lt key initial change rest
    else (other, change value) :: rest

/-- The order of texts, by their characters. -/
def textLt (a b : String) : Bool :=
  a < b

/-- The order of offsets. -/
def offsetLt (a b : UInt32) : Bool :=
  a < b

/-- Compares a first key and, where it is equal, goes on with the rest. -/
def lexLt {κ : Type} [BEq κ] (lt : κ → κ → Bool) (a b : κ) (rest : Bool) : Bool :=
  lt a b || (a == b && rest)

end LevelScript
