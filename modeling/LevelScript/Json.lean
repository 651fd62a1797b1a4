import LevelScript.Number.Layout

/-!
JSON documents.

Objects are lists of fields: their order is kept, and a name may occur twice.  A document has a
compact form, without any blank, and an indented form.
-/

namespace LevelScript

/-- A JSON value. -/
inductive Json
  | null
  | bool (b : Bool)
  | int (n : Int)
  | single (x : Single)
  | text (s : String)
  | list (items : List Json)
  | object (fields : List (String × Json))
deriving Inhabited

namespace Json

/-- How one character is written inside a JSON text: only quotes, backslashes and control
characters are escaped. -/
def escapeChar (c : Char) : String :=
  match c with
  | '"' => "\\\""
  | '\\' => "\\\\"
  | '\n' => "\\n"
  | '\r' => "\\r"
  | '\t' => "\\t"
  | '\x08' => "\\b"
  | '\x0c' => "\\f"
  | c =>
    if c.toNat < 0x20 then
      let digits := Nat.toDigits 16 c.toNat
      "\\u" ++ String.ofList (List.replicate (4 - digits.length) '0' ++ digits)
    else c.toString

def escape (s : String) : String :=
  "\"" ++ String.join (s.toList.map escapeChar) ++ "\""

/-- What comes between the brackets of a list or object and its items: a comma parts them, and in
the indented form each stands on a line of its own. -/
structure Style where
  indented : Bool

/-- The text before an item at the given depth. -/
def Style.lineBreak (style : Style) (depth : Nat) : String :=
  if style.indented then "\n" ++ String.ofList (List.replicate (2 * depth) ' ') else ""

def Style.colon (style : Style) : String :=
  if style.indented then ": " else ":"

/-- Items that are already written, between brackets. -/
def Style.enclose (style : Style) (depth : Nat) (opening closing : String)
    (items : List String) : String :=
  if items.isEmpty then opening ++ closing
  else
    opening ++ ",".intercalate (items.map (style.lineBreak (depth + 1) ++ ·)) ++
      style.lineBreak depth ++ closing

mutual

def render (style : Style) (depth : Nat) : Json → String
  | null => "null"
  | bool true => "true"
  | bool false => "false"
  | int n => toString n
  | single x => x.json
  | text s => escape s
  | list items => style.enclose depth "[" "]" (renderItems style (depth + 1) items)
  | object fields => style.enclose depth "\x7b" "\x7d" (renderFields style (depth + 1) fields)

def renderItems (style : Style) (depth : Nat) : List Json → List String
  | [] => []
  | item :: rest => render style depth item :: renderItems style depth rest

def renderFields (style : Style) (depth : Nat) : List (String × Json) → List String
  | [] => []
  | (name, item) :: rest =>
    (escape name ++ style.colon ++ render style depth item) :: renderFields style depth rest

end

/-- The form without blanks. -/
def compact (value : Json) : String :=
  value.render ⟨false⟩ 0

/-- The form with two blanks of indentation for each depth. -/
def pretty (value : Json) : String :=
  value.render ⟨true⟩ 0

end Json

end LevelScript
