/-!
Values in a settings text.

Settings are written in TOML.  Of its values only numbers, texts and the ways to pick one of
several choices can be a setting; a reader for any of the others would only serve to refuse it
later.  A reader takes the text from where it stands and gives the value and the rest, or nothing
where the text is not well-formed.
-/

namespace LevelScript

/-- A value that a setting can have. -/
inductive SettingValue
  | int (n : Int64)
  | real (x : Float)
  | text (s : String)
  /-- An empty table or list. -/
  | empty
  /-- A table whose one field is empty. -/
  | choice (name : String)
deriving Inhabited

namespace SettingValue

/-! ### Blanks and lines -/

def isBlank (c : Char) : Bool :=
  c == ' ' || c == '\t'

def skipBlanks (chars : List Char) : List Char :=
  chars.dropWhile isBlank

/-- The characters that a line may hold: no control characters but the tab. -/
def isLineChar (c : Char) : Bool :=
  c == '\t' || (0x20 ≤ c.toNat && c.toNat != 0x7f)

/-- The rest after a line break. -/
def lineBreak? : List Char → Option (List Char)
  | '\n' :: rest => some rest
  | '\r' :: '\n' :: rest => some rest
  | _ => none

/-- The rest after a comment, if one starts here. -/
def skipComment : List Char → List Char
  | '#' :: rest => rest.dropWhile isLineChar
  | chars => chars

/-- The rest after the end of a line, with a comment before it or not. -/
def lineEnd? (chars : List Char) : Option (List Char) :=
  match skipComment (skipBlanks chars) with
  | [] => some []
  | rest => lineBreak? rest

/-! ### Texts -/

def hexValue? (c : Char) : Option Nat :=
  if c.isDigit then some (c.toNat - '0'.toNat)
  else if 'a' ≤ c ∧ c ≤ 'f' then some (c.toNat - 'a'.toNat + 10)
  else if 'A' ≤ c ∧ c ≤ 'F' then some (c.toNat - 'A'.toNat + 10)
  else none

/-- The number that hexadecimal digits stand for. -/
def hexNumber? (digits : List Char) : Option Nat :=
  digits.foldlM (fun n c => (hexValue? c).map (16 * n + ·)) 0

/-- The character of a code point. -/
def charOfCode? (digits : List Char) : Option Char := do
  let n ← hexNumber? digits
  if n.isValidChar then some (Char.ofNat n) else none

/-- The character that a letter after a backslash stands for. -/
def escaped? : Char → Option Char
  | 'b' => some '\x08'
  | 't' => some '\t'
  | 'n' => some '\n'
  | 'f' => some '\x0c'
  | 'r' => some '\r'
  | '"' => some '"'
  | '\\' => some '\\'
  | _ => none

/-- A text with escapes up to its closing quote. -/
def escapedBody : List Char → Option (List Char × List Char)
  | '"' :: rest => some ([], rest)
  | '\\' :: 'u' :: a :: b :: c :: d :: rest => do
    let char ← charOfCode? [a, b, c, d]
    let (body, rest) ← escapedBody rest
    return (char :: body, rest)
  | '\\' :: 'U' :: a :: b :: c :: d :: e :: f :: g :: h :: rest => do
    let char ← charOfCode? [a, b, c, d, e, f, g, h]
    let (body, rest) ← escapedBody rest
    return (char :: body, rest)
  | '\\' :: letter :: rest => do
    let char ← escaped? letter
    let (body, rest) ← escapedBody rest
    return (char :: body, rest)
  | c :: rest =>
    if isLineChar c && c != '\\' then do
      let (body, rest) ← escapedBody rest
      return (c :: body, rest)
    else none
  | [] => none

/-- A text without escapes up to its closing quote. -/
def literalBody : List Char → Option (List Char × List Char)
  | '\'' :: rest => some ([], rest)
  | c :: rest =>
    if isLineChar c then do
      let (body, rest) ← literalBody rest
      return (c :: body, rest)
    else none
  | [] => none

/-- Whether only blanks stand before the end of the line. -/
def isLineTail (chars : List Char) : Bool :=
  (lineBreak? (skipBlanks chars)).isSome

/-- A text with escapes over several lines, up to its three closing quotes; `joining` tells that
blanks and line breaks are skipped, after a backslash at the end of a line. -/
def escapedLines (joining : Bool) : List Char → Option (List Char × List Char)
  | '"' :: '"' :: '"' :: rest => some ([], rest)
  | '\r' :: '\n' :: rest => do
    let (body, rest) ← escapedLines joining rest
    return (if joining then body else '\n' :: body, rest)
  | '\\' :: 'u' :: a :: b :: c :: d :: rest => do
    let char ← charOfCode? [a, b, c, d]
    let (body, rest) ← escapedLines false rest
    return (char :: body, rest)
  | '\\' :: 'U' :: a :: b :: c :: d :: e :: f :: g :: h :: rest => do
    let char ← charOfCode? [a, b, c, d, e, f, g, h]
    let (body, rest) ← escapedLines false rest
    return (char :: body, rest)
  | '\\' :: letter :: rest =>
    if isLineTail (letter :: rest) then escapedLines true (letter :: rest)
    else do
      let char ← escaped? letter
      let (body, rest) ← escapedLines false rest
      return (char :: body, rest)
  | c :: rest =>
    if joining && (isBlank c || c == '\n') then escapedLines true rest
    else if (isLineChar c && c != '\\') || c == '\n' then do
      let (body, rest) ← escapedLines false rest
      return (c :: body, rest)
    else none
  | [] => none

/-- A text without escapes over several lines, up to its three closing quotes. -/
def literalLines : List Char → Option (List Char × List Char)
  | '\'' :: '\'' :: '\'' :: rest => some ([], rest)
  | '\r' :: '\n' :: rest => do
    let (body, rest) ← literalLines rest
    return ('\n' :: body, rest)
  | c :: rest =>
    if isLineChar c || c == '\n' then do
      let (body, rest) ← literalLines rest
      return (c :: body, rest)
    else none
  | [] => none

/-- Drops a line break right after the opening quotes. -/
def dropFirstBreak (chars : List Char) : List Char :=
  (lineBreak? chars).getD chars

/-- A text on one line, in quotes of either kind. -/
def lineText? : List Char → Option (String × List Char)
  | '"' :: rest => (escapedBody rest).map fun (body, rest) => (String.ofList body, rest)
  | '\'' :: rest => (literalBody rest).map fun (body, rest) => (String.ofList body, rest)
  | _ => none

/-- A text in quotes of any kind. -/
def text? : List Char → Option (String × List Char)
  | '"' :: '"' :: '"' :: rest =>
    (escapedLines false (dropFirstBreak rest)).map fun (body, rest) => (String.ofList body, rest)
  | '\'' :: '\'' :: '\'' :: rest =>
    (literalLines (dropFirstBreak rest)).map fun (body, rest) => (String.ofList body, rest)
  | chars => lineText? chars

/-! ### Numbers -/

/-- Digits that may be parted by single underscores, without these. -/
def digits? (isDigit : Char → Bool) : List Char → Option (List Char)
  | [] => none
  | [c] => if isDigit c then some [c] else none
  | c :: '_' :: rest => if isDigit c then (digits? isDigit rest).map (c :: ·) else none
  | c :: rest => if isDigit c then (digits? isDigit rest).map (c :: ·) else none

/-- The number that decimal digits stand for. -/
def decimal (digits : List Char) : Nat :=
  digits.foldl (fun n c => 10 * n + (c.toNat - '0'.toNat)) 0

/-- The digits of a whole number, which do not start with a zero unless they are that zero. -/
def wholeDigits? (chars : List Char) : Option (List Char) := do
  let digits ← digits? Char.isDigit chars
  match digits with
  | '0' :: _ :: _ => none
  | _ => some digits

/-- Whether a number has a minus, and what follows the sign. -/
def sign : List Char → Bool × List Char
  | '-' :: rest => (true, rest)
  | '+' :: rest => (false, rest)
  | chars => (false, chars)

/-- A number of the width of a machine word. -/
def machineInt? (n : Int) : Option Int64 :=
  if Int64.minValue.toInt ≤ n ∧ n ≤ Int64.maxValue.toInt then some (Int64.ofInt n) else none

/-- The digits of a number in another base. -/
def basedNumber? (base : Nat) (chars : List Char) : Option Nat := do
  let digits ← digits? (fun c => ((hexValue? c).getD base) < base) chars
  return digits.foldl (fun n c => base * n + (hexValue? c).getD 0) 0

def int? : List Char → Option Int64
  | '0' :: 'x' :: rest => do machineInt? (← basedNumber? 16 rest)
  | '0' :: 'o' :: rest => do machineInt? (← basedNumber? 8 rest)
  | '0' :: 'b' :: rest => do machineInt? (← basedNumber? 2 rest)
  | chars => do
    let (negative, rest) := sign chars
    let digits ← wholeDigits? rest
    let n : Int := decimal digits
    machineInt? (if negative then -n else n)

/-- The double nearest to `m · 10^e`, also where the power is out of all proportion. -/
def scale (m : Nat) (e : Int) : Float :=
  let size := e + (Nat.toDigits 10 m).length
  if m = 0 ∨ size < -400 then 0
  else if size > 400 then 1 / 0
  else if e < 0 then Float.ofScientific m true (-e).toNat
  else Float.ofScientific m false e.toNat

/-- The exponent that follows the digits of a number, zero if none does. -/
def exponent? : List Char → Option Int
  | [] => some 0
  | mark :: rest =>
    if mark == 'e' || mark == 'E' then do
      let (negative, rest) := sign rest
      let digits ← digits? Char.isDigit rest
      let n : Int := decimal digits
      return if negative then -n else n
    else none

def isExponentMark (c : Char) : Bool :=
  c == 'e' || c == 'E'

/-- A number with a fraction or an exponent, without its sign. -/
def unsignedReal? (chars : List Char) : Option Float := do
  let whole ← wholeDigits? (chars.takeWhile fun c => c != '.' && !isExponentMark c)
  match chars.dropWhile fun c => c != '.' && !isExponentMark c with
  | [] => none
  | '.' :: rest =>
    let fraction ← digits? Char.isDigit (rest.takeWhile (!isExponentMark ·))
    let power ← exponent? (rest.dropWhile (!isExponentMark ·))
    return scale (decimal (whole ++ fraction)) (power - fraction.length)
  | rest =>
    let power ← exponent? rest
    return scale (decimal whole) power

/-- A number that is not whole.  One that is written with digits must not exceed all doubles. -/
def real? (chars : List Char) : Option Float := do
  let (negative, rest) := sign chars
  match rest with
  | ['i', 'n', 'f'] => return if negative then -1 / 0 else 1 / 0
  | ['n', 'a', 'n'] => return 0 / 0
  | _ =>
    let x ← unsignedReal? rest
    if negative then return -x
    else if x.isInf then none
    else return x

/-- The characters of which numbers are made. -/
def isNumberChar (c : Char) : Bool :=
  c.isAlphanum || c == '+' || c == '-' || c == '.' || c == '_'

def number? (chars : List Char) : Option SettingValue :=
  match int? chars with
  | some n => some (.int n)
  | none => (real? chars).map .real

/-! ### Keys and groups -/

def isBareKeyChar (c : Char) : Bool :=
  c.isAlphanum || c == '_' || c == '-'

/-- One part of a key. -/
def keyPart? (chars : List Char) : Option (String × List Char) :=
  match lineText? chars with
  | some part => some part
  | none =>
    let bare := chars.takeWhile isBareKeyChar
    if bare.isEmpty then none else some (String.ofList bare, chars.dropWhile isBareKeyChar)

/-- A key of one or more parts with points between them, of at most `fuel` parts. -/
def key? : Nat → List Char → Option (List String × List Char)
  | 0, _ => none
  | fuel + 1, chars => do
    let (part, rest) ← keyPart? chars
    match skipBlanks rest with
    | '.' :: more => do
      let (parts, rest) ← key? fuel (skipBlanks more)
      return (part :: parts, rest)
    | rest => return ([part], rest)

/-- Skips blanks, comments and line breaks, in at most `fuel` lines. -/
def skipLines : Nat → List Char → List Char
  | 0, chars => chars
  | fuel + 1, chars =>
    let rest := skipComment (skipBlanks chars)
    match lineBreak? rest with
    | some next => skipLines fuel next
    | none => rest

/-- An empty table or list. -/
def emptyGroup? : List Char → Option (List Char)
  | '\x7b' :: rest =>
    match skipBlanks rest with
    | '\x7d' :: rest => some rest
    | _ => none
  | '[' :: rest =>
    match skipLines (rest.length + 1) rest with
    | ']' :: rest => some rest
    | _ => none
  | _ => none

/-- A table whose one field is empty. -/
def choice? : List Char → Option (String × List Char)
  | '\x7b' :: rest => do
    let (name, rest) ← keyPart? (skipBlanks rest)
    match skipBlanks rest with
    | '=' :: rest =>
      let rest ← emptyGroup? (skipBlanks rest)
      match skipBlanks rest with
      | '\x7d' :: rest => return (name, rest)
      | _ => none
    | _ => none
  | _ => none

/-- A value and the rest of the text. -/
def read? (chars : List Char) : Option (SettingValue × List Char) :=
  match chars with
  | '"' :: _ | '\'' :: _ => (text? chars).map fun (s, rest) => (.text s, rest)
  | '\x7b' :: _ | '[' :: _ =>
    match emptyGroup? chars with
    | some rest => some (.empty, rest)
    | none => (choice? chars).map fun (name, rest) => (.choice name, rest)
  | _ =>
    (number? (chars.takeWhile isNumberChar)).map fun value => (value, chars.dropWhile isNumberChar)

end SettingValue

end LevelScript
