import SensorRouter.Toml.Node
import SensorRouter.Toml.Scalar

/-!
TOML texts: their strings, keys, values and lines, and the tree that the lines of a text build.
-/

namespace SensorRouter.Toml

/-- Whether a character may stand in a comment or a string as it is. -/
def isPlain (c : Char) : Bool :=
  c = '\t' || (' ' ≤ c && c ≠ '\x7f')

def isBlank (c : Char) : Bool :=
  c = ' ' || c = '\t'

def isKeyChar (c : Char) : Bool :=
  ('a' ≤ c && c ≤ 'z') || ('A' ≤ c && c ≤ 'Z') || isDigit c || c = '_' || c = '-'

/-! ### Strings -/

/-- The character of a code point given by its digits. -/
def codePoint? (digits : List Char) : Option Char := do
  let n ← digits.foldlM (fun n c => (digitIn? 16 c).map (n * 16 + ·)) 0
  if h : n.isValidChar then some (Char.ofNatAux n h) else none

def simpleEscape (c : Char) : Option Char :=
  match c with
  | 'b' => some '\x08'
  | 't' => some '\t'
  | 'n' => some '\n'
  | 'f' => some '\x0c'
  | 'r' => some '\r'
  | '"' => some '"'
  | '\\' => some '\\'
  | _ => none

/-- Whether blanks and then the end of the line come next. -/
def lineEnds (cs : List Char) : Bool :=
  match cs.dropWhile isBlank with
  | '\n' :: _ => true
  | '\r' :: '\n' :: _ => true
  | _ => false

/-- The rest of a string between single quotation marks of the kind `mark`, after the characters
`done` in reverse. Escapes count only between double quotation marks. -/
def line (mark : Char) : (done : List Char) → List Char → Option (String × List Char)
  | _, [] => none
  | done, c :: rest =>
    if c = mark then some (String.ofList done.reverse, rest)
    else if c = '\\' && mark = '"' then
      match rest with
      | 'u' :: a :: b :: d :: e :: rest =>
        (codePoint? [a, b, d, e]).bind fun x => line mark (x :: done) rest
      | 'U' :: a :: b :: d :: e :: f :: g :: h :: i :: rest =>
        (codePoint? [a, b, d, e, f, g, h, i]).bind fun x => line mark (x :: done) rest
      | x :: rest => (simpleEscape x).bind fun x => line mark (x :: done) rest
      | [] => none
    else if isPlain c then line mark (c :: done) rest
    else none

/-- The rest of a string between triple quotation marks. Up to two marks may stand before the
closing three. While `trimming`, blanks and ends of lines are passed over. -/
def lines (mark : Char) : (trimming : Bool) → (done : List Char) → List Char →
    Option (String × List Char)
  | _, _, [] => none
  | trimming, done, c :: rest =>
    if c = '\n' then lines mark trimming (if trimming then done else '\n' :: done) rest
    else if c = '\r' then
      if rest.head? = some '\n' then lines mark trimming done rest else none
    else if trimming && isBlank c then lines mark true done rest
    else if c = mark && rest.take 2 = [mark, mark] then
      let surplus := ((rest.drop 2).takeWhile (· == mark)).take 2
      some (String.ofList (done.reverse ++ surplus), rest.drop (2 + surplus.length))
    else if c = '\\' && mark = '"' then
      if lineEnds rest then lines mark true done rest
      else
        match rest with
        | 'u' :: a :: b :: d :: e :: rest =>
          (codePoint? [a, b, d, e]).bind fun x => lines mark false (x :: done) rest
        | 'U' :: a :: b :: d :: e :: f :: g :: h :: i :: rest =>
          (codePoint? [a, b, d, e, f, g, h, i]).bind fun x => lines mark false (x :: done) rest
        | x :: rest => (simpleEscape x).bind fun x => lines mark false (x :: done) rest
        | [] => none
    else if isPlain c then lines mark false (c :: done) rest
    else none

/-- The text after an end of line at its head, if there is one. -/
def dropLineEnd : List Char → List Char
  | '\n' :: rest => rest
  | '\r' :: '\n' :: rest => rest
  | cs => cs

/-- A string whose first quotation mark is `mark`, from that mark on. -/
def quoted (mark : Char) (cs : List Char) : Option (String × List Char) :=
  if cs.take 3 = [mark, mark, mark] then lines mark false [] (dropLineEnd (cs.drop 3))
  else line mark [] (cs.drop 1)

/-! ### Keys -/

/-- The greatest length of a dotted key and depth of nested values, plus one. -/
def depthLimit : Nat := 80

/-- One part of a key. -/
def simpleKey (cs : List Char) : Option (String × List Char) :=
  match cs with
  | '"' :: rest => line '"' [] rest
  | '\'' :: rest => line '\'' [] rest
  | cs =>
    let name := cs.takeWhile isKeyChar
    if name.isEmpty then none else some (String.ofList name, cs.drop name.length)

/-- The further parts of a key. -/
def keyRest : (fuel : Nat) → List String → List Char → Option (List String × List Char)
  | 0, _, _ => none
  | fuel + 1, done, cs =>
    match cs.dropWhile isBlank with
    | '.' :: rest =>
      match simpleKey (rest.dropWhile isBlank) with
      | some (name, rest) => keyRest fuel (name :: done) rest
      | none => none
    | rest => some (done.reverse, rest)

/-- A key and what follows it after blanks. -/
def key (cs : List Char) : Option (List String × List Char) := do
  let (name, rest) ← simpleKey (cs.dropWhile isBlank)
  let (path, rest) ← keyRest (rest.length + 1) [name] rest
  if path.length < depthLimit then return (path, rest) else none

/-! ### Values -/

/-- The text after blanks, comments and ends of lines; `comment` says whether it begins inside a
comment. -/
def dropGaps : (comment : Bool) → List Char → List Char
  | _, [] => []
  | comment, c :: rest =>
    if c = '\n' || (c = '\r' && rest.head? = some '\n') then dropGaps false rest
    else if comment && isPlain c then dropGaps true rest
    else if !comment && (isBlank c || c = '#') then dropGaps (c = '#') rest
    else c :: rest

def isWordChar (c : Char) : Bool :=
  isKeyChar c || c = '+' || c = '.' || c = ':'

/-- The value of a bare word. -/
def ofWord (word : List Char) : Option Node :=
  if word = "true".toList then some (.boolean true)
  else if word = "false".toList then some (.boolean false)
  else if let some i := integer? word then some (.integer i)
  else if isFraction word then some .fraction
  else if isDate word then some .date
  else none

/-- A bare word at the head. A time may follow a date after a space. -/
def word (cs : List Char) : List Char × List Char :=
  let head := cs.takeWhile isWordChar
  let rest := cs.drop head.length
  match rest with
  | ' ' :: c :: more =>
    if isDigit c && dateRest? head = some [] then
      let time := (c :: more).takeWhile isWordChar
      (head ++ ' ' :: time, (c :: more).drop time.length)
    else (head, rest)
  | _ => (head, rest)

mutual

/-- A value inside `depth` arrays and tables in braces. -/
def value : (fuel : Nat) → (depth : Nat) → List Char → Option (Node × List Char)
  | 0, _, _ => none
  | fuel + 1, depth, cs =>
    match cs with
    | '"' :: _ => (quoted '"' cs).map fun r => (.string r.1, r.2)
    | '\'' :: _ => (quoted '\'' cs).map fun r => (.string r.1, r.2)
    | '[' :: rest =>
      if depth + 1 < depthLimit then items fuel (depth + 1) [] (dropGaps false rest) else none
    | '\x7b' :: rest =>
      if depth + 1 < depthLimit then
        match rest.dropWhile isBlank with
        | '\x7d' :: rest => some (.table .closed [], rest)
        | rest => pairs fuel (depth + 1) [] rest
      else none
    | cs =>
      let (w, rest) := word cs
      (ofWord w).map (·, rest)

/-- The items of an array after those read, in reverse. -/
def items : (fuel : Nat) → (depth : Nat) → List Node → List Char → Option (Node × List Char)
  | 0, _, _, _ => none
  | fuel + 1, depth, done, cs =>
    match cs with
    | ']' :: rest => some (.array done.reverse, rest)
    | cs =>
      match value fuel depth cs with
      | none => none
      | some (v, rest) =>
        match dropGaps false rest with
        | ',' :: rest => items fuel depth (v :: done) (dropGaps false rest)
        | ']' :: rest => some (.array (v :: done).reverse, rest)
        | _ => none

/-- The fields of a table in braces after those read. -/
def pairs : (fuel : Nat) → (depth : Nat) → List (String × Node) → List Char →
    Option (Node × List Char)
  | 0, _, _, _ => none
  | fuel + 1, depth, done, cs =>
    match key cs with
    | some (path, '=' :: rest) =>
      match value fuel depth (rest.dropWhile isBlank) with
      | none => none
      | some (v, rest) =>
        match Node.insertValue done path v, rest.dropWhile isBlank with
        | some done, ',' :: rest => pairs fuel depth done rest
        | some done, '\x7d' :: rest => some (.table .closed done, rest)
        | _, _ => none
    | _ => none

end

/-! ### Lines -/

/-- The text after the end of a line, at which only a comment may stand. -/
def endLine (cs : List Char) : Option (List Char) :=
  let rest := match cs.dropWhile isBlank with
    | '#' :: rest => rest.dropWhile isPlain
    | rest => rest
  match rest with
  | [] => some []
  | '\n' :: rest => some rest
  | '\r' :: '\n' :: rest => some rest
  | _ => none

/-- The fields read so far and the path of the latest header. -/
structure Building where
  fields : List (String × Node)
  path : List String

/-- One line at the head: a header or a key with its value. -/
def readLine (b : Building) (cs : List Char) : Option (Building × List Char) :=
  let header (open? : String → List (String × Node) → Option (List (String × Node)))
      (path : List String) (rest : List Char) : Option (Building × List Char) := do
    let fields ← Node.updateAt path.dropLast (open? (path.getLast?.getD "")) b.fields
    return (⟨fields, path⟩, ← endLine rest)
  match cs with
  | '[' :: '[' :: rest =>
    match key rest with
    | some (path, ']' :: ']' :: rest) => header Node.openNext path rest
    | _ => none
  | '[' :: rest =>
    match key rest with
    | some (path, ']' :: rest) => header Node.openTable path rest
    | _ => none
  | cs =>
    match key cs with
    | some (path, '=' :: rest) => do
      let (v, rest) ← value (2 * rest.length + 2) 0 (rest.dropWhile isBlank)
      let fields ← Node.updateAt b.path (fun fields => Node.insertValue fields path v) b.fields
      return (⟨fields, b.path⟩, ← endLine rest)
    | _ => none

/-- The fields of the lines that are left. -/
def readLines : (fuel : Nat) → Building → List Char → Option (List (String × Node))
  | 0, _, _ => none
  | fuel + 1, b, cs =>
    match dropGaps false cs with
    | [] => some b.fields
    | cs =>
      match readLine b cs with
      | some (b, rest) => readLines fuel b rest
      | none => none

/-- The tree of a TOML text, which may begin with a byte order mark. -/
def Node.ofText (s : String) : Option Node :=
  let cs := match s.toList with
    | '\ufeff' :: rest => rest
    | cs => cs
  (readLines (cs.length + 1) ⟨[], []⟩ cs).map (.table .header)

end SensorRouter.Toml
