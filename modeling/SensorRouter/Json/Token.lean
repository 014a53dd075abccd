import SensorRouter.Json.Number
import SensorRouter.Text.Utf8

/-!
Tokens of JSON texts. The scanner reads one character at a time; it passes over text and numerals
that have no value (a surrogate without its partner, malformed bytes, a number that is too large)
and leaves it to the reader of the tokens whether such a value is needed.
-/

namespace SensorRouter.Json

inductive Token where
  | openArray
  | closeArray
  | openObject
  | closeObject
  | comma
  | colon
  | null
  | bool (b : Bool)
  | number (n : Option Number)
  | string (s : Option String)

namespace Token

/-- A piece of a quoted string: a character, a code unit given by its number, or a malformed
byte. -/
inductive Piece where
  | char (c : Char)
  | unit (n : Nat)
  | malformed

/-- The character of a code unit that stands alone. -/
def charOfUnit (n : Nat) : Option Char :=
  if h : n.isValidChar then some (Char.ofNatAux n h) else none

def isHighSurrogate (n : Nat) : Bool :=
  0xD800 ≤ n && n < 0xDC00

def isLowSurrogate (n : Nat) : Bool :=
  0xDC00 ≤ n && n < 0xE000

/-- The character of a surrogate pair. -/
def charOfPair (high low : Nat) : Option Char :=
  charOfUnit (0x10000 + (high - 0xD800) * 0x400 + (low - 0xDC00))

/-- The characters of the pieces after those already read (in reverse), if all have a
character. -/
def text? : List Char → List Piece → Option (List Char)
  | done, [] => some done.reverse
  | done, .char c :: rest => text? (c :: done) rest
  | _, .malformed :: _ => none
  | done, .unit n :: rest =>
    bif isHighSurrogate n then
      match rest with
      | .unit m :: rest =>
        bif isLowSurrogate m then (charOfPair n m).bind fun c => text? (c :: done) rest else none
      | _ => none
    else (charOfUnit n).bind fun c => text? (c :: done) rest

/-- What the scanner is in the middle of; characters and pieces are kept in reverse. -/
inductive Mode where
  | between
  | word (read : List Char)
  | quoted (read : List Piece)
  | escaped (read : List Piece)
  | unit (read : List Piece) (digits : List Nat)

structure Scanner where
  mode : Mode
  /-- The tokens so far, in reverse. -/
  tokens : List Token

/-- The token of a bare word: a literal or a numeral. -/
def ofWord (cs : List Char) : Option Token :=
  if cs = "null".toList then some .null
  else if cs = "true".toList then some (.bool true)
  else if cs = "false".toList then some (.bool false)
  else (Numeral.ofChars cs).map fun n => .number n.number?

def isSpace (c : Char) : Bool :=
  c = ' ' || c = '\t' || c = '\n' || c = '\r'

def isWordChar (c : Char) : Bool :=
  Numeral.isDigit c || ('a' ≤ c && c ≤ 'z') || ('A' ≤ c && c ≤ 'Z') || c = '+' || c = '-' || c = '.'

def ofMark (c : Char) : Option Token :=
  match c with
  | '[' => some .openArray
  | ']' => some .closeArray
  | '\x7b' => some .openObject
  | '\x7d' => some .closeObject
  | ',' => some .comma
  | ':' => some .colon
  | _ => none

/-- A character outside words and strings. -/
def between (tokens : List Token) (c : Char) : Option Scanner :=
  if isSpace c then some ⟨.between, tokens⟩
  else if c = '"' then some ⟨.quoted [], tokens⟩
  else if isWordChar c then some ⟨.word [c], tokens⟩
  else (ofMark c).map fun t => ⟨.between, t :: tokens⟩

/-- The character that a backslash and one more character stand for. -/
def simpleEscape (c : Char) : Option Char :=
  match c with
  | '"' => some '"'
  | '\\' => some '\\'
  | '/' => some '/'
  | 'b' => some '\x08'
  | 'f' => some '\x0c'
  | 'n' => some '\n'
  | 'r' => some '\r'
  | 't' => some '\t'
  | _ => none

def hexDigit? (c : Char) : Option Nat :=
  if '0' ≤ c && c ≤ '9' then some (c.toNat - '0'.toNat)
  else if 'a' ≤ c && c ≤ 'f' then some (c.toNat - 'a'.toNat + 10)
  else if 'A' ≤ c && c ≤ 'F' then some (c.toNat - 'A'.toNat + 10)
  else none

/-- The token of a string whose closing quote has been read. -/
def ofPieces (read : List Piece) : Token :=
  .string ((text? [] read.reverse).map String.ofList)

/-- One character. A malformed byte may stand only inside a string. -/
def step (s : Scanner) (symbol : Option Char) : Option Scanner :=
  match s.mode, symbol with
  | .between, some c => between s.tokens c
  | .word read, some c =>
    if isWordChar c then some ⟨.word (c :: read), s.tokens⟩
    else (ofWord read.reverse).bind fun t => between (t :: s.tokens) c
  | .quoted read, some c =>
    if c = '"' then some ⟨.between, ofPieces read :: s.tokens⟩
    else if c = '\\' then some ⟨.escaped read, s.tokens⟩
    else if c < ' ' then none
    else some ⟨.quoted (.char c :: read), s.tokens⟩
  | .quoted read, none => some ⟨.quoted (.malformed :: read), s.tokens⟩
  | .escaped read, some c =>
    if c = 'u' then some ⟨.unit read [], s.tokens⟩
    else (simpleEscape c).map fun d => ⟨.quoted (.char d :: read), s.tokens⟩
  | .unit read digits, some c =>
    (hexDigit? c).map fun d =>
      match digits with
      | [a, b, e] => ⟨.quoted (.unit (((a * 16 + b) * 16 + e) * 16 + d) :: read), s.tokens⟩
      | _ => ⟨.unit read (digits ++ [d]), s.tokens⟩
  | _, none => none

/-- The tokens at the end of the text, in order. -/
def finish (s : Scanner) : Option (List Token) :=
  match s.mode with
  | .between => some s.tokens.reverse
  | .word read => (ofWord read.reverse).map fun t => (t :: s.tokens).reverse
  | _ => none

/-- The tokens of a text. -/
def scan (symbols : List (Option Char)) : Option (List Token) :=
  (symbols.foldlM step ⟨.between, []⟩).bind finish

end Token

end SensorRouter.Json
