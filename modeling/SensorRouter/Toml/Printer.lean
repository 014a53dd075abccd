/-!
Written forms of TOML values. A string takes the plainest of five forms that can hold it.
-/

namespace SensorRouter.Toml

/-- The length of the longest run of a character. -/
def longestRun (c : Char) (cs : List Char) : Nat :=
  (cs.foldl (fun (now, best) x => if x = c then (now + 1, max best (now + 1)) else (0, best))
    (0, 0)).2

/-- Whether a character can only be written as an escape, line ends and tabs apart. -/
def needsEscape (c : Char) : Bool :=
  (c < ' ' && c ≠ '\t' && c ≠ '\n') || c = '\x7f'

/-- How a string is quoted. -/
inductive Quoting where
  | basic
  | literal
  | basicLines
  | literalLines
  deriving DecidableEq, Repr

def quotingOf (cs : List Char) : Quoting :=
  let codes := cs.any needsEscape
  let backslash := cs.any (· == '\\')
  let newline := cs.any (· == '\n')
  let double := longestRun '"' cs
  let single := longestRun '\'' cs
  if !codes && !backslash && double = 0 && !newline then .basic
  else if !codes && single = 0 && !newline then .literal
  else if !codes && !backslash && double ≤ 2 then .basicLines
  else if !codes && single ≤ 2 then .literalLines
  else if newline then .basicLines
  else .basic

/-- A character of a string between double quotation marks, after a run of `run` such marks. -/
def escapeChar (quoting : Quoting) (run : Nat) (c : Char) : List Char :=
  match c with
  | '\x08' => ['\\', 'b']
  | '\t' => ['\\', 't']
  | '\n' => if quoting = .basicLines then ['\n'] else ['\\', 'n']
  | '\x0c' => ['\\', 'f']
  | '\r' => ['\\', 'r']
  | '\\' => ['\\', '\\']
  | '"' => if quoting = .basicLines && run < 2 then ['"'] else ['\\', '"']
  | c =>
    if needsEscape c then
      '\\' :: 'u' :: '0' :: '0' :: [(Nat.digitChar (c.toNat / 16)).toUpper,
        (Nat.digitChar (c.toNat % 16)).toUpper]
    else [c]

/-- The characters of a string with escapes, after a run of quotation marks that were written as
they are. -/
def escape (quoting : Quoting) : (run : Nat) → List Char → List Char
  | _, [] => []
  | run, c :: rest =>
    let written := escapeChar quoting run c
    written ++ escape quoting (if written = ['"'] then run + 1 else 0) rest

def stringText (s : String) : String :=
  let cs := s.toList
  let opening := if cs.any (· == '\n') then ['\n'] else []
  String.ofList (match quotingOf cs with
    | .basic => '"' :: escape .basic 0 cs ++ ['"']
    | .literal => '\'' :: cs ++ ['\'']
    | .basicLines => '"' :: '"' :: '"' :: opening ++ escape .basicLines 0 cs ++ ['"', '"', '"']
    | .literalLines => '\'' :: '\'' :: '\'' :: opening ++ cs ++ ['\'', '\'', '\''])

/-- The values that a setting may have. -/
inductive Scalar where
  | string (s : String)
  | natural (n : Nat)
  | boolean (b : Bool)

/-- The greatest integer that can be written. -/
def greatestNatural : Nat := 0x7FFFFFFFFFFFFFFF

def Scalar.text? : Scalar → Option String
  | .string s => some (stringText s)
  | .natural n => if n ≤ greatestNatural then some (toString n) else none
  | .boolean b => some (if b then "true" else "false")

/-- A section: its name and the settings that it has. -/
abbrev Section := String × List (String × Scalar)

def sectionText? (s : Section) : Option String := do
  let settings ← s.2.mapM fun e => do return e.1 ++ " = " ++ (← e.2.text?) ++ "\n"
  return "[" ++ s.1 ++ "]\n" ++ String.join settings

/-- The text of sections, parted by empty lines. -/
def sectionsText? (sections : List Section) : Option String := do
  return "\n".intercalate (← sections.mapM sectionText?)

end SensorRouter.Toml
