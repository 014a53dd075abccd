/-!
Addresses that a server listens on: an address of the internet protocol, version 4 or 6, and the
number of a socket there.
-/

namespace SensorRouter

inductive HostAddress where
  /-- Four octets. -/
  | v4 (octets : List Nat)
  /-- Eight groups of 16 bits, and the scope, zero if there is none. -/
  | v6 (groups : List Nat) (scope : Nat)
  deriving DecidableEq, Repr

structure SocketAddress where
  host : HostAddress
  socket : Nat
  deriving DecidableEq, Repr

namespace SocketAddress

def digitIn? (base : Nat) (c : Char) : Option Nat :=
  let d :=
    if '0' ≤ c && c ≤ '9' then c.toNat - '0'.toNat
    else if 'a' ≤ c && c ≤ 'f' then c.toNat - 'a'.toNat + 10
    else if 'A' ≤ c && c ≤ 'F' then c.toNat - 'A'.toNat + 10
    else base
  if d < base then some d else none

/-- A number at the head, at most `greatest`. -/
def number? (base greatest : Nat) (cs : List Char) : Option (Nat × List Char) :=
  let ds := cs.takeWhile fun c => (digitIn? base c).isSome
  let n := ds.foldl (fun n c => n * base + (digitIn? base c).getD 0) 0
  if ds.isEmpty || greatest < n then none else some (n, cs.drop ds.length)

def mark? (mark : Char) : List Char → Option (List Char)
  | c :: rest => if c = mark then some rest else none
  | [] => none

/-- A number below 256 without a superfluous leading zero. -/
def octet? (cs : List Char) : Option (Nat × List Char) :=
  match cs with
  | '0' :: c :: _ => if (digitIn? 10 c).isSome then none else number? 10 255 cs
  | cs => number? 10 255 cs

def octets? (cs : List Char) : Option (List Nat × List Char) := do
  let (a, cs) ← octet? cs
  let (b, cs) ← octet? (← mark? '.' cs)
  let (c, cs) ← octet? (← mark? '.' cs)
  let (d, cs) ← octet? (← mark? '.' cs)
  return ([a, b, c, d], cs)

/-- A group of up to four hexadecimal digits. -/
def group? (cs : List Char) : Option (Nat × List Char) :=
  let ds := (cs.takeWhile fun c => (digitIn? 16 c).isSome).take 4
  if ds.isEmpty then none
  else some (ds.foldl (fun n c => n * 16 + (digitIn? 16 c).getD 0) 0, cs.drop ds.length)

/-- Up to `room` groups between colons. Four octets may stand for the last two; the result says
whether they do. `first` says whether no group has been read yet. -/
def groups : (room : Nat) → (first : Bool) → List Char → List Nat × Bool × List Char
  | 0, _, cs => ([], false, cs)
  | room + 1, first, cs =>
    let next := if first then some cs else mark? ':' cs
    let embedded := if room = 0 then none else next.bind octets?
    match embedded with
    | some ([a, b, c, d], rest) => ([a * 256 + b, c * 256 + d], true, rest)
    | _ =>
      match next.bind group? with
      | none => ([], false, cs)
      | some (g, rest) =>
        let (gs, octets, rest) := groups room false rest
        (g :: gs, octets, rest)

/-- Eight groups, of which two colons may leave out a run of zeros. -/
def v6Groups? (cs : List Char) : Option (List Nat × List Char) :=
  let (front, octets, rest) := groups 8 true cs
  if front.length = 8 then some (front, rest)
  else if octets then none
  else
    match rest with
    | ':' :: ':' :: rest =>
      let (back, _, rest) := groups (7 - front.length) true rest
      some (front ++ List.replicate (8 - front.length - back.length) 0 ++ back, rest)
    | _ => none

def socket? (cs : List Char) : Option Nat :=
  match mark? ':' cs with
  | none => none
  | some rest =>
    match number? 10 65535 rest with
    | some (n, []) => some n
    | _ => none

def ofChars (cs : List Char) : Option SocketAddress :=
  match cs with
  | '[' :: rest => do
    let (gs, rest) ← v6Groups? rest
    let (scope, rest) ← match rest with
      | '%' :: rest => number? 10 0xFFFFFFFF rest
      | rest => some (0, rest)
    return ⟨.v6 gs scope, ← socket? (← mark? ']' rest)⟩
  | cs => do
    let (octets, rest) ← octets? cs
    return ⟨.v4 octets, ← socket? rest⟩

def ofText (s : String) : Option SocketAddress :=
  ofChars s.toList

/-! ### Writing -/

def octetsText (octets : List Nat) : String :=
  ".".intercalate (octets.map toString)

def groupText (n : Nat) : String :=
  String.ofList (Nat.toDigits 16 n)

def groupsText (groups : List Nat) : String :=
  ":".intercalate (groups.map groupText)

/-- The number of zeros at the head. -/
def leadingZeros (groups : List Nat) : Nat :=
  (groups.takeWhile (· == 0)).length

/-- Start and length of the longest run of zeros, the first of several. -/
def longestZeros (groups : List Nat) : Nat × Nat :=
  (List.range groups.length).foldl
    (fun best i =>
      let n := leadingZeros (groups.drop i)
      if best.2 < n then (i, n) else best)
    (0, 0)

/-- Groups in lower case, with the longest run of at least two zeros left out. An address of
version 4 within version 6 keeps its octets. -/
def v6Text (groups : List Nat) : String :=
  match groups with
  | [0, 0, 0, 0, 0, 0xFFFF, a, b] =>
    "::ffff:" ++ octetsText [a / 256, a % 256, b / 256, b % 256]
  | groups =>
    let (start, length) := longestZeros groups
    if 1 < length then
      groupsText (groups.take start) ++ "::" ++ groupsText (groups.drop (start + length))
    else groupsText groups

def text (a : SocketAddress) : String :=
  let host := match a.host with
    | .v4 octets => octetsText octets
    | .v6 groups scope =>
      "[" ++ v6Text groups ++ (if scope = 0 then "" else "%" ++ toString scope) ++ "]"
  host ++ ":" ++ toString a.socket

example : (ofText "[1:0:0:2:0:0:0:3]:9").map text = some "[1:0:0:2::3]:9" := by decide +kernel
example : (ofText "[::FFFF:1.2.3.4%7]:005").map text = some "[::ffff:1.2.3.4%7]:5" := by
  decide +kernel
example : (ofText "01.2.3.4:5").isNone ∧ (ofText "[1:2]:3").isNone := by decide +kernel

end SocketAddress

end SensorRouter
