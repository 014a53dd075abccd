import SensorRouter.Gzip.Member
import SensorRouter.Json.Printer

/-!
Batches on the wire: the records as JSON texts, one a line, compressed.
-/

namespace SensorRouter.Batch

open Json (Value)

/-- The greatest size of an uncompressed batch that is read. -/
def greatestSize : Nat := 10 * 1024 * 1024

/-- The records as lines, without a line end after the last. -/
def body (records : List Value) : String :=
  "\n".intercalate (records.map Value.text)

def encode (records : List Value) : ByteArray :=
  Gzip.gzip (body records).toUTF8

/-- Why a batch cannot be read. -/
inductive DecodeError where
  /-- It is no compressed text. -/
  | compression
  | tooLong
  /-- A line is no JSON text. -/
  | record
  deriving DecidableEq, Repr

/-- The lines of a text, also the empty ones. -/
def splitLines (cs : List Char) : List (List Char) :=
  let (line, done) := cs.foldl
    (fun (line, done) c => if c = '\n' then ([], line.reverse :: done) else (c :: line, done))
    ([], [])
  (line.reverse :: done).reverse

/-- The records of a text. Empty lines are passed over. -/
def ofBody (text : String) : Option (List Value) :=
  ((splitLines text.toList).filter (· ≠ [])).mapM fun line => Value.ofText (String.ofList line)

def decode (payload : ByteArray) : Except DecodeError (List Value) :=
  match (Gzip.gunzip (greatestSize + 1) payload).bind String.fromUTF8? with
  | none => .error .compression
  | some text =>
    if greatestSize < text.utf8ByteSize then .error .tooLong
    else
      match ofBody text with
      | some records => .ok records
      | none => .error .record

end SensorRouter.Batch
