/-!
# Source text

A source text with its bytes and the byte offsets at which its lines start. Positions count bytes;
lines and columns count from 1.
-/

namespace ComposeCheck

/-- A text with what is needed to look positions up in it. -/
structure Source where
  text : String
  bytes : ByteArray
  lineStarts : List Nat

namespace Source

/-- The offsets just after each line feed, for bytes that start at an offset. -/
def startsFrom (offset : Nat) : List UInt8 → List Nat
  | [] => []
  | b :: bs => if b = 10 then (offset + 1) :: startsFrom (offset + 1) bs
    else startsFrom (offset + 1) bs

def ofText (text : String) : Source :=
  { text, bytes := text.toUTF8, lineStarts := 0 :: startsFrom 0 text.toUTF8.toList }

/-- The bytes from one offset up to another. -/
def slice (source : Source) (start stop : Nat) : ByteArray := source.bytes.extract start stop

/-- The text from one offset up to another. -/
def textBetween (source : Source) (start stop : Nat) : String :=
  (String.fromUTF8? (source.slice start stop)).getD ""

/-- The line of an offset: how many lines start at or before it. -/
def lineAt (source : Source) (offset : Nat) : Nat :=
  (source.lineStarts.takeWhile (· ≤ offset)).length

/-- The column of an offset: its distance from the start of its line, plus one. -/
def columnAt (source : Source) (offset : Nat) : Nat :=
  offset - (source.lineStarts.takeWhile (· ≤ offset)).getLastD 0 + 1

end Source

end ComposeCheck
