import ComposeCheck.NamePattern.Basic

/-!
# The size of patterns

Patterns that would take too much memory are refused. What counts is the memory of the automaton
that reads a text byte by byte, forwards or backwards: every state takes 32 bytes, a state with
several ways on takes eight bytes more for each, and a choice between states four. A repetition
takes its part as often as it may stand there.

A set of characters beyond ASCII becomes sequences of ranges of bytes. Backwards, sequences that
start alike share the states for that; forwards, those that end alike do.
-/

namespace ComposeCheck

/-- What a sequence of bytes may be: a range for each byte. -/
abbrev ByteRanges := List (Nat × Nat)

namespace ByteRanges

/-- The code points of each length, with the number of bytes after the first. The surrogates have
none. -/
def lengths : List (Nat × Nat × Nat) :=
  [(0, 0x7f, 0), (0x80, 0x7ff, 1), (0x800, 0xd7ff, 2), (0xe000, 0xffff, 2), (0x10000, 0x10ffff, 3)]

/-- What is added to the first byte where so many bytes follow. -/
def leadMark : Nat → Nat
  | 0 => 0
  | 1 => 0xc0
  | 2 => 0xe0
  | _ => 0xf0

/-- The sequences for the numbers from one to another, with so many bytes after the first and a
mark added to this one. A byte takes six bits. -/
def cover : (more : Nat) → (mark low high : Nat) → List ByteRanges
  | 0, mark, low, high => [[(mark + low, mark + high)]]
  | more + 1, mark, low, high =>
    let unit := Nat.pow 64 (more + 1)
    let first := low / unit
    let last := high / unit
    let lead (byte : Nat) (rest : List ByteRanges) : List ByteRanges :=
      rest.map ((mark + byte, mark + byte) :: ·)
    if first = last then lead first (cover more 0x80 (low % unit) (high % unit))
    else
      let startsFull := low % unit = 0
      let endsFull := high % unit = unit - 1
      let before := if startsFull then [] else lead first (cover more 0x80 (low % unit) (unit - 1))
      let after := if endsFull then [] else lead last (cover more 0x80 0 (high % unit))
      let full := (if startsFull then first else first + 1, if endsFull then last else last - 1)
      let middle : List ByteRanges :=
        if full.1 ≤ full.2 then
          [(mark + full.1, mark + full.2) :: List.replicate (more + 1) (0x80, 0xbf)]
        else []
      before ++ middle ++ after

/-- The sequences for the characters of a set, in order. -/
def ofSet (set : CharSet) : List ByteRanges :=
  set.ranges.flatMap fun (low, high) => lengths.flatMap fun (first, last, more) =>
    if max low first ≤ min high last then
      cover more (leadMark more) (max low first) (min high last)
    else []

/-- The number of ranges that two sequences start with alike. -/
def common : ByteRanges → ByteRanges → Nat
  | a :: as, b :: bs => if a = b then common as bs + 1 else 0
  | _, _ => 0

/-- The number of different starts of sequences in order, the empty one apart. -/
def starts (before : ByteRanges) : List ByteRanges → Nat
  | [] => 0
  | sequence :: sequences =>
    sequence.length - common before sequence + starts sequence sequences

def tails : List ByteRanges → List ((Nat × Nat) × List ByteRanges)
  | [] => []
  | [] :: sequences => tails sequences
  | (range :: rest) :: sequences =>
    match tails sequences with
    | (other, group) :: groups =>
      if range = other then (range, rest :: group) :: groups
      else (range, [rest]) :: (other, group) :: groups
    | [] => [(range, [rest])]

/-- What may still come at each place inside the sequences, which are no longer than `depth`. -/
def suffixes : (depth : Nat) → List ByteRanges → List (List ByteRanges)
  | 0, _ => []
  | depth + 1, sequences =>
    if sequences.all List.isEmpty then []
    else sequences :: (tails sequences).flatMap fun (_, group) => suffixes depth group

end ByteRanges

namespace CharSet

/-- The memory for a set in which shared states do not matter; `none` for the other sets. -/
def simpleMemory? (set : CharSet) : Option Nat :=
  match set.ranges with
  | [] => some 64
  | [(first, last)] =>
    if first = last then some (32 * ((ByteRanges.ofSet set).map List.length).foldl max 0)
    else if set.isAscii then some 72
    else none
  | ranges => if set.isAscii then some (64 + 8 * ranges.length) else none

def backwardMemory (set : CharSet) : Nat :=
  set.simpleMemory?.getD
    (let sequences := ByteRanges.ofSet set
    64 + 4 * sequences.length + 32 * ByteRanges.starts [] sequences)

def forwardMemory (set : CharSet) : Nat :=
  set.simpleMemory?.getD
    (((ByteRanges.suffixes 4 (ByteRanges.ofSet set)).eraseDups.map fun sequences =>
      32 + 8 * (ByteRanges.tails sequences).length).foldl (· + ·) 32)

end CharSet

namespace Pattern

/-- Whether the pattern matches the empty text only. -/
def isBlank : Pattern → Bool
  | empty => true
  | one _ => false
  | edge _ => true
  | seq a b => isBlank a && isBlank b
  | alt a b => isBlank a && isBlank b
  | repeated p _ high? => isBlank p || high? == some 0
  | group p => isBlank p

/-- Whether the pattern never matches the empty text. -/
def needsText : Pattern → Bool
  | empty => false
  | one set => !set.ranges.isEmpty
  | edge _ => false
  | seq a b => needsText a || needsText b
  | alt a b => needsText a && needsText b
  | repeated p low _ => low > 0 && needsText p
  | group p => needsText p

/-- The set of characters that alternatives of one character each come to. -/
def merged? : Pattern → Option CharSet
  | one set => some set
  | alt a b => do return (← merged? a).union (← merged? b)
  | _ => none

/-- The memory of a repetition of a part that takes `part`, and `bare` where it stands once. Where
the part is blank it is not repeated; where it may match the empty text, a repetition without end
takes more states. -/
def repeatedMemory (isBlank needsText : Bool) (bare part low : Nat) (high? : Option Nat) : Nat :=
  let low := if isBlank then min low 1 else low
  let high? := if isBlank then some (min (high?.getD 1) 1) else high?
  match high? with
  | none =>
    if low = 0 then if needsText then 40 + part else 112 + part
    else low * part + 40
  | some high =>
    if high = 0 then 0
    else if low = 1 && high = 1 then bare
    else if low = 0 && high = 1 then 72 + part
    else if low = high then low * part
    else max 32 (low * part) + 32 + (high - low) * (40 + part)

/-- The memory of a pattern, where a set takes `ofSet` and the ends of a group take `ofGroup`;
`isBranch` says whether the pattern is one of several alternatives. A part that is empty takes no
state in a sequence, and one state elsewhere. -/
def memory (ofSet : CharSet → Nat) (ofGroup : Nat) (isBranch : Bool) : Pattern → Nat
  | alt a b =>
    match merged? (alt a b) with
    | some set => ofSet set + if isBranch then 4 else 0
    | none =>
      memory ofSet ofGroup true a + memory ofSet ofGroup true b + if isBranch then 0 else 64
  | empty => if isBranch then 36 else 0
  | one set => ofSet set + if isBranch then 4 else 0
  | edge _ => if isBranch then 36 else 32
  | seq a b =>
    let both := memory ofSet ofGroup false a + memory ofSet ofGroup false b
    if isBranch then max 32 both + 4 else both
  | repeated p low high? =>
    let bare := memory ofSet ofGroup false p
    let whole := repeatedMemory p.isBlank p.needsText bare (max 32 bare) low high?
    if isBranch then max 32 whole + 4 else whole
  | group p =>
    max 32 (memory ofSet ofGroup false p) + ofGroup + if isBranch then 4 else 0

/-- The memory that a pattern may take: ten mebibytes. -/
def memoryLimit : Nat := 10485760

/-- Whether a pattern takes too much memory. Read forwards, the ends of groups take states as well,
but a set never takes more than read backwards. -/
def isTooLarge (p : Pattern) : Bool :=
  p.memory CharSet.backwardMemory 0 false + 64 > memoryLimit ||
    (p.memory CharSet.backwardMemory 64 false + 128 > memoryLimit &&
      p.memory CharSet.forwardMemory 64 false + 128 > memoryLimit)

end Pattern

end ComposeCheck
