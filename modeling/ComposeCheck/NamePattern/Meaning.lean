import ComposeCheck.NamePattern.Basic
import ComposeCheck.NamePattern.Written
import ComposeCheck.Text.Folding

/-!
# What a written pattern means

The flags that are set before a part decide what it means. Where characters of all languages do not
count, sets and kinds have to be ASCII, and so a complement, a property or `.` means nothing.
-/

namespace ComposeCheck

/-- The flags in force. -/
structure PatternFlags where
  ignoreCase : Bool := false
  lines : Bool := false
  dotAll : Bool := false
  unicode : Bool := true
  returns : Bool := false

namespace PatternFlags

def set (flags : PatternFlags) (settings : FlagSettings) : PatternFlags where
  ignoreCase := (settings.find? .ignoreCase).getD flags.ignoreCase
  lines := (settings.find? .lines).getD flags.lines
  dotAll := (settings.find? .dotAll).getD flags.dotAll
  unicode := (settings.find? .unicode).getD flags.unicode
  returns := (settings.find? .returns).getD flags.returns

/-- A set, with the other cases of its letters if case does not count. -/
def folded (flags : PatternFlags) (set : CharSet) : CharSet :=
  if !flags.ignoreCase then set
  else if flags.unicode then set.ignoringCase
  else set.ignoringAsciiCase

/-- A set or its complement; it has to be ASCII where other characters do not count. -/
def checked? (flags : PatternFlags) (isNegated : Bool) (set : CharSet) : Option CharSet :=
  let set := if isNegated then set.complement else set
  if flags.unicode || set.isAscii then some set else none

def kindOf (flags : PatternFlags) : CharKind → CharSet
  | .digit => if flags.unicode then Text.Property.digit else .range 48 57
  | .blank => if flags.unicode then Text.Property.blank else .ofRanges [(9, 13), (32, 32)]
  | .word => if flags.unicode then Text.Property.word else asciiWord

def edgeOf (flags : PatternFlags) : EdgeSign → TextEdge
  | .caret => if flags.lines then .lineStart flags.returns else .start
  | .dollar => if flags.lines then .lineEnd flags.returns else .finish
  | .textStart => .start
  | .textEnd => .finish
  | .word isNegated => .word (!flags.unicode) (if isNegated then .neither else .either)
  | .wordStart => .word (!flags.unicode) .start
  | .wordEnd => .word (!flags.unicode) .finish
  | .wordStartHalf => .word (!flags.unicode) .startHalf
  | .wordEndHalf => .word (!flags.unicode) .finishHalf

/-- The characters that `.` means. -/
def dot? (flags : PatternFlags) : Option CharSet :=
  if !flags.unicode then none
  else if flags.dotAll then some .everything
  else if flags.returns then some (CharSet.ofChars ['\n', '\r']).complement
  else some (CharSet.single '\n').complement

def property? (flags : PatternFlags) (set : CharSet) (isNegated : Bool) : Option CharSet :=
  if flags.unicode then flags.checked? isNegated (flags.folded set) else none

/-- The characters that a character on its own means. -/
def char? (flags : PatternFlags) (c : WrittenChar) : Option CharSet :=
  if !flags.unicode && c.isByte && c.char.toNat ≥ 128 then none
  else some (flags.folded (.single c.char))

end PatternFlags

namespace WrittenSet

def apply : SetOperation → CharSet → CharSet → CharSet
  | .inter => CharSet.inter
  | .minus => CharSet.minus
  | .difference => CharSet.difference

mutual

def meaning? (flags : PatternFlags) : WrittenSet → Option CharSet
  | nothing => some .empty
  | char c => flags.checked? false (.single c.char)
  | range first last => flags.checked? false (.range first.char.toNat last.char.toNat)
  | named set isNegated => flags.checked? isNegated (flags.folded set)
  | kind sort isNegated => flags.checked? isNegated (flags.kindOf sort)
  | property set isNegated => flags.property? set isNegated
  | brackets isNegated inner =>
    (meaning? flags inner).bind fun set => flags.checked? isNegated (flags.folded set)
  | union parts => (meanings? flags parts).map .unions
  | combined operation a b => do
    return apply operation (flags.folded (← meaning? flags a)) (flags.folded (← meaning? flags b))

def meanings? (flags : PatternFlags) : List WrittenSet → Option (List CharSet)
  | [] => some []
  | part :: parts => do return (← meaning? flags part) :: (← meanings? flags parts)

end

end WrittenSet

namespace WrittenPattern

def alternatives : List Pattern → Pattern
  | [] => .empty
  | [p] => p
  | p :: ps => .alt p (alternatives ps)

def inSequence : List Pattern → Pattern
  | [] => .empty
  | [p] => p
  | p :: ps => .seq p (inSequence ps)

mutual

/-- What a part means under some flags, and the flags after it. -/
def meaning? (before : PatternFlags) : WrittenPattern → Option (Pattern × PatternFlags)
  | nothing => some (.empty, before)
  | flags settings => some (.empty, before.set settings)
  | char c => (before.char? c).map fun set => (.one set, before)
  | dot => before.dot?.map fun set => (.one set, before)
  | edge sign => some (.edge (before.edgeOf sign), before)
  | kind sort isNegated =>
    (before.checked? isNegated (before.kindOf sort)).map fun set => (.one set, before)
  | property set isNegated => (before.property? set isNegated).map fun set => (.one set, before)
  | brackets isNegated inner =>
    ((WrittenSet.brackets isNegated inner).meaning? before).map fun set => (.one set, before)
  | repeated p low high? =>
    (meaning? before p).map fun (p, after) => (.repeated p low high?, after)
  | group settings counts inner =>
    (meaning? (before.set settings) inner).map fun (p, _) =>
      (if counts then .group p else p, before)
  | either branches => (meanings? before branches).map fun (ps, after) => (alternatives ps, after)
  | sequence parts => (meanings? before parts).map fun (ps, after) => (inSequence ps, after)

/-- What parts mean one after the other, and the flags after them. -/
def meanings? (before : PatternFlags) :
    List WrittenPattern → Option (List Pattern × PatternFlags)
  | [] => some ([], before)
  | part :: parts => do
    let (p, between) ← meaning? before part
    let (ps, after) ← meanings? between parts
    return (p :: ps, after)

end

end WrittenPattern

end ComposeCheck
