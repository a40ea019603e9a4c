import ComposeCheck.Text.Property

/-!
# Name patterns

Options may hold patterns for names: characters from sets, edges between two characters, and what
sequences, alternatives and repetitions make of these. A text is read once: marks stand on the sets
that have just read a character, and the next character moves them all on, so that no choice has to
be tried one by one.
-/

namespace ComposeCheck

/-- A place between two characters that has to do with words. -/
inductive WordEdge where
  /-- A word starts or ends here. -/
  | either
  | neither
  | start
  | finish
  /-- No word goes on before this place. -/
  | startHalf
  /-- No word goes on after this place. -/
  | finishHalf
  deriving DecidableEq

/-- A place between two characters. -/
inductive TextEdge where
  | start
  | finish
  /-- The start of a line; with `returns`, carriage returns end lines too. -/
  | lineStart (returns : Bool)
  /-- The end of a line; with `returns`, carriage returns end lines too. -/
  | lineEnd (returns : Bool)
  /-- An edge of words, which consist of ASCII characters only or of characters of any language. -/
  | word (isAscii : Bool) (edge : WordEdge)
  deriving DecidableEq

def asciiWord : CharSet := .ofRanges [(48, 57), (65, 90), (95, 95), (97, 122)]

/-- Whether a place with or without a word before it and after it is such an edge. -/
def WordEdge.holds (before after : Bool) : WordEdge → Bool
  | either => before != after
  | neither => before == after
  | start => !before && after
  | finish => before && !after
  | startHalf => !before
  | finishHalf => !after

/-- Whether a place with these neighbours is such an edge. -/
def TextEdge.holds (before after : Option Char) : TextEdge → Bool
  | start => before.isNone
  | finish => after.isNone
  | lineStart false => before.all (· == '\n')
  | lineStart true => before.all fun c => c == '\n' || (c == '\r' && after != some '\n')
  | lineEnd false => after.all (· == '\n')
  | lineEnd true => after.all fun c => c == '\r' || (c == '\n' && before != some '\r')
  | word isAscii edge =>
    let isWord : Char → Bool := (if isAscii then asciiWord else Text.Property.word).has
    edge.holds (before.any isWord) (after.any isWord)

/-- A pattern. -/
inductive Pattern where
  | empty
  | one (set : CharSet)
  | edge (place : TextEdge)
  | seq (a b : Pattern)
  | alt (a b : Pattern)
  /-- A pattern at least so many times, and at most so many times if there is a bound. -/
  | repeated (p : Pattern) (low : Nat) (high? : Option Nat)
  /-- A pattern in parentheses that count. -/
  | group (p : Pattern)

/-- A pattern with a mark on each set that has just read a character. -/
inductive MarkedPattern where
  | empty
  | one (set : CharSet) (mark : Bool)
  | edge (place : TextEdge)
  | seq (a b : MarkedPattern)
  | alt (a b : MarkedPattern)
  | star (a : MarkedPattern)

namespace MarkedPattern

/-- Whether the pattern matches the empty text between two characters. -/
def isEmptyAt (before after : Option Char) : MarkedPattern → Bool
  | empty => true
  | one _ _ => false
  | edge place => place.holds before after
  | seq a b => isEmptyAt before after a && isEmptyAt before after b
  | alt a b => isEmptyAt before after a || isEmptyAt before after b
  | star _ => true

/-- Whether a match that has read something ends between two characters. -/
def isFinalAt (before after : Option Char) : MarkedPattern → Bool
  | empty => false
  | one _ mark => mark
  | edge _ => false
  | seq a b => (isFinalAt before after a && isEmptyAt before after b) || isFinalAt before after b
  | alt a b => isFinalAt before after a || isFinalAt before after b
  | star a => isFinalAt before after a

/-- Moves the marks on by a character; `enter` says whether a match may start before it. -/
def read (before : Option Char) (c : Char) (enter : Bool) : MarkedPattern → MarkedPattern
  | empty => empty
  | one set _ => one set (enter && set.has c)
  | edge place => edge place
  | seq a b =>
    let through := (enter && isEmptyAt before (some c) a) || isFinalAt before (some c) a
    seq (read before c enter a) (read before c through b)
  | alt a b => alt (read before c enter a) (read before c enter b)
  | star a => star (read before c (enter || isFinalAt before (some c) a) a)

/-- So many times a pattern, and then another. -/
def times (p : MarkedPattern) : Nat → MarkedPattern → MarkedPattern
  | 0, last => last
  | n + 1, last => seq p (times p n last)

/-- Up to so many times a pattern. -/
def upTo (p : MarkedPattern) : Nat → MarkedPattern
  | 0 => empty
  | n + 1 => alt empty (seq p (upTo p n))

/-- Whether a match ends here or further on in the text, where matches may start anywhere. -/
def isFoundFrom (before : Option Char) (p : MarkedPattern) : List Char → Bool
  | [] => isEmptyAt before none p || isFinalAt before none p
  | c :: cs =>
    isEmptyAt before (some c) p || isFinalAt before (some c) p ||
      isFoundFrom (some c) (p.read before c true) cs

end MarkedPattern

namespace Pattern

/-- The pattern without marks, for texts with so many places between characters, the ends among
them. It needs no more repetitions than there are places: one that goes on in more steps than that
reads nothing in some step, and may do so as often as is asked for. -/
def unmarked (places : Nat) : Pattern → MarkedPattern
  | empty => .empty
  | one set => .one set false
  | edge place => .edge place
  | seq a b => .seq (unmarked places a) (unmarked places b)
  | alt a b => .alt (unmarked places a) (unmarked places b)
  | repeated p low high? =>
    let once := unmarked places p
    let last := match high? with
      | none => .star once
      | some high => once.upTo (min (high - low) places)
    once.times (min low places) last
  | group p => unmarked places p

/-- Whether the pattern matches some part of a text. -/
def isFoundIn (p : Pattern) (text : String) : Bool :=
  let cs := text.toList
  (p.unmarked (cs.length + 1)).isFoundFrom none cs

end Pattern

end ComposeCheck
