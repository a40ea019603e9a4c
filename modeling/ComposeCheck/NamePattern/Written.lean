import ComposeCheck.Text.CharSet

/-!
# Patterns as they are written

The written form of a pattern as a tree. What a part means may hang on flags that are set before
it, so the tree keeps the flags where they stand. A tree must not be too deep.
-/

namespace ComposeCheck

/-- A flag that changes the meaning of what follows. -/
inductive PatternFlag where
  | ignoreCase
  /-- `^` and `$` are the edges of lines. -/
  | lines
  /-- `.` is any character at all. -/
  | dotAll
  /-- A repetition prefers the other one of the shortest and the longest text. -/
  | lazy
  /-- Characters of all languages count. -/
  | unicode
  /-- A carriage return ends a line as well. -/
  | returns
  /-- White space and comments in the pattern do not count. -/
  | spaced
  deriving DecidableEq

/-- What a list of flags between parentheses switches on and off. -/
abbrev FlagSettings := List (PatternFlag × Bool)

def FlagSettings.find? (settings : FlagSettings) (flag : PatternFlag) : Option Bool :=
  settings.lookup flag

/-- A character; `isByte` says that it is written as the two digits of a byte. -/
structure WrittenChar where
  char : Char
  isByte : Bool

/-- The kinds of characters that a letter after a backslash stands for. -/
inductive CharKind where
  | digit
  | blank
  | word
  deriving DecidableEq

/-- The edges that a sign stands for. -/
inductive EdgeSign where
  | caret
  | dollar
  | textStart
  | textEnd
  | word (isNegated : Bool)
  | wordStart
  | wordEnd
  | wordStartHalf
  | wordEndHalf
  deriving DecidableEq

/-- The operations between the parts of brackets. -/
inductive SetOperation where
  | inter
  | minus
  | difference
  deriving DecidableEq

/-- What stands between brackets. -/
inductive WrittenSet where
  | nothing
  | char (c : WrittenChar)
  | range (first last : WrittenChar)
  /-- A named set of ASCII characters, such as `[:alpha:]`. -/
  | named (set : CharSet) (isNegated : Bool)
  | kind (kind : CharKind) (isNegated : Bool)
  | property (set : CharSet) (isNegated : Bool)
  | brackets (isNegated : Bool) (inner : WrittenSet)
  /-- Two or more parts side by side. -/
  | union (parts : List WrittenSet)
  | combined (operation : SetOperation) (a b : WrittenSet)

/-- A pattern as it is written. -/
inductive WrittenPattern where
  | nothing
  | flags (settings : FlagSettings)
  | char (c : WrittenChar)
  | dot
  | edge (sign : EdgeSign)
  | kind (kind : CharKind) (isNegated : Bool)
  | property (set : CharSet) (isNegated : Bool)
  | brackets (isNegated : Bool) (inner : WrittenSet)
  | repeated (p : WrittenPattern) (low : Nat) (high? : Option Nat)
  /-- A part in parentheses with flags of its own; `counts` says whether the group has a number. -/
  | group (settings : FlagSettings) (counts : Bool) (inner : WrittenPattern)
  /-- Two or more alternatives. -/
  | either (branches : List WrittenPattern)
  /-- Two or more parts one after the other. -/
  | sequence (parts : List WrittenPattern)

namespace WrittenSet

def ofParts : List WrittenSet → WrittenSet
  | [] => nothing
  | [part] => part
  | parts => union parts

mutual

/-- How deep the parts are nested. -/
def depth : WrittenSet → Nat
  | brackets _ inner => depth inner + 1
  | union parts => depths parts + 1
  | combined _ a b => max (depth a) (depth b) + 1
  | _ => 0

/-- How deep the deepest of some parts is nested. -/
def depths : List WrittenSet → Nat
  | [] => 0
  | part :: parts => max (depth part) (depths parts)

end

end WrittenSet

namespace WrittenPattern

def ofParts : List WrittenPattern → WrittenPattern
  | [] => nothing
  | [part] => part
  | parts => sequence parts

def ofBranches : List WrittenPattern → WrittenPattern
  | [] => nothing
  | [branch] => branch
  | branches => either branches

mutual

/-- How deep the parts are nested. -/
def depth : WrittenPattern → Nat
  | brackets _ inner => inner.depth + 1
  | repeated p _ _ => depth p + 1
  | group _ _ inner => depth inner + 1
  | either branches => depths branches + 1
  | sequence parts => depths parts + 1
  | _ => 0

/-- How deep the deepest of some parts is nested. -/
def depths : List WrittenPattern → Nat
  | [] => 0
  | part :: parts => max (depth part) (depths parts)

end

def depthLimit : Nat := 250

end WrittenPattern

end ComposeCheck
