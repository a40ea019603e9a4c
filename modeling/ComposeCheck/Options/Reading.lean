import ComposeCheck.Decimal.Bounds
import ComposeCheck.Text.Chars

/-!
# Reading options

An option is asked for by name with a type and a default. The first answer for a type and a name is
kept: later questions get the same answer, whatever their default and whatever has become of the
place where options are written.
-/

namespace ComposeCheck

open Text

/-- The types an option can be asked for with. -/
inductive OptionKind where
  | int
  | text
  | flag
  | list
  | set
  deriving DecidableEq

abbrev OptionKind.Value : OptionKind → Type
  | int => Int
  | text => String
  | flag => Bool
  | list => List String
  | set => List String

/-- A kept answer. -/
structure Answer where
  kind : OptionKind
  name : String
  value : kind.Value

/-- The answers given so far, the latest first. -/
structure Memo where
  answers : List Answer

namespace Memo

/-- No answer has been given. -/
def empty : Memo := ⟨[]⟩

/-- The answer kept for a type and a name. -/
def find? (memo : Memo) (kind : OptionKind) (name : String) : Option kind.Value :=
  memo.answers.findSome? fun answer =>
    if h : answer.kind = kind ∧ answer.name = name then some (h.1 ▸ answer.value) else none

def keep (memo : Memo) (kind : OptionKind) (name : String) (value : kind.Value) : Memo :=
  ⟨⟨kind, name, value⟩ :: memo.answers⟩

def debug (memo : Memo) : String :=
  s!"ConfigResolver \x7b memoized: {memo.answers.length}, .. \x7d"

end Memo

/-- The place where options are written, as a function from names to raw text. -/
abbrev Backend := String → Option String

abbrev OptionM := ReaderT Backend (StateM Memo)

def digitsValue? : List Char → Option Nat
  | [] => none
  | digits => digits.foldl (fun value c => do
      let value ← value
      if isDigit c then some (value * 10 + (c.toNat - '0'.toNat)) else none) (some 0)

/-- A signed decimal number of 64 bits; either sign may be written. -/
def int64? (text : List Char) : Option Int := do
  let value : Int ← match text with
    | '-' :: digits => (digitsValue? digits).map fun n => -(n : Int)
    | '+' :: digits => (digitsValue? digits).map fun n => (n : Int)
    | digits => (digitsValue? digits).map fun n => (n : Int)
  if fitsSignedWord value then some value else none

/-- Reads raw text as a value of a type; `none` if it is no such value. -/
def OptionKind.read : (kind : OptionKind) → String → Option kind.Value
  | int, raw => int64? (trim raw.toList)
  | text, raw => some (trimmed raw)
  | flag, raw =>
    match asciiLowered (trimmed raw) with
    | "true" => some true
    | "false" => some false
    | _ => none
  | list, raw => some (items raw)
  | set, raw => some (items raw).eraseDups

namespace Options

/-- The answer kept for a type and a name, or else a new one from the backend or the default. -/
def get (kind : OptionKind) (name : String) (default : kind.Value) : OptionM kind.Value := do
  match (← getThe Memo).find? kind name with
  | some value => return value
  | none =>
    let value := (((← read) name).bind kind.read).getD default
    modify (·.keep kind name value)
    return value

def int (name : String) (default : Int) : OptionM Int := get .int name default

def text (name : String) (default : String) : OptionM String := get .text name default

/-- A yes or no, written `true` or `false` in any case. -/
def flag (name : String) (default : Bool) : OptionM Bool := get .flag name default

/-- Items separated by `,` or `;`, in order and with repetitions. -/
def list (name : String) (default : List String) : OptionM (List String) :=
  get .list name default

/-- Items separated by `,` or `;`, without repetitions. -/
def set (name : String) (default : List String) : OptionM (List String) :=
  get .set name default.eraseDups

end Options

end ComposeCheck
