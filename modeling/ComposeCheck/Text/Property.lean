import ComposeCheck.Text.AgeTable
import ComposeCheck.Text.BreakTable
import ComposeCheck.Text.CategoryTable
import ComposeCheck.Text.CharSet
import ComposeCheck.Text.PropertyTable
import ComposeCheck.Text.ScriptTable

/-!
# Properties of characters

Sets of characters by the name of a property, or by a property and one of its values. In a name,
case, blanks, dashes, underscores, characters beyond ASCII and an `is` in front do not count.
-/

namespace ComposeCheck.Text

def Table.find? (table : List (List String × List String)) (name : String) : Option CharSet :=
  (table.find? fun (names, _) => names.contains name).map fun (_, lines) => .ofLines lines

namespace Property

/-- The characters of some general categories. -/
def ofCategories (names : List String) : CharSet :=
  .unions (names.filterMap (Table.find? Table.categories))

/-- The characters with a property that follows from no others. -/
def listed (name : String) : CharSet := (Table.find? Table.properties name).getD .empty

/-! ### Properties that follow from others -/

def letter : CharSet := ofCategories ["lu", "ll", "lt", "lm", "lo"]

/-- Marks that belong to the character before. -/
def mark : CharSet := ofCategories ["mn", "mc", "me"]

/-- Numbers: decimal digits, letters that are numbers, and others. -/
def number : CharSet := ofCategories ["nd", "nl", "no"]

def digit : CharSet := ofCategories ["nd"]

def blank : CharSet := listed "whitespace"

def lowercase : CharSet := (ofCategories ["ll"]).union (listed "otherlowercase")

def uppercase : CharSet := (ofCategories ["lu"]).union (listed "otheruppercase")

def alphabetic : CharSet :=
  .unions [letter, ofCategories ["nl"], lowercase, uppercase, listed "otheralphabetic"]

/-- The characters of words: letters, marks, decimal digits, connectors and joiners. -/
def word : CharSet :=
  .unions [alphabetic, mark, digit, ofCategories ["pc"], listed "joincontrol"]

def cased : CharSet := .unions [lowercase, uppercase, ofCategories ["lt"]]

def caseIgnorable : CharSet :=
  (ofCategories ["mn", "me", "cf", "lm", "sk"]).union
    (.ofLines ["27 7 c 7d 2d0 1d8 95 1a24.1 b 3 ddec 3f 3 b2 7 c"])

def casemapped : CharSet :=
  .unions [listed "cwl", listed "cwt", listed "cwu"]

def math : CharSet := (ofCategories ["sm"]).union (listed "othermath")

def graphemeExtend : CharSet := (ofCategories ["me", "mn"]).union (listed "othergraphemeextend")

/-- The code points without a character, the surrogates among them. -/
def withoutCharacter : CharSet :=
  (CharSet.unions (Table.categories.map fun (_, lines) => .ofLines lines)).complement

/-- The surrogates, which are code points but no characters. -/
def surrogate : CharSet := .range 0xd800 0xdfff

/-- The code points that no character has been given to. -/
def unassigned : CharSet := withoutCharacter.minus surrogate

def graphemeBase : CharSet :=
  (CharSet.unions [withoutCharacter, ofCategories ["cc", "cf", "co", "zl", "zp"],
    graphemeExtend]).complement

/-- The characters that patterns of any language use. -/
def pattern : CharSet := (listed "patternsyntax").union (listed "patternwhitespace")

def idStart : CharSet :=
  (CharSet.unions [letter, ofCategories ["nl"], listed "otheridstart"]).minus pattern

def idContinue : CharSet :=
  (CharSet.unions [idStart, ofCategories ["mn", "mc", "nd", "pc"],
    listed "otheridcontinue"]).minus pattern

/-- The characters that may stand in a name, but not in its compatibility form. -/
def notContinue : CharSet :=
  .ofLines ["37a 2d21.1 cbc2.5 197.1 75:7"]

/-- The characters that may start a name, but not its compatibility form. -/
def notStart : CharSet := notContinue.union (.ofLines ["e33 80 f0eb.1"])

def defaultIgnorable : CharSet :=
  (CharSet.unions [listed "otherdefaultignorablecodepoint", ofCategories ["cf"],
    listed "variationselector"]).minus
    (CharSet.unions [blank, .range 0xfff9 0xfffb, .range 0x13430 0x1343f,
      listed "prependedconcatenationmark"])

/-! ### Look-up -/

/-- A name without what does not count. -/
def looseName (name : List Char) : String :=
  let isPrefixed := (name.take 2).map asciiLower == ['i', 's']
  let kept := ((if isPrefixed then name.drop 2 else name).filter fun c =>
    c.toNat < 128 && c != ' ' && c != '_' && c != '-').map asciiLower
  if isPrefixed && kept == ['c'] then "isc" else String.ofList kept

def binary? (name : String) : Option CharSet :=
  match name with
  | "alphabetic" | "alpha" => some alphabetic
  | "lowercase" | "lower" => some lowercase
  | "uppercase" | "upper" => some uppercase
  | "cased" => some cased
  | "caseignorable" | "ci" => some caseIgnorable
  | "changeswhencasemapped" | "cwcm" => some casemapped
  | "math" => some math
  | "graphemeextend" | "grext" => some graphemeExtend
  | "graphemebase" | "grbase" => some graphemeBase
  | "idstart" | "ids" => some idStart
  | "idcontinue" | "idc" => some idContinue
  | "xidstart" | "xids" => some (idStart.minus notStart)
  | "xidcontinue" | "xidc" => some (idContinue.minus notContinue)
  | "defaultignorablecodepoint" | "di" => some defaultIgnorable
  | name => Table.find? Table.properties name

/-- The characters of a general category, or of a group of them. -/
def category? (name : String) : Option CharSet :=
  match name with
  | "any" => some .everything
  | "assigned" => some (unassigned.complement)
  | "ascii" => some (.range 0 127)
  | "cn" | "unassigned" => some unassigned
  | "lc" | "casedletter" => some (ofCategories ["lu", "ll", "lt"])
  | "l" | "letter" => some letter
  | "m" | "mark" | "combiningmark" => some mark
  | "n" | "number" => some number
  | "p" | "punctuation" | "punct" =>
    some (ofCategories ["pc", "pd", "ps", "pe", "pi", "pf", "po"])
  | "s" | "symbol" => some (ofCategories ["sm", "sc", "sk", "so"])
  | "z" | "separator" => some (ofCategories ["zs", "zl", "zp"])
  | "c" | "other" => some ((ofCategories ["cc", "cf", "co"]).union unassigned)
  | name => Table.find? Table.categories name

def script? (name : String) : Option CharSet := Table.find? Table.scripts name

/-- The characters that a script uses. Characters of no script, or of the script of what stands
before them, are left out there as far as they are known to be used by some scripts only. -/
def usedByScript? (name : String) : Option CharSet := do
  let (names, lines) ← Table.scripts.find? fun (names, _) => names.contains name
  let own := CharSet.ofLines lines
  if names.contains "common" || names.contains "inherited" then
    let used := CharSet.unions (Table.sharedByScript.map fun (_, lines) => .ofLines lines)
    return own.minus used
  else
    let shared := Table.sharedByScript.find? fun (shared, _) => shared.any names.contains
    return own.union ((shared.map fun (_, lines) => CharSet.ofLines lines).getD .empty)

/-- The characters of a version of the character set and of those before it. -/
def byAge? (name : String) : Option CharSet :=
  if Table.ages.any fun (names, _) => names.contains name then
    let before := Table.ages.takeWhile fun (names, _) => !names.contains name
    let ages := Table.ages.take (before.length + 1)
    some (.unions (ages.map fun (_, lines) => .ofLines lines))
  else none

/-- Hangul syllables without a final consonant. -/
def openSyllables : CharSet :=
  .ofRanges ((List.range 399).map fun k => (0xac00 + 28 * k, 0xac00 + 28 * k))

def syllables : CharSet := .range 0xac00 0xd7a3

/-- The characters with a value of Grapheme_Cluster_Break. -/
def graphemeBreak? (name : String) : Option CharSet :=
  match name with
  | "lv" => some openSyllables
  | "lvt" => some (syllables.minus openSyllables)
  | name => Table.find? Table.graphemeBreaks name

/-- The characters that a name between braces stands for: a property, a general category or a
script, in this order. Three short names mean a category although properties have them too. -/
def find? (name : List Char) : Option CharSet :=
  let name := looseName name
  let binary := if name == "cf" || name == "sc" || name == "lc" then none else binary? name
  binary <|> category? name <|> script? name

def findValue? (property value : List Char) : Option CharSet :=
  let value := looseName value
  match looseName property with
  | "gc" | "generalcategory" => category? value
  | "sc" | "script" => script? value
  | "scx" | "scriptextensions" => usedByScript? value
  | "age" => byAge? value
  | "gcb" | "graphemeclusterbreak" => graphemeBreak? value
  | "wb" | "wordbreak" => Table.find? Table.wordBreaks value
  | "sb" | "sentencebreak" => Table.find? Table.sentenceBreaks value
  | _ => none

end Property

end ComposeCheck.Text
