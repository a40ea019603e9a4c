import ComposeCheck.Text.Chars
import ComposeCheck.Text.Letters

/-!
# Names and their cases

Options are written `likeThis` in code and `like_this` in property files; rules are written
`like-this` and `LikeThis`.
-/

namespace ComposeCheck.Text

/-- Every upper-case character becomes its lower case, after an underscore unless it comes first. -/
def snakeChars : List Char → List Char
  | [] => []
  | first :: rest =>
    (if isUpper first then lowerOf first else [first]) ++
      rest.flatMap fun c => if isUpper c then '_' :: lowerOf c else [c]

/-- The `snake_case` spelling of a `camelCase` name. -/
def snakeCase (name : String) : String := String.ofList (snakeChars name.toList)

def mapFirst (f : Char → List Char) : List Char → List Char
  | [] => []
  | first :: rest => f first ++ rest

/-- The word with its first character in upper case. -/
def capitalized (word : String) : String := String.ofList (mapFirst upperOf word.toList)

/-- The word with its first character in lower case. -/
def decapitalized (word : String) : String := String.ofList (mapFirst lowerOf word.toList)

/-- The `PascalCase` spelling of a `kebab-case` name. -/
def pascalCase (name : String) : String := String.join ((pieces (· == '-') name).map capitalized)

/-- Whether the name starts with an upper-case character. -/
def startsUpper (name : String) : Bool := name.toList.head?.any isUpper

/-- Whether the name starts with a lower-case character. -/
def startsLower (name : String) : Bool := name.toList.head?.any isLower

end ComposeCheck.Text
