import ComposeCheck.Files.IgnoreFile

/-!
# Walking through files

A walk visits what lies below a directory, hidden files too, except what ignore files leave out.
`.ignore` files always count. `.gitignore` files count below a directory with a `.git` or `.jj` if
they are respected, and a repository hides those of the repositories around it. The directories
above the start of the walk have their say as well, and there a pattern that is not valid ends the
walk.
-/

namespace ComposeCheck

/-- Why a walk finds nothing. -/
inductive WalkError where
  /-- There is nothing at the start. -/
  | nothingThere
  /-- An ignore file above the start has a pattern that is not valid. -/
  | brokenPattern
  deriving DecidableEq

/-- What one directory says about the paths below it. -/
structure IgnoreLevel where
  /-- The number of names that lead to the directory. -/
  depth : Nat
  /-- Whether a repository starts here. -/
  isRepository : Bool
  ignoreFile : IgnoreFile
  gitIgnore : IgnoreFile
  gitExclude : IgnoreFile

namespace IgnoreLevel

/-- The ignore file below a directory that some names lead to. -/
def ignoreFileAt (directory : FileTree) (names : List String) : IgnoreFile :=
  match directory.find? names with
  | some (.file content) => .ofContent content
  | _ => .empty

def of (respectGitIgnore : Bool) (depth : Nat) (directory : FileTree) : IgnoreLevel :=
  { depth
    isRepository := (directory.child? ".git").isSome || (directory.child? ".jj").isSome
    ignoreFile := ignoreFileAt directory [".ignore"]
    gitIgnore := if respectGitIgnore then ignoreFileAt directory [".gitignore"] else .empty
    gitExclude := ignoreFileAt directory [".git", "info", "exclude"] }

/-- Whether one of the directory's ignore files has a pattern that is not valid. -/
def isBroken (level : IgnoreLevel) : Bool :=
  level.ignoreFile.isBroken || level.gitIgnore.isBroken || level.gitExclude.isBroken

/-- What a directory above the start of a walk says: that it is a repository counts only if
`.gitignore` files are respected. -/
def above (respectGitIgnore : Bool) (depth : Nat) (directory : FileTree) : IgnoreLevel :=
  let level := of respectGitIgnore depth directory
  { level with isRepository := level.isRepository && respectGitIgnore }

/-- The levels of one repository: up to the first where one starts. There are none if no level is
in a repository. -/
def repository (levels : List IgnoreLevel) : List IgnoreLevel :=
  if levels.any (·.isRepository) then
    levels.takeWhile (!·.isRepository) ++ (levels.dropWhile (!·.isRepository)).take 1
  else []

/-- Whether the levels, the innermost first, leave out what some names lead to. Of each kind of
file the innermost that says something counts; `.ignore` comes before `.gitignore`. -/
def leaveOut (levels : List IgnoreLevel) (names : List String) (isDirectory : Bool) : Bool :=
  let ask (kind : IgnoreLevel → IgnoreFile) (level : IgnoreLevel) : Option Bool :=
    (kind level).verdict? ("/".intercalate (names.drop level.depth)) isDirectory
  let inside := repository levels
  ((levels.findSome? (ask (·.ignoreFile)))
    <|> (inside.findSome? (ask (·.gitIgnore)))
    <|> (inside.findSome? (ask (·.gitExclude)))).getD false

end IgnoreLevel

namespace FileTree

mutual

/-- The names, below the start of the walk, of the files that a walk finds. `names` leads to the
tree from the root, and `depth` is the number of names that lead to the start. -/
def walkFrom (respectGitIgnore : Bool) (depth : Nat) (levels : List IgnoreLevel)
    (names : List String) : FileTree → List (List String)
  | file _ => [names.drop depth]
  | directory entries =>
    let level := IgnoreLevel.of respectGitIgnore names.length (directory entries)
    walkEntries respectGitIgnore depth (level :: levels) names entries

/-- The files found below the entries of a directory. -/
def walkEntries (respectGitIgnore : Bool) (depth : Nat) (levels : List IgnoreLevel)
    (names : List String) : List (String × FileTree) → List (List String)
  | [] => []
  | (name, tree) :: entries =>
    let path := names ++ [name]
    (if IgnoreLevel.leaveOut levels path (!tree.isFile) then []
      else walkFrom respectGitIgnore depth levels path tree) ++
      walkEntries respectGitIgnore depth levels names entries

end

/-- What the directories above the end of some names say, the innermost first. -/
def levelsAbove (respectGitIgnore : Bool) :
    (depth : Nat) → List String → FileTree → List IgnoreLevel
  | _, [], _ => []
  | depth, name :: names, tree =>
    ((tree.child? name).map (levelsAbove respectGitIgnore (depth + 1) names)).getD [] ++
      [IgnoreLevel.above respectGitIgnore depth tree]

/-- The files that a walk from an absolute path finds, as names below it. -/
def walk (tree : FileTree) (respectGitIgnore : Bool) (path : String) :
    Except WalkError (List (List String)) :=
  match tree.locate? path with
  | none => .error .nothingThere
  | some (names, found) =>
    let levels := levelsAbove respectGitIgnore 0 names tree
    if levels.any IgnoreLevel.isBroken then .error .brokenPattern
    else .ok (found.walkFrom respectGitIgnore names.length levels names)

end FileTree

end ComposeCheck
