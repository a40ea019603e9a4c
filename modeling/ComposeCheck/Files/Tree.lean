import ComposeCheck.FilePath

/-!
# Trees of files

A directory is a list of named entries. A path is followed from the root, step by step; what it
leads through has to be a directory.
-/

namespace ComposeCheck

/-- What a file holds: text, or bytes that are no text. -/
inductive Content where
  | text (text : String)
  | bytes (bytes : List UInt8)
  deriving DecidableEq

def Content.text? : Content → Option String
  | .text found => some found
  | .bytes _ => none

/-- A file, or a directory with its entries. -/
inductive FileTree where
  | file (content : Content)
  | directory (entries : List (String × FileTree))

namespace FileTree

def empty : FileTree := directory []

def isFile : FileTree → Bool
  | file _ => true
  | directory _ => false

def child? : FileTree → String → Option FileTree
  | file _, _ => none
  | directory entries, name => entries.lookup name

def find? (tree : FileTree) : List String → Option FileTree
  | [] => some tree
  | name :: names => (tree.child? name).bind fun child => child.find? names

/-- Puts an entry under a name, in place of an earlier one. -/
def putChild (name : String) (child : FileTree) : List (String × FileTree) →
    List (String × FileTree)
  | [] => [(name, child)]
  | (other, tree) :: entries =>
    if other = name then (name, child) :: entries else (other, tree) :: putChild name child entries

/-- Changes what a list of names leads to. Directories on the way are made; a file on the way gives
way to a directory. -/
def change (f : FileTree → FileTree) : List String → FileTree → FileTree
  | [], tree => f tree
  | name :: names, tree =>
    let child := (tree.child? name).getD empty
    let entries := match tree with
      | directory entries => entries
      | file _ => []
    directory (putChild name (change f names child) entries)

def makeDirectory (tree : FileTree) (names : List String) : FileTree :=
  tree.change (fun found => if found.isFile then empty else found) names

def write (tree : FileTree) (names : List String) (content : Content) : FileTree :=
  tree.change (fun _ => file content) names

/-- The steps of a path: the names and trees passed on the way, the last one first. Two dots lead
back, and no further than the root. -/
def follow (tree : FileTree) :
    List (String × FileTree) → List FilePath.Component → Option (List (String × FileTree))
  | passed, [] => some passed
  | passed, component :: components =>
    let here := (passed.head?.map (·.2)).getD tree
    match component with
    | .root => follow tree [] components
    | .here => follow tree passed components
    | .up => if here.isFile then none else follow tree passed.tail components
    | .name name =>
      let name := String.ofList name
      match here.child? name with
      | none => none
      | some child => follow tree ((name, child) :: passed) components

/-- The names that an absolute path comes down to, and what is there. A path that ends in a slash or
a dot leads to a directory only. -/
def locate? (tree : FileTree) (path : String) : Option (List String × FileTree) := do
  let passed ← tree.follow [] (FilePath.components path.toList)
  let found := (passed.head?.map (·.2)).getD tree
  if found.isFile && (Text.hasTail "/" path || Text.hasTail "/." path) then none
  else some ((passed.map (·.1)).reverse, found)

def at? (tree : FileTree) (path : String) : Option FileTree := (tree.locate? path).map (·.2)

def isFileAt (tree : FileTree) (path : String) : Bool := (tree.at? path).any isFile

def contentAt? (tree : FileTree) (path : String) : Option Content :=
  match tree.at? path with
  | some (file content) => some content
  | _ => none

def overwrite (tree : FileTree) (path text : String) : FileTree :=
  match tree.locate? path with
  | some (names, file _) => tree.write names (.text text)
  | _ => tree

mutual

/-- The files with the names that lead to them. -/
def files : FileTree → List (List String × Content)
  | file content => [([], content)]
  | directory entries => filesIn entries

def filesIn : List (String × FileTree) → List (List String × Content)
  | [] => []
  | (name, tree) :: entries =>
    (files tree).map (fun (names, content) => (name :: names, content)) ++ filesIn entries

end

end FileTree

end ComposeCheck
