import ComposeCheck.CommandLine.Program
import ComposeCheck.Tree.Exchange

/-!
# The command line

Reads the files that a command may look at, runs the command, prints what it says and writes the
files that it has changed. The grammar's answers come from the file that `COMPOSE_LINT_PARSES`
names.
-/

namespace ComposeCheck.Main

def contentOf (bytes : ByteArray) : Content :=
  match String.fromUTF8? bytes with
  | some text => .text text
  | none => .bytes bytes.toList

/-- Adds a file or directory, and all that is below it, to a tree. -/
partial def load (tree : FileTree) (entry : IO.FS.DirEntry) : IO FileTree := do
  let names := (entry.path.components.filter (· != ""))
  if ← entry.path.isDir then
    let mut tree := tree.makeDirectory names
    for child in ← entry.path.readDir do
      tree ← load tree child
    return tree
  else if ← entry.path.pathExists then
    return tree.write names (contentOf (← IO.FS.readBinFile entry.path))
  else return tree

/-- Adds what is at an absolute path, and what the directories above it say about ignored files. -/
def loadPath (tree : FileTree) (path : String) : IO FileTree := do
  let whole ← try IO.FS.realPath path catch _ => pure path
  let names := whole.components.filter (· != "")
  let mut tree ← load tree ⟨"", whole.toString⟩
  for depth in [0:names.length] do
    let above := "/" ++ "/".intercalate (names.take depth)
    for name in [".ignore", ".gitignore", ".git/info/exclude"] do
      tree ← load tree ⟨above, name⟩
    if ← (IO.FS.DirEntry.path ⟨above, ".git"⟩).pathExists then
      tree := tree.makeDirectory (names.take depth ++ [".git"])
  return tree

/-- Writes the files that are new or different. -/
def store (before after : FileTree) : IO Unit := do
  let old := before.files
  for (names, content) in after.files do
    if old.lookup names ≠ some content then
      if let .text text := content then
        IO.FS.writeFile ("/" ++ "/".intercalate names) text

def loadParser : IO Parser := do
  match ← IO.getEnv "COMPOSE_LINT_PARSES" with
  | none => return Parser.ofList []
  | some path => return (Parser.read? (← IO.FS.readFile path)).getD (Parser.ofList [])

/-- Violations are drawn by their headlines and what helps with them. -/
def plain : Drawing where
  violation v _ := "\n  ".intercalate (v.headline :: v.help?.toList)
  usage := "Usage: compose-lint [OPTIONS] <COMMAND>\n"

/-- Where the program runs, without any files yet. -/
def surroundings : IO Surroundings := do
  let user ← IO.getEnv "COMPOSE_LINT_CONFIG_DIR"
  let home ← IO.getEnv "HOME"
  return {
    files := .empty
    directory := (← IO.currentDir).toString
    settingsPath? := ← IO.getEnv "COMPOSE_LINT_CONFIG"
    userDirectory? := user <|> home.map (FilePath.join · ".compose-lint")
    drawing := plain }

end ComposeCheck.Main

open ComposeCheck ComposeCheck.Main in
/-- Runs a command line. -/
def main (arguments : List String) : IO UInt32 := do
  let here ← surroundings
  let mut files ← loadPath .empty here.directory
  for path in Program.readsFrom here arguments do
    files ← loadPath files path
  let here := { here with files }
  let done := Program.run here (← loadParser) arguments
  store files done.files
  IO.print done.output
  if let some complaint := done.complaint? then
    IO.eprintln complaint
  return done.code.toUInt32
