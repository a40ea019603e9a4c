import ComposeCheck.Options.EditorConfig
import ComposeCheck.Text.Naming

/-!
# Where options are written

Rules ask for options by their `camelCase` name. A source maps the name to the key it uses itself
and answers with the raw text; a list of sources answers with the first that knows the option.
-/

namespace ComposeCheck

/-- A place where options are written down. -/
inductive OptionSource where
  /-- Options under their own names; a later entry replaces an earlier one. -/
  | table (values : List (String × String))
  /-- Options in a property file, under `compose_` and the name in snake case. -/
  | editorConfig (file : EditorConfig)

namespace OptionSource

/-- The key under which a source keeps the option. -/
def keyFor : OptionSource → String → String
  | table _, name => name
  | editorConfig _, name => "compose_" ++ Text.snakeCase name

/-- The raw text under a key. -/
def lookup : OptionSource → String → Option String
  | table values, key => values.reverse.lookup key
  | editorConfig file, key => file.lookup key

def resolve (source : OptionSource) (name : String) : Option String :=
  source.lookup (source.keyFor name)

end OptionSource

/-- Sources in order of priority. -/
structure OptionChain where
  sources : List OptionSource

namespace OptionChain

def lookup (chain : OptionChain) (key : String) : Option String :=
  chain.sources.findSome? (·.lookup key)

def resolve (chain : OptionChain) (name : String) : Option String :=
  chain.sources.findSome? (·.resolve name)

def debug (chain : OptionChain) : String :=
  s!"ChainedSource \x7b sources: {chain.sources.length} \x7d"

end OptionChain

end ComposeCheck
