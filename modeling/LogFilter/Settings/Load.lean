import LogFilter.Settings.Decode
import LogFilter.Settings.Environment
import LogFilter.Settings.File
import LogFilter.Settings.Path

/-!
# Loading Settings

The settings of a program are those of its file, with those of the environment laid over them.

## Main definitions

* `Settings.load`: the settings of a program.
-/

namespace LogFilter.Settings

/-- The tree that holds nothing yet. -/
def blank : Tree := .table [] none

/-- A source laid over a tree, key by key. -/
def layer (tree : Tree) (source : List (String × Tree)) : Tree :=
  source.foldl (fun tree (key, value) => value.assign (pathOf key) (some tree)) tree

/-- The **settings of a program**, from the files it can read, the variables of its environment,
the path of its own file and the host that it runs on. -/
def load (content? : String → Option String) (environment : List (String × String))
    (path : String) (host : Host := .plain) : Except Error Settings :=
  let settings := do
    let source ← host.fileSource content? path
    let tree := layer (layer blank source) (environmentSource environment)
    ofMembers (Tree.membersOf (some tree)).1
  settings.mapError .settings

end LogFilter.Settings
