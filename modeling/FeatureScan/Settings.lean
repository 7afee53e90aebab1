import FeatureScan.Scanner

/-!
# Settings

Where a user's rules lie, whether they are read at all, and what the user has chosen about scans.

## Main results

* `Settings.path_builtinOnly`: settings without rules of a user still name the usual file.
-/

namespace FeatureScan

/-- The settings of a store of rules and of the scanners made from it. -/
structure Settings where
  /-- The file with the user's rules. -/
  path : String
  /-- Whether the file is read. -/
  loads : Bool := true
  /-- What the user has chosen about scans. -/
  options : ScanOptions := {}
  deriving DecidableEq, Repr

namespace Settings

/-- The name of the file with the user's rules where nothing else is said. -/
def usualFile : String := "custom_rules.json"

/-- The file with the user's rules, if a variable of the environment may name it. An empty name does
not count. -/
def usualPath (override? : Option String) : String :=
  match override? with
  | some path => if path = "" then usualFile else path
  | none => usualFile

/-- The settings where nothing is said but by the environment. -/
def usual (override? : Option String) : Settings := { path := usualPath override? }

/-- The settings for builtin rules alone. -/
def builtinOnly (override? : Option String) : Settings := { usual override? with loads := false }

/-- The settings for the rules of a given file. -/
def ofFile (path : String) : Settings := { path }

theorem path_builtinOnly (override? : Option String) :
    (builtinOnly override?).path = (usual override?).path := rfl

end Settings

end FeatureScan
