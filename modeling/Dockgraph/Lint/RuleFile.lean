import Dockgraph.File.Document
import Dockgraph.Notice

/-! Custom rules from a file that holds a list of them. A file that does not brings no rules. -/

namespace Dockgraph.Lint

/-- The rules of a file, their texts being of the given glyphs, and what is told of it. -/
def loadRulesAs (σ : Type) [Glyph σ] [DecidableEq σ] (d : Disk) (path : Text) : List (Json σ) × Notice :=
  match d.loadAs σ path with
  | .error cause =>
    ([], .operation .warning ("Failed to load custom rule pack: ".toList ++ cause.message))
  | .ok (.list rules) =>
    (rules, .operation .info ("Loaded ".toList ++ Text.ofNat rules.length ++ " custom rules from ".toList
      ++ path))
  | .ok _ =>
    ([], .operation .warning ("Custom rule pack ".toList ++ path
      ++ " is not a JSON list, ignoring it".toList))

def loadRules (d : Disk) (path : Text) : List Json × Notice :=
  loadRulesAs Char d path

end Dockgraph.Lint
