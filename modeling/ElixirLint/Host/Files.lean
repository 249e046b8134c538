import ElixirLint.FileTree
import ElixirLint.Host.Bytes

/-!
# Files of a host

What programs change in a file tree, and how they name places in it. Names and contents are texts of the host.
-/

namespace ElixirLint

namespace FileTree

open Host

/-- The path that a text spells. -/
def pathOf (s : String) : Path := ⟨toBytes s⟩

/-- Where a text leads as a path. -/
def at? (t : FileTree) (s : String) : Except WalkError (Names × Entry) := t.find (pathOf s)

/-- The path from the root to a place. -/
def spelled (names : Names) : String := ofBytes (Path.slash :: Path.joinWith Path.slash names)

/-- The contents of a file; empty if there is none. -/
def contentsOf (t : FileTree) (names : Names) : List UInt8 :=
  match t.entry? names with
  | some (.file contents _) => contents
  | _ => []

/-- Sets the contents of a file, which is made if there is none. -/
def write (t : FileTree) (names : Names) (contents : List UInt8) : FileTree :=
  let runs := match t.entry? names with | some (.file _ executable) => executable | _ => false
  { t with entries := (names, .file contents runs) :: t.entries.filter fun (n, _) => n ≠ names }

/-- The place of a file to be written, whether or not it is there: its directory must be. -/
def placeFor (t : FileTree) (s : String) : Except WalkError Names :=
  match t.at? s with
  | .ok (names, _) => .ok names
  | .error .missing =>
    let p := pathOf s
    let parent := p.parent?.getD p
    match p.fileName?, if parent.bytes.isEmpty then .ok (t.current, .directory) else t.find parent with
    | some name, .ok (names, .directory) => if s.endsWith "/" then .error .missing else .ok (names ++ [name])
    | _, .error e => .error e
    | _, _ => .error .missing
  | .error e => .error e

/-- The names in a directory, in their order. -/
def namesIn (t : FileTree) (names : Names) : List String :=
  let below := t.entries.filterMap fun (n, _) => if names.isPrefixOf n then (n[names.length]?).map ofBytes else none
  (below.mergeSort fun a b => a ≤ b).eraseDups

end FileTree

end ElixirLint
