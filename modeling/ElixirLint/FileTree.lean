import ElixirLint.Path

/-!
# File trees

The files and directories that a program can see, as a value. A way through the tree is walked as the operating
system walks it: every step but the last must be a directory, two dots lead to the directory above, and a separator or
a dot at the end asks for a directory. Names have a greatest length, and so have the paths that are walked.
-/

namespace ElixirLint

/-- What a name in a directory stands for. -/
inductive Entry
  | directory
  | file (contents : List UInt8) (executable : Bool)
  deriving DecidableEq, Repr

/-- Names from the root down to a place in the tree. -/
abbrev Names := List (List UInt8)

/-- The files and directories there are, and the current directory. The directories above an entry exist too. -/
structure FileTree where
  /-- The entries that are known, by their names from the root. -/
  entries : List (Names × Entry)
  /-- The directory from which relative paths lead. -/
  current : Names
  deriving Repr

/-- Why a path leads nowhere. -/
inductive WalkError
  | missing
  | notADirectory
  /-- A name, or the whole path, is longer than any can be. -/
  | tooLong
  /-- The path holds the byte that ends paths. -/
  | holdsNul
  deriving DecidableEq, Repr

/-- Why a file could not be read. -/
inductive ReadError
  /-- The path leads nowhere. -/
  | lost (error : WalkError)
  | isDirectory
  | notText
  deriving DecidableEq, Repr

/-- The message of the operating system for a path that leads nowhere. -/
def WalkError.message : WalkError → String
  | .missing => "No such file or directory (os error 2)"
  | .notADirectory => "Not a directory (os error 20)"
  | .tooLong => "File name too long (os error 36)"
  | .holdsNul => "file name contained an unexpected NUL byte"

/-- The message of the operating system for a failed reading. -/
def ReadError.message : ReadError → String
  | .lost e => e.message
  | .isDirectory => "Is a directory (os error 21)"
  | .notText => "stream did not contain valid UTF-8"

namespace FileTree

/-- Whether some entry lies below a place. -/
def hasBelow (t : FileTree) (names : Names) : Bool :=
  t.entries.any fun (n, _) => names.isPrefixOf n && names.length < n.length

/-- What stands at a place in the tree. -/
def entry? (t : FileTree) (names : Names) : Option Entry :=
  match t.entries.lookup names with
  | some e => some e
  | none => if names.isEmpty || t.hasBelow names then some .directory else none

/-- The most bytes that a name can have. -/
def longestName : Nat := 255

/-- The most bytes that a path to be walked can have. -/
def longestPath : Nat := 4095

/-- Follows the pieces of a path from a place. -/
def walk (t : FileTree) : Names → List (List UInt8) → Except WalkError Names
  | names, [] => .ok names
  | names, piece :: rest =>
    match t.entry? names with
    | none => .error .missing
    | some (.file ..) => .error .notADirectory
    | some .directory =>
      if Path.isIdle piece then walk t names rest
      else if piece == [Path.dot, Path.dot] then walk t names.dropLast rest
      else if longestName < piece.length then .error .tooLong
      else walk t (names ++ [piece]) rest

/-- Where a path leads that is walked name by name, so that it may be of any length. -/
def locate (t : FileTree) (p : Path) : Except WalkError (Names × Entry) :=
  if p.bytes.contains 0 then .error .holdsNul
  else if p.bytes.isEmpty then .error .missing
  else
    match t.walk (if p.isAbsolute then [] else t.current) p.pieces with
    | .error e => .error e
    | .ok names =>
      match t.entry? names with
      | some e => .ok (names, e)
      | none => .error .missing

/-- Where a path leads. -/
def find (t : FileTree) (p : Path) : Except WalkError (Names × Entry) :=
  if longestPath < p.bytes.length && !p.bytes.contains 0 then .error .tooLong else t.locate p

/-- Whether a path leads to something. -/
def exists? (t : FileTree) (p : Path) : Bool := (t.find p).toOption.isSome

/-- Whether a path leads to a directory. -/
def isDirectory (t : FileTree) (p : Path) : Bool :=
  match t.find p with
  | .ok (_, .directory) => true
  | _ => false

/-- Whether a path leads to a file. -/
def isFile (t : FileTree) (p : Path) : Bool :=
  match t.find p with
  | .ok (_, .file ..) => true
  | _ => false

/-- Whether a path leads to a file that can be run. -/
def isExecutable (t : FileTree) (p : Path) : Bool :=
  match t.find p with
  | .ok (_, .file _ executable) => executable
  | _ => false

/-- The text of the file that a path leads to. -/
def readText (t : FileTree) (p : Path) : Except ReadError String :=
  match t.find p with
  | .error e => .error (.lost e)
  | .ok (_, .directory) => .error .isDirectory
  | .ok (_, .file contents _) =>
    match Text.decodeUtf8? contents with
    | some s => .ok s
    | none => .error .notText

/-- The path from the root that leads where a path leads, without dots. -/
def canonical (t : FileTree) (p : Path) : Except WalkError Path :=
  match t.locate p with
  | .error e => .error e
  | .ok (names, _) => .ok ⟨Path.slash :: Path.joinWith Path.slash names⟩

end FileTree

end ElixirLint
