import ElixirLint.Text.Utf8

/-!
# Paths

A path is a list of bytes, any bytes but with slashes as separators. It is compared by its components: repeated
separators, a separator at the end and dots between separators do not matter, while two dots stay as they are. Where
a path is shortened, the spelling of what remains is kept.
-/

namespace ElixirLint

/-- A path as it is spelled. -/
structure Path where
  /-- The bytes of the path. -/
  bytes : List UInt8
  deriving DecidableEq, Repr

namespace Path

/-- The separator between components. -/
def slash : UInt8 := 47

/-- The byte of a dot. -/
def dot : UInt8 := 46

/-- The byte that separates the directories of a search path. -/
def colon : UInt8 := 58

/-- The path spelled by a text. -/
def ofString (s : String) : Path := ⟨Text.utf8Bytes s⟩

/-- A path in messages; bytes that are no text show as replacement characters. -/
def display (p : Path) : String := Text.decodeUtf8Lossy p.bytes

/-- Whether a path starts at the root. -/
def isAbsolute (p : Path) : Bool := p.bytes.head? == some slash

/-- The parts of a list of bytes between occurrences of a separator. -/
def splitOn (sep : UInt8) : List UInt8 → List (List UInt8)
  | [] => [[]]
  | b :: bs =>
    if b = sep then [] :: splitOn sep bs
    else
      match splitOn sep bs with
      | [] => [[b]]
      | p :: ps => (b :: p) :: ps

/-- Parts with a separator between neighbours. -/
def joinWith (sep : UInt8) (parts : List (List UInt8)) : List UInt8 := [sep].intercalate parts

/-- The pieces of a path between its separators. The first piece of an absolute path is empty. -/
def pieces (p : Path) : List (List UInt8) := splitOn slash p.bytes

/-- One step of the way that a path describes. -/
inductive Component
  /-- From the root. -/
  | root
  /-- From the current directory; only at the front of a path. -/
  | here
  /-- To the directory above. -/
  | parent
  /-- To an entry of a directory. -/
  | name (bytes : List UInt8)
  deriving DecidableEq, Repr

/-- The component that a piece behind the first stands for; none for an empty piece or a dot. -/
def laterComponent? (piece : List UInt8) : Option Component :=
  if piece.isEmpty || piece == [dot] then none
  else if piece == [dot, dot] then some .parent
  else some (.name piece)

/-- The component that the first piece of a path stands for; an empty path has none. -/
def firstComponent? (absolute : Bool) (piece : List UInt8) : Option Component :=
  if absolute then some .root
  else if piece == [dot] then some .here
  else laterComponent? piece

/-- The components of a path. -/
def components (p : Path) : List Component :=
  match p.pieces with
  | [] => []
  | first :: rest => (firstComponent? p.isAbsolute first).toList ++ rest.filterMap laterComponent?

/-- Whether two paths have the same components. -/
def same (p q : Path) : Bool := p.components == q.components

/-- Whether the components of a path begin with those of another. -/
def startsWith (p base : Path) : Bool := base.components.isPrefixOf p.components

/-- A path below another. An absolute path takes its place. -/
def join (base p : Path) : Path :=
  if p.isAbsolute then p
  else if base.bytes.isEmpty || base.bytes.getLast? == some slash then ⟨base.bytes ++ p.bytes⟩
  else ⟨base.bytes ++ slash :: p.bytes⟩

/-- Whether a piece behind the first makes no difference: empty, or a dot. -/
def isIdle (piece : List UInt8) : Bool := piece.isEmpty || piece == [dot]

/-- Pieces in reverse order, without those at the end of the path that make no difference. The first piece of the
path stays. -/
def trimLast : List (List UInt8) → List (List UInt8)
  | [] => []
  | [first] => [first]
  | piece :: rest => if isIdle piece then trimLast rest else piece :: rest

/-- The path that pieces in reverse order spell. A single empty piece is the root of an absolute path. -/
def spell (absolute : Bool) (reversed : List (List UInt8)) : Path :=
  match reversed with
  | [[]] => if absolute then ⟨[slash]⟩ else ⟨[]⟩
  | _ => ⟨joinWith slash reversed.reverse⟩

/-- The paths above one, given its pieces in reverse order, the nearest first. -/
def above (absolute : Bool) : List (List UInt8) → List Path
  | [] => []
  | [first] => if absolute || first.isEmpty then [] else [⟨[]⟩]
  | piece :: rest =>
    if isIdle piece then above absolute rest else spell absolute (trimLast rest) :: above absolute rest

/-- A path and all paths above it, the nearest first. -/
def ancestors (p : Path) : List Path := p :: above p.isAbsolute p.pieces.reverse

/-- The path without its last component; none for the root and the empty path. -/
def parent? (p : Path) : Option Path := (above p.isAbsolute p.pieces.reverse).head?

/-- Pieces behind those that make up a number of components. -/
def dropComponents : Nat → List (List UInt8) → List (List UInt8)
  | 0, ps => ps
  | _ + 1, [] => []
  | n + 1, piece :: ps => if isIdle piece then dropComponents (n + 1) ps else dropComponents n ps

/-- What is left of a path behind the components of another, spelled as it was; none if the path does not begin with
them. -/
def stripBase? (p base : Path) : Option Path :=
  if !p.startsWith base then none
  else
    match base.components.length with
    | 0 => some (spell p.isAbsolute (trimLast p.pieces.reverse))
    | n + 1 =>
      let rest :=
        match p.pieces with
        | [] => []
        | first :: rest =>
          if (firstComponent? p.isAbsolute first).isSome then dropComponents n rest else dropComponents (n + 1) rest
      some (spell false (trimLast (rest.dropWhile isIdle).reverse))

/-- The last component, if it names an entry of a directory. -/
def fileName? (p : Path) : Option (List UInt8) :=
  match p.components.getLast? with
  | some (.name n) => some n
  | _ => none

/-- What stands behind the last dot of the last component, unless that dot is its first byte or there is none. -/
def extension? (p : Path) : Option (List UInt8) :=
  match p.fileName? with
  | none => none
  | some n =>
    let after := (n.reverse.takeWhile (· ≠ dot)).reverse
    let before := n.take (n.length - after.length - 1)
    if after.length = n.length || before.isEmpty then none else some after

/-- The directories of a search path. An empty one stands for an empty path. -/
def splitSearch (search : List UInt8) : List Path := (splitOn colon search).map Path.mk

/-- The search path with the directories given, unless one of them contains the separator. -/
def joinSearch? (dirs : List Path) : Option (List UInt8) :=
  if dirs.any fun d => d.bytes.contains colon then none else some (joinWith colon (dirs.map (·.bytes)))

end Path

end ElixirLint
