import ElixirLint.Text.Utf16

/-!
# Positions and ranges

Places in a document as an editor counts them: lines and UTF-16 columns, both from zero and both 32 bits wide. A
range holds its start and ends before its end.
-/

namespace ElixirLint

/-- A place in a document. -/
structure Position where
  /-- The line, from zero. -/
  line : UInt32
  /-- The column in UTF-16 code units, from zero. -/
  character : UInt32
  deriving DecidableEq, Repr

namespace Position

/-- The order of positions: by line, then by column. -/
def compare (a b : Position) : Ordering :=
  (Ord.compare a.line b.line).then (Ord.compare a.character b.character)

/-- A position in messages. -/
def text (p : Position) : String := s!"{p.line}:{p.character}"

end Position

/-- A stretch of a document, from its start up to but not including its end. -/
structure Range where
  /-- The first position of the range. -/
  start : Position
  /-- The first position behind the range. -/
  stop : Position
  deriving DecidableEq, Repr

namespace Range

/-- The range of the columns from `start` up to `stop` on one line. -/
def onLine (line start stop : UInt32) : Range := ⟨⟨line, start⟩, ⟨line, stop⟩⟩

/-- A range is empty when it ends where it starts. -/
def isEmpty (r : Range) : Bool := r.start == r.stop

/-- Whether a range starts and ends on one line. -/
def isSingleLine (r : Range) : Bool := r.start.line == r.stop.line

/-- A range contains its start and every later position before its end. -/
def contains (r : Range) (p : Position) : Bool :=
  p.compare r.start != .lt && p.compare r.stop == .lt

/-- A range in messages. -/
def text (r : Range) : String := r.start.text ++ "-" ++ r.stop.text

end Range

end ElixirLint
