import ElixirLint.Text.Utf8

/-!
# Text of a host

The programs of a host know bytes only. Here their text is a string in which every character stands for the byte with
its number, so that texts can be taken apart like any others; `ofBytes` and `toBytes` lead there and back.
-/

namespace ElixirLint.Host

/-- The text that bytes are. -/
def ofBytes (bytes : List UInt8) : String := String.ofList (bytes.map fun b => Char.ofNat b.toNat)

/-- The bytes of a text. -/
def toBytes (s : String) : List UInt8 := s.toList.map fun c => UInt8.ofNat c.toNat

/-- The text that some written text is. -/
def ofWritten (s : String) : String := ofBytes (Text.utf8Bytes s)

/-- What a text shows as; bytes that are no text show as replacement characters. -/
def toWritten (s : String) : String := Text.decodeUtf8Lossy (toBytes s)

/-- Whether a character may begin a name. -/
def isNameStart (c : Char) : Bool := c.isAlpha || c == '_'

/-- Whether a character may stand in a name. -/
def isNameChar (c : Char) : Bool := c.isAlphanum || c == '_'

/-- Whether a text is a name. -/
def isName (s : String) : Bool :=
  match s.toList with
  | [] => false
  | c :: cs => isNameStart c && cs.all isNameChar

/-- Whether a character is blank space. -/
def isSpace (c : Char) : Bool := c == ' ' || ('\t' ≤ c && c ≤ '\r')

/-- The value of a digit in some base up to 36. -/
def digit? (base : Nat) (c : Char) : Option Nat :=
  let n :=
    if c.isDigit then c.toNat - 48
    else if c.isAlpha then c.toLower.toNat - 87
    else base
  if n < base then some n else none

/-- The value of the digits at the front of a text and what stands behind them; none if there are no digits. -/
def leadingNumber? (base : Nat) (cs : List Char) : Option (Nat × List Char) :=
  let front := cs.takeWhile fun c => (digit? base c).isSome
  if front.isEmpty then none
  else some (front.foldl (fun n c => n * base + (digit? base c).getD 0) 0, cs.drop front.length)

/-- The value of a text that is digits only. -/
def decimal? (s : String) : Option Nat :=
  match leadingNumber? 10 s.toList with
  | some (n, []) => some n
  | _ => none

/-- Whether a number has a minus in front, and what stands behind its sign. -/
def splitSign : List Char → Bool × List Char
  | '-' :: cs => (true, cs)
  | '+' :: cs => (false, cs)
  | cs => (false, cs)

/-- A number with its sign. -/
def withSign (negative : Bool) (n : Nat) : Int := if negative then -(n : Int) else n

/-- The parts of a text between occurrences of a character. -/
def fieldsOf (sep : Char) : List Char → List (List Char)
  | [] => [[]]
  | c :: cs =>
    if c = sep then [] :: fieldsOf sep cs
    else
      match fieldsOf sep cs with
      | [] => [[c]]
      | f :: fs => (c :: f) :: fs

/-- The lines of a text without the characters that end them. The last one may lack its end. -/
def linesOf (cs : List Char) : List (List Char) :=
  let fields := fieldsOf '\n' cs
  if fields.getLast? = some [] then fields.dropLast else fields

end ElixirLint.Host
