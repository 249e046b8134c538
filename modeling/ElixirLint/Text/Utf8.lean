/-!
# UTF-8

Texts as bytes. Encoding is the core library's; decoding comes in a strict form, which refuses ill-formed bytes, and
a forgiving one, which shows each maximal ill-formed part as one replacement character.
-/

namespace ElixirLint.Text

/-- The UTF-8 bytes of a text. -/
def encodeUtf8 (cs : List Char) : List UInt8 := cs.flatMap String.utf8EncodeChar

/-- The bytes of a string. -/
def utf8Bytes (s : String) : List UInt8 := encodeUtf8 s.toList

/-- Whether a byte may continue a character. -/
def isContinuation (b : UInt8) : Bool := 0x80 ≤ b && b ≤ 0xBF

/-- What a first byte announces: how many bytes follow, the payload bits it carries, and the range of the second
byte. The ranges rule out overlong forms, surrogates and values beyond the last code point. -/
structure Lead where
  /-- The number of continuation bytes. -/
  following : Nat
  /-- The bits of the code point that the first byte carries. -/
  bits : Nat
  /-- The least second byte. -/
  low : UInt8
  /-- The greatest second byte. -/
  high : UInt8

/-- The announcement of a first byte; none for a byte that starts no character. -/
def lead? (b : UInt8) : Option Lead :=
  if b ≤ 0x7F then some ⟨0, b.toNat, 0x80, 0xBF⟩
  else if 0xC2 ≤ b && b ≤ 0xDF then some ⟨1, b.toNat - 0xC0, 0x80, 0xBF⟩
  else if b == 0xE0 then some ⟨2, 0, 0xA0, 0xBF⟩
  else if b == 0xED then some ⟨2, 0xD, 0x80, 0x9F⟩
  else if 0xE1 ≤ b && b ≤ 0xEF then some ⟨2, b.toNat - 0xE0, 0x80, 0xBF⟩
  else if b == 0xF0 then some ⟨3, 0, 0x90, 0xBF⟩
  else if b == 0xF4 then some ⟨3, 4, 0x80, 0x8F⟩
  else if 0xF1 ≤ b && b ≤ 0xF3 then some ⟨3, b.toNat - 0xF0, 0x80, 0xBF⟩
  else none

/-- Reads the bytes that follow a first byte: the character, if all are there, and the bytes not used. -/
def continue? : Nat → Nat → UInt8 → UInt8 → List UInt8 → Option Char × List UInt8
  | 0, bits, _, _, bs => (some (Char.ofNat bits), bs)
  | _ + 1, _, _, _, [] => (none, [])
  | n + 1, bits, low, high, b :: bs =>
    if low ≤ b && b ≤ high then continue? n (bits * 64 + (b.toNat - 0x80)) 0x80 0xBF bs else (none, b :: bs)

/-- Reads one character or one ill-formed part off the front, and returns the bytes after it. -/
def nextChar (b : UInt8) (bs : List UInt8) : Option Char × List UInt8 :=
  match lead? b with
  | none => (none, bs)
  | some l => continue? l.following l.bits l.low l.high bs

/-- Bytes that continue a character are taken from the front. -/
theorem continue?_length (n bits : Nat) (low high : UInt8) (bs : List UInt8) :
    (continue? n bits low high bs).2.length ≤ bs.length := by
  induction n generalizing bits low high bs with
  | zero => simp [continue?]
  | succ n ih =>
    cases bs with
    | nil => simp [continue?]
    | cons b bs =>
      unfold continue?
      split
      · exact Nat.le_succ_of_le (ih ..)
      · simp

/-- The bytes of a character are taken from the front. -/
theorem nextChar_length (b : UInt8) (bs : List UInt8) : (nextChar b bs).2.length ≤ bs.length := by
  unfold nextChar
  split
  · simp
  · exact continue?_length ..

/-- The parts of a byte text in order: a character where one stands, none for each ill-formed part. -/
def decodeParts : List UInt8 → List (Option Char)
  | [] => []
  | b :: bs => (nextChar b bs).1 :: decodeParts (nextChar b bs).2
termination_by bs => bs.length
decreasing_by exact Nat.lt_succ_of_le (nextChar_length b bs)

/-- The text that bytes encode, if they are well-formed. -/
def decodeUtf8? (bs : List UInt8) : Option String := ((decodeParts bs).mapM id).map String.ofList

/-- The text that bytes encode, with a replacement character for each ill-formed part. -/
def decodeUtf8Lossy (bs : List UInt8) : String :=
  String.ofList ((decodeParts bs).map fun p => p.getD '\uFFFD')

end ElixirLint.Text
