/-!
# Directions and joints of letters

Scripts run from left to right or from right to left. A name that mixes them could be shown in an order that nobody
wrote, so each part of a name with letters that run from right to left must keep to one direction: `isOneWay`.

Letters of some scripts join their neighbours. Two characters without a width tell letters to join or not to join, and
stand in a name only where that makes a difference: `joinersMatter`.

The tables list where runs of characters begin, in ascending order. Characters that may not stand in names belong to no
run of their own.
-/

namespace ElixirLint.Domain

/-! ### Marks -/

/-- The edges of the marks, which go with the character before them. -/
def markEdges : List Nat :=
  [0x300, 0x345, 0x346, 0x370, 0x483, 0x48A, 0x591, 0x5BE, 0x5BF, 0x5C0, 0x5C1, 0x5C3, 0x5C4, 0x5C6, 0x5C7, 0x5D0,
   0x610, 0x61B, 0x64B, 0x660, 0x670, 0x671, 0x6D6, 0x6DE, 0x6DF, 0x6E5, 0x6E7, 0x6E9, 0x6EA, 0x6EE, 0x711, 0x712,
   0x730, 0x74D, 0x7A6, 0x7B1, 0x7EB, 0x7F4, 0x7FD, 0x7FE, 0x816, 0x81A, 0x81B, 0x824, 0x825, 0x828, 0x829, 0x830,
   0x859, 0x85E, 0x897, 0x8A0, 0x8CA, 0x904, 0x93A, 0x93D, 0x93E, 0x950, 0x951, 0x958, 0x962, 0x964, 0x981, 0x985,
   0x9BC, 0x9BD, 0x9BE, 0x9CE, 0x9D7, 0x9DC, 0x9E2, 0x9E6, 0x9FE, 0xA05, 0xA3C, 0xA59, 0xA70, 0xA72, 0xA75, 0xA76,
   0xA81, 0xA85, 0xABC, 0xABD, 0xABE, 0xAD0, 0xAE2, 0xAE6, 0xAFA, 0xB05, 0xB3C, 0xB3D, 0xB3E, 0xB5C, 0xB62, 0xB66,
   0xB82, 0xB83, 0xBBE, 0xBD0, 0xBD7, 0xBE6, 0xC00, 0xC05, 0xC3C, 0xC3D, 0xC3E, 0xC58, 0xC62, 0xC66, 0xC81, 0xC84,
   0xCBC, 0xCBD, 0xCBE, 0xCDC, 0xCE2, 0xCE6, 0xCF3, 0xD04, 0xD3B, 0xD3D, 0xD3E, 0xD4E, 0xD57, 0xD58, 0xD62, 0xD66,
   0xD81, 0xD85, 0xDCA, 0xDE6, 0xDF2, 0xDF4, 0xE31, 0xE32, 0xE33, 0xE3F, 0xE47, 0xE4F, 0xEB1, 0xEB2, 0xEB3, 0xEBD,
   0xEC8, 0xED0, 0xF18, 0xF1A, 0xF35, 0xF36, 0xF37, 0xF38, 0xF39, 0xF3A, 0xF3E, 0xF40, 0xF71, 0xF85, 0xF86, 0xF88,
   0xF8D, 0xFBE, 0xFC6, 0xFC7, 0x102B, 0x103F, 0x1056, 0x105A, 0x105E, 0x1061, 0x1062, 0x1065, 0x1067, 0x106E, 0x1071,
   0x1075, 0x1082, 0x108E, 0x108F, 0x1090, 0x109A, 0x109E, 0x135D, 0x1360, 0x1712, 0x171F, 0x1732, 0x1735, 0x1752,
   0x1760, 0x1772, 0x1780, 0x17B6, 0x17D4, 0x17DD, 0x17E0, 0x1885, 0x1887, 0x18A9, 0x18AA, 0x1920, 0x1940, 0x1A17,
   0x1A1E, 0x1A55, 0x1A80, 0x1AB0, 0x1B05, 0x1B34, 0x1B45, 0x1B6B, 0x1B74, 0x1B80, 0x1B83, 0x1BA1, 0x1BAE, 0x1BE6,
   0x1BFC, 0x1C24, 0x1C3B, 0x1CD0, 0x1CD3, 0x1CD4, 0x1CE9, 0x1CED, 0x1CEE, 0x1CF4, 0x1CF5, 0x1CF7, 0x1CFA, 0x1DC0,
   0x1E00, 0x20D0, 0x2102, 0x2CEF, 0x2CF2, 0x2D7F, 0x2D80, 0x2DE0, 0x2E00, 0x302A, 0x3030, 0x3099, 0x309D, 0xA66F,
   0xA673, 0xA674, 0xA67E, 0xA69E, 0xA6A0, 0xA6F0, 0xA6F2, 0xA802, 0xA803, 0xA806, 0xA807, 0xA80B, 0xA80C, 0xA823,
   0xA828, 0xA82C, 0xA830, 0xA880, 0xA882, 0xA8B4, 0xA8CE, 0xA8E0, 0xA8F2, 0xA8FF, 0xA900, 0xA926, 0xA92E, 0xA947,
   0xA95F, 0xA980, 0xA984, 0xA9B3, 0xA9C1, 0xA9E5, 0xA9E6, 0xAA29, 0xAA40, 0xAA43, 0xAA44, 0xAA4C, 0xAA50, 0xAA7B,
   0xAA7E, 0xAAB0, 0xAAB1, 0xAAB2, 0xAAB5, 0xAAB7, 0xAAB9, 0xAABE, 0xAAC0, 0xAAC1, 0xAAC2, 0xAAEB, 0xAAF0, 0xAAF5,
   0xAB01, 0xABE3, 0xABEB, 0xABEC, 0xABF0, 0xFB1E, 0xFB1F, 0xFE20, 0xFE31, 0xFF9E, 0xFFA1, 0x101FD, 0x10280, 0x102E0,
   0x102E1, 0x10376, 0x10380, 0x10A01, 0x10A10, 0x10A38, 0x10A40, 0x10AE5, 0x10AEB, 0x10D24, 0x10D30, 0x10D69,
   0x10D6E, 0x10EAB, 0x10EAD, 0x10EFA, 0x10F00, 0x10F46, 0x10F51, 0x10F82, 0x10F86, 0x11000, 0x11003, 0x11038,
   0x11047, 0x11070, 0x11071, 0x11073, 0x11075, 0x1107F, 0x11083, 0x110B0, 0x110BB, 0x110C2, 0x110D0, 0x11100,
   0x11103, 0x11127, 0x11136, 0x11145, 0x11147, 0x11173, 0x11174, 0x11180, 0x11183, 0x111B3, 0x111C1, 0x111C9,
   0x111CD, 0x111CE, 0x111D0, 0x1122C, 0x11238, 0x1123E, 0x1123F, 0x11241, 0x11280, 0x112DF, 0x112F0, 0x11300,
   0x11305, 0x1133B, 0x1133D, 0x1133E, 0x11350, 0x11357, 0x1135D, 0x11362, 0x11380, 0x113B8, 0x113D1, 0x113D2,
   0x113D3, 0x113E1, 0x11400, 0x11435, 0x11447, 0x1145E, 0x1145F, 0x114B0, 0x114C4, 0x115AF, 0x115C1, 0x115DC,
   0x11600, 0x11630, 0x11641, 0x116AB, 0x116B8, 0x1171D, 0x11730, 0x1182C, 0x1183B, 0x11930, 0x1193F, 0x11940,
   0x11941, 0x11942, 0x11944, 0x119D1, 0x119E1, 0x119E4, 0x11A00, 0x11A01, 0x11A0B, 0x11A33, 0x11A3A, 0x11A3B,
   0x11A3F, 0x11A47, 0x11A50, 0x11A51, 0x11A5C, 0x11A8A, 0x11A9A, 0x11B60, 0x11BC0, 0x11C2F, 0x11C40, 0x11C92,
   0x11D00, 0x11D31, 0x11D46, 0x11D47, 0x11D50, 0x11D8A, 0x11D98, 0x11EF3, 0x11EF7, 0x11F00, 0x11F02, 0x11F03,
   0x11F04, 0x11F34, 0x11F43, 0x11F5A, 0x11FB0, 0x13440, 0x13441, 0x13447, 0x13460, 0x1611E, 0x16130, 0x16AF0,
   0x16AF5, 0x16B30, 0x16B37, 0x16F4F, 0x16F50, 0x16F51, 0x16F93, 0x16FE4, 0x16FF2, 0x1BC9D, 0x1BC9F, 0x1CF00,
   0x1CF50, 0x1D165, 0x1D16A, 0x1D16D, 0x1D183, 0x1D185, 0x1D18C, 0x1D1AA, 0x1D1AE, 0x1D242, 0x1D245, 0x1DA00,
   0x1DA37, 0x1DA3B, 0x1DA6D, 0x1DA75, 0x1DA76, 0x1DA84, 0x1DA85, 0x1DA9B, 0x1DF00, 0x1E000, 0x1E030, 0x1E08F,
   0x1E100, 0x1E130, 0x1E137, 0x1E2AE, 0x1E2C0, 0x1E2EC, 0x1E2F0, 0x1E4EC, 0x1E4F0, 0x1E5EE, 0x1E5F0, 0x1E6E3,
   0x1E6E4, 0x1E6E6, 0x1E6E7, 0x1E6EE, 0x1E6F0, 0x1E6F5, 0x1E6FE, 0x1E8D0, 0x1E900, 0x1E944, 0x1E94B]

/-- Whether a character is a mark. -/
def isMark (c : Char) : Bool := markEdges.countP (· ≤ c.toNat) % 2 == 1

/-! ### Directions -/

/-- How a character runs. -/
inductive Direction
  /-- From left to right, like Latin letters. -/
  | left
  /-- From right to left, like Hebrew and Arabic letters. -/
  | right
  /-- A digit of Arabic texts, which goes with letters from right to left. -/
  | arabicDigit
  /-- A digit of other texts. -/
  | digit
  /-- In no direction of its own. -/
  | neutral
  /-- With the character before it. -/
  | mark
  deriving DecidableEq, Repr

/-- The first characters of runs in one direction. -/
def directionRuns : List (Nat × Direction) :=
  [(0xA1, .neutral), (0xAA, .left), (0xAB, .neutral), (0xB2, .digit), (0xB5, .left), (0xB6, .neutral), (0xB9, .digit),
   (0xBA, .left), (0xBB, .neutral), (0xBC, .digit), (0xBF, .neutral), (0xC0, .left), (0xD7, .neutral), (0xD8, .left),
   (0xF7, .neutral), (0xF8, .left), (0x2B9, .neutral), (0x2BB, .left), (0x2C2, .neutral), (0x2D0, .left),
   (0x2D2, .neutral), (0x2E0, .left), (0x2E5, .neutral), (0x2EE, .left), (0x2EF, .neutral), (0x345, .left),
   (0x374, .neutral), (0x376, .left), (0x37E, .neutral), (0x37F, .left), (0x387, .neutral), (0x388, .left),
   (0x3F6, .neutral), (0x3F7, .left), (0x58A, .neutral), (0x5BE, .right), (0x606, .neutral), (0x608, .right),
   (0x609, .neutral), (0x60B, .right), (0x60C, .neutral), (0x60D, .right), (0x60E, .neutral), (0x61B, .right),
   (0x660, .arabicDigit), (0x66A, .neutral), (0x66B, .arabicDigit), (0x66D, .right), (0x6DE, .neutral),
   (0x6E5, .right), (0x6E9, .neutral), (0x6EE, .right), (0x6F0, .digit), (0x6FA, .right), (0x7F6, .neutral),
   (0x7FA, .right), (0x904, .left), (0x9F2, .neutral), (0x9F4, .left), (0x9FB, .neutral), (0x9FC, .left),
   (0xAF1, .neutral), (0xAF9, .left), (0xBF3, .neutral), (0xC05, .left), (0xC78, .neutral), (0xC7F, .left),
   (0xE3F, .neutral), (0xE40, .left), (0xF3A, .neutral), (0xF40, .left), (0x1390, .neutral), (0x13A0, .left),
   (0x1400, .neutral), (0x1401, .left), (0x169B, .neutral), (0x16A0, .left), (0x17DB, .neutral), (0x17DC, .left),
   (0x17F0, .neutral), (0x1810, .left), (0x1940, .neutral), (0x1946, .left), (0x19DE, .neutral), (0x1A00, .left),
   (0x1FEF, .neutral), (0x1FF2, .left), (0x200C, .neutral), (0x2070, .digit), (0x2071, .left), (0x2074, .digit),
   (0x207A, .neutral), (0x207F, .left), (0x2080, .digit), (0x208A, .neutral), (0x2090, .left), (0x20A0, .neutral),
   (0x20A8, .left), (0x20A9, .neutral), (0x2102, .left), (0x2103, .neutral), (0x2107, .left), (0x2108, .neutral),
   (0x210A, .left), (0x2114, .neutral), (0x2115, .left), (0x2117, .neutral), (0x2119, .left), (0x211E, .neutral),
   (0x2120, .left), (0x2123, .neutral), (0x2124, .left), (0x2125, .neutral), (0x2126, .left), (0x2127, .neutral),
   (0x2128, .left), (0x2129, .neutral), (0x212A, .left), (0x212E, .neutral), (0x212F, .left), (0x2135, .right),
   (0x2139, .left), (0x213A, .neutral), (0x213B, .left), (0x2140, .neutral), (0x2145, .left), (0x214A, .neutral),
   (0x214E, .left), (0x2150, .digit), (0x2160, .left), (0x2189, .digit), (0x218A, .neutral), (0x2336, .left),
   (0x237B, .neutral), (0x2395, .left), (0x2396, .neutral), (0x2460, .digit), (0x2474, .neutral), (0x24B6, .left),
   (0x24EA, .digit), (0x24EB, .neutral), (0x26AC, .left), (0x26AD, .neutral), (0x2800, .left), (0x2900, .neutral),
   (0x2C00, .left), (0x2CE5, .neutral), (0x2CEB, .left), (0x2CF9, .neutral), (0x2D00, .left), (0x2E00, .neutral),
   (0x2E9F, .left), (0x2EA0, .neutral), (0x2EF3, .left), (0x3001, .neutral), (0x3005, .left), (0x3008, .neutral),
   (0x3021, .left), (0x3030, .neutral), (0x3031, .left), (0x3036, .neutral), (0x3038, .left), (0x303D, .neutral),
   (0x3041, .left), (0x30A0, .neutral), (0x30A1, .left), (0x30FB, .neutral), (0x30FC, .left), (0x31C0, .neutral),
   (0x31F0, .left), (0x3200, .neutral), (0x3244, .left), (0x3251, .digit), (0x3260, .left), (0x32B1, .digit),
   (0x32CC, .left), (0x3358, .digit), (0x3371, .left), (0x33E0, .digit), (0x33FF, .left), (0x4DC0, .neutral),
   (0x4E00, .left), (0xA490, .neutral), (0xA4D0, .left), (0xA60D, .neutral), (0xA610, .left), (0xA673, .neutral),
   (0xA680, .left), (0xA700, .neutral), (0xA722, .left), (0xA788, .neutral), (0xA789, .left), (0xA828, .neutral),
   (0xA830, .left), (0xA838, .neutral), (0xA840, .left), (0xA874, .neutral), (0xA882, .left), (0xAB6A, .neutral),
   (0xAB70, .left), (0xFB1D, .right), (0xFB29, .neutral), (0xFB2A, .right), (0xFBC3, .neutral), (0xFBD3, .right),
   (0xFD3E, .neutral), (0xFD50, .right), (0xFD90, .neutral), (0xFD92, .right), (0xFDC8, .neutral), (0xFDF0, .right),
   (0xFDFD, .neutral), (0xFE71, .right), (0xFF01, .neutral), (0xFF10, .digit), (0xFF1B, .neutral), (0xFF21, .left),
   (0xFF3F, .neutral), (0xFF41, .left), (0xFF5B, .neutral), (0xFF66, .left), (0xFFE0, .neutral), (0x10000, .left),
   (0x10101, .neutral), (0x10102, .left), (0x10140, .neutral), (0x1018D, .left), (0x10190, .neutral),
   (0x101D0, .left), (0x102E1, .digit), (0x10300, .left), (0x10800, .right), (0x1091F, .neutral), (0x10920, .right),
   (0x10B39, .neutral), (0x10B40, .right), (0x10D30, .arabicDigit), (0x10D40, .right), (0x10D6E, .neutral),
   (0x10D6F, .right), (0x10E60, .arabicDigit), (0x10E80, .right), (0x10ED0, .neutral), (0x10F00, .right),
   (0x11003, .left), (0x11052, .neutral), (0x11066, .left), (0x11660, .neutral), (0x11680, .left),
   (0x11FD5, .neutral), (0x11FFF, .left), (0x16FE2, .neutral), (0x16FE3, .left), (0x1CC00, .neutral),
   (0x1CCD6, .left), (0x1CCF0, .digit), (0x1CCFA, .neutral), (0x1CF50, .left), (0x1D1E9, .neutral), (0x1D2C0, .left),
   (0x1D300, .neutral), (0x1D360, .left), (0x1D6C1, .neutral), (0x1D6C2, .left), (0x1D6DB, .neutral),
   (0x1D6DC, .left), (0x1D6FB, .neutral), (0x1D6FC, .left), (0x1D715, .neutral), (0x1D716, .left),
   (0x1D735, .neutral), (0x1D736, .left), (0x1D74F, .neutral), (0x1D750, .left), (0x1D76F, .neutral),
   (0x1D770, .left), (0x1D789, .neutral), (0x1D78A, .left), (0x1D7A9, .neutral), (0x1D7AA, .left),
   (0x1D7C3, .neutral), (0x1D7C4, .left), (0x1D7CE, .digit), (0x1D800, .left), (0x1E2FF, .neutral), (0x1E4D0, .left),
   (0x1E800, .right), (0x1EEF0, .neutral), (0x1F101, .digit), (0x1F10B, .neutral), (0x1F12B, .left),
   (0x1F12F, .neutral), (0x1F130, .left), (0x1F16D, .neutral), (0x1F170, .left), (0x1F1AD, .neutral),
   (0x1F1E6, .left), (0x1F240, .neutral), (0x1F250, .left), (0x1F260, .neutral), (0x1FBF0, .digit),
   (0x1FBFA, .neutral), (0x20000, .left)]

/-- How a character runs. -/
def direction (c : Char) : Direction :=
  if c.toNat < 0x80 then if c.isAlpha then .left else if c.isDigit then .digit else .neutral
  else if isMark c then .mark
  else directionRuns.foldl (fun d run => if run.1 ≤ c.toNat then run.2 else d) .left

/-- Whether a character makes a name one that runs from right to left in places. -/
def isRightward (c : Char) : Bool := direction c == .right || direction c == .arabicDigit

/-- Whether a part of a name keeps to the direction in which it begins, up to its end, and has digits of one kind. -/
def isOneWay (label : List Char) : Bool :=
  let ds := label.map direction
  let last := (ds.reverse.dropWhile (· == .mark)).head?
  match ds.head? with
  | none => true
  | some .right =>
    ds.all (· != .left) && !(ds.contains .digit && ds.contains .arabicDigit) &&
      [some .right, some .digit, some .arabicDigit].contains last
  | some .left =>
    ds.all (fun d => d != .right && d != .arabicDigit) && [some .left, some .digit].contains last
  | some _ => false

/-! ### Joints -/

/-- Which neighbours a letter joins. -/
inductive Joint
  | both
  | before
  | behind
  | neither
  deriving DecidableEq, Repr

/-- The first characters of runs that join the same neighbours. -/
def jointRuns : List (Nat × Joint) :=
  [(0x620, .both), (0x621, .neither), (0x622, .before), (0x626, .both), (0x627, .before), (0x628, .both),
   (0x629, .before), (0x62A, .both), (0x62F, .before), (0x633, .both), (0x640, .neither), (0x641, .both),
   (0x648, .before), (0x649, .both), (0x660, .neither), (0x66E, .both), (0x671, .before), (0x674, .neither),
   (0x679, .both), (0x688, .before), (0x69A, .both), (0x6C0, .before), (0x6C1, .both), (0x6C3, .before),
   (0x6CC, .both), (0x6CD, .before), (0x6CE, .both), (0x6CF, .before), (0x6D0, .both), (0x6D2, .before),
   (0x6D4, .neither), (0x6D5, .before), (0x6DE, .neither), (0x6EE, .before), (0x6F0, .neither), (0x6FA, .both),
   (0x6FD, .neither), (0x6FF, .both), (0x700, .neither), (0x710, .before), (0x712, .both), (0x715, .before),
   (0x71A, .both), (0x71E, .before), (0x71F, .both), (0x728, .before), (0x729, .both), (0x72A, .before),
   (0x72B, .both), (0x72C, .before), (0x72D, .both), (0x72F, .before), (0x74E, .both), (0x759, .before),
   (0x75C, .both), (0x76B, .before), (0x76D, .both), (0x771, .before), (0x772, .both), (0x773, .before),
   (0x775, .both), (0x778, .before), (0x77A, .both), (0x780, .neither), (0x7CA, .both), (0x7F4, .neither),
   (0x840, .before), (0x841, .both), (0x846, .before), (0x848, .both), (0x849, .before), (0x84A, .both),
   (0x854, .before), (0x855, .both), (0x856, .before), (0x85E, .neither), (0x860, .both), (0x861, .neither),
   (0x862, .both), (0x866, .neither), (0x867, .before), (0x868, .both), (0x869, .before), (0x883, .neither),
   (0x886, .both), (0x887, .neither), (0x889, .both), (0x88E, .before), (0x88F, .neither), (0x8A0, .both),
   (0x8AA, .before), (0x8AD, .neither), (0x8AE, .before), (0x8AF, .both), (0x8B1, .before), (0x8B3, .both),
   (0x8B9, .before), (0x8BA, .both), (0x8C9, .neither), (0x1807, .both), (0x1808, .neither), (0x1820, .both),
   (0x1880, .neither), (0x1887, .both), (0x18B0, .neither), (0xA840, .both), (0xA872, .behind), (0xA873, .neither),
   (0x10AC0, .both), (0x10AC5, .before), (0x10AC6, .neither), (0x10AC7, .before), (0x10AC8, .neither),
   (0x10AC9, .before), (0x10ACB, .neither), (0x10ACD, .behind), (0x10ACE, .before), (0x10AD3, .both),
   (0x10AD7, .behind), (0x10AD8, .both), (0x10ADD, .before), (0x10ADE, .both), (0x10AE1, .before),
   (0x10AE2, .neither), (0x10AE4, .before), (0x10AEB, .both), (0x10AEF, .before), (0x10AF0, .neither),
   (0x10B80, .both), (0x10B81, .before), (0x10B82, .both), (0x10B83, .before), (0x10B86, .both), (0x10B89, .before),
   (0x10B8A, .both), (0x10B8C, .before), (0x10B8D, .both), (0x10B8E, .before), (0x10B90, .both), (0x10B91, .before),
   (0x10B99, .neither), (0x10BA9, .before), (0x10BAD, .both), (0x10BAF, .neither), (0x10D00, .behind),
   (0x10D01, .both), (0x10D22, .before), (0x10D23, .both), (0x10D30, .neither), (0x10F30, .both), (0x10F33, .before),
   (0x10F34, .both), (0x10F45, .neither), (0x10F51, .both), (0x10F54, .before), (0x10F55, .neither), (0x10F70, .both),
   (0x10F74, .before), (0x10F76, .both), (0x10F86, .neither), (0x10FB0, .both), (0x10FB1, .neither), (0x10FB2, .both),
   (0x10FB4, .before), (0x10FB7, .neither), (0x10FB8, .both), (0x10FB9, .before), (0x10FBB, .both),
   (0x10FBD, .before), (0x10FBE, .both), (0x10FC0, .neither), (0x10FC1, .both), (0x10FC2, .before), (0x10FC4, .both),
   (0x10FC5, .neither), (0x10FC9, .before), (0x10FCA, .both), (0x10FCB, .behind), (0x10FE0, .neither),
   (0x1E922, .both), (0x1E94B, .neither)]

/-- Which neighbours a letter joins. -/
def joint (c : Char) : Joint := jointRuns.foldl (fun j run => if run.1 ≤ c.toNat then run.2 else j) .neither

/-- The signs that take the vowel from a consonant, so that it may join the next. -/
def vowelKillers : List Nat :=
  [0x94D, 0x9CD, 0xA4D, 0xACD, 0xB4D, 0xBCD, 0xC4D, 0xCCD, 0xD3B, 0xD3C, 0xD4D, 0xDCA, 0xE3A, 0xEBA, 0xF84, 0x1039,
   0x103A, 0x1714, 0x1715, 0x1734, 0x17D2, 0x1A60, 0x1B44, 0x1BAA, 0x1BAB, 0x1BF2, 0x1BF3, 0x2D7F, 0xA806, 0xA82C,
   0xA8C4, 0xA953, 0xA9C0, 0xAAF6, 0xABED, 0x10A3F, 0x11046, 0x11070, 0x1107F, 0x110B9, 0x11133, 0x11134, 0x111C0,
   0x11235, 0x112EA, 0x1134D, 0x113CE, 0x113CF, 0x113D0, 0x11442, 0x114C2, 0x115BF, 0x1163F, 0x116B6, 0x1172B,
   0x11839, 0x1193D, 0x1193E, 0x119E0, 0x11A34, 0x11A47, 0x11A99, 0x11C3F, 0x11D44, 0x11D45, 0x11D97, 0x11F41,
   0x11F42, 0x1612F]

/-- The character that tells letters not to join. -/
def nonJoiner : Char := '\u200c'

/-- The character that tells letters to join. -/
def joiner : Char := '\u200d'

/-- Whether every character that tells letters to join or not stands where that makes a difference; `before` holds the
characters in front, the nearest first. -/
def joinersMatter : List Char → List Char → Bool
  | _, [] => true
  | before, c :: rest =>
    let killed := before.head?.any fun b => vowelKillers.contains b.toNat
    let joins (cs : List Char) (side : Joint) : Bool :=
      ((cs.dropWhile isMark).head?).any fun b => joint b == .both || joint b == side
    (c ≠ joiner || killed) && (c ≠ nonJoiner || killed || (joins before .behind && joins rest .before)) &&
      joinersMatter (c :: before) rest

end ElixirLint.Domain
