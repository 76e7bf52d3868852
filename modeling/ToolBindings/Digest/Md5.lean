import ToolBindings.Text.Digits

/-!
# MD5

The 128-bit digest of octets that serves as a short, stable mark of a name.
-/

namespace ToolBindings.Md5

-- A power of naturals is that of the core library, whatever else is imported.
attribute [local instance (high)] instPowNat

/-- The four words of a running digest. -/
structure State where
  a : UInt32
  b : UInt32
  c : UInt32
  d : UInt32

/-- The state before the first block. -/
def initial : State := ⟨0x67452301, 0xefcdab89, 0x98badcfe, 0x10325476⟩

/-- The additive constants of the 64 steps: the fractional parts of the sines of 1 to 64. -/
def sines : Array UInt32 := #[
  0xd76aa478, 0xe8c7b756, 0x242070db, 0xc1bdceee, 0xf57c0faf, 0x4787c62a,
  0xa8304613, 0xfd469501, 0x698098d8, 0x8b44f7af, 0xffff5bb1, 0x895cd7be,
  0x6b901122, 0xfd987193, 0xa679438e, 0x49b40821, 0xf61e2562, 0xc040b340,
  0x265e5a51, 0xe9b6c7aa, 0xd62f105d, 0x02441453, 0xd8a1e681, 0xe7d3fbc8,
  0x21e1cde6, 0xc33707d6, 0xf4d50d87, 0x455a14ed, 0xa9e3e905, 0xfcefa3f8,
  0x676f02d9, 0x8d2a4c8a, 0xfffa3942, 0x8771f681, 0x6d9d6122, 0xfde5380c,
  0xa4beea44, 0x4bdecfa9, 0xf6bb4b60, 0xbebfbc70, 0x289b7ec6, 0xeaa127fa,
  0xd4ef3085, 0x04881d05, 0xd9d4d039, 0xe6db99e5, 0x1fa27cf8, 0xc4ac5665,
  0xf4292244, 0x432aff97, 0xab9423a7, 0xfc93a039, 0x655b59c3, 0x8f0ccc92,
  0xffeff47d, 0x85845dd1, 0x6fa87e4f, 0xfe2ce6e0, 0xa3014314, 0x4e0811a1,
  0xf7537e82, 0xbd3af235, 0x2ad7d2bb, 0xeb86d391]

/-- The rotations of a round, one for each step modulo four. -/
def rotations (round : Nat) : UInt32 × UInt32 × UInt32 × UInt32 :=
  match round with
  | 0 => (7, 12, 17, 22)
  | 1 => (5, 9, 14, 20)
  | 2 => (4, 11, 16, 23)
  | _ => (6, 10, 15, 21)

/-- Rotation of a word to the left. -/
def rotate (x n : UInt32) : UInt32 := (x <<< n) ||| (x >>> (32 - n))

/-- The word function and the message index of a step. -/
def mix (s : State) (i : Nat) : UInt32 × Nat :=
  match i / 16 with
  | 0 => ((s.b &&& s.c) ||| (~~~s.b &&& s.d), i)
  | 1 => ((s.d &&& s.b) ||| (~~~s.d &&& s.c), (5 * i + 1) % 16)
  | 2 => (s.b ^^^ s.c ^^^ s.d, (3 * i + 5) % 16)
  | _ => (s.c ^^^ (s.b ||| ~~~s.d), (7 * i) % 16)

/-- The rotation of a step. -/
def rotation (i : Nat) : UInt32 :=
  let (r0, r1, r2, r3) := rotations (i / 16)
  match i % 4 with
  | 0 => r0
  | 1 => r1
  | 2 => r2
  | _ => r3

/-- One of the 64 steps on a block of sixteen words. -/
def step (block : Array UInt32) (s : State) (i : Nat) : State :=
  let (f, index) := mix s i
  let sum := f + s.a + sines.getD i 0 + block.getD index 0
  ⟨s.d, s.b + rotate sum (rotation i), s.b, s.c⟩

/-- Takes one block into the digest. -/
def absorb (s : State) (block : Array UInt32) : State :=
  let t := (List.range 64).foldl (step block) s
  ⟨s.a + t.a, s.b + t.b, s.c + t.c, s.d + t.d⟩

/-- The eight octets of a number, lowest first. -/
def lowFirst (count n : Nat) : List UInt8 :=
  (List.range count).map fun i => UInt8.ofNat (n / 256 ^ i)

/-- The octets with a one bit, zeros and the length in bits, a whole number of blocks. -/
def padded (octets : List UInt8) : List UInt8 :=
  octets ++ 0x80 :: List.replicate ((119 - octets.length % 64) % 64) 0 ++
    lowFirst 8 (8 * octets.length)

/-- Words of four octets each, lowest first. -/
def words : List UInt8 → List UInt32
  | a :: b :: c :: d :: rest =>
    (a.toUInt32 ||| (b.toUInt32 <<< 8) ||| (c.toUInt32 <<< 16) ||| (d.toUInt32 <<< 24)) ::
      words rest
  | _ => []

/-- Takes the blocks of sixteen words in turn; `blocks` bounds their number. -/
def absorbAll : (blocks : Nat) → State → List UInt32 → State
  | 0, s, _ => s
  | blocks + 1, s, ws => absorbAll blocks (absorb s (ws.take 16).toArray) (ws.drop 16)

/-- The digest of octets. -/
def digest (octets : List UInt8) : List UInt8 :=
  let ws := words (padded octets)
  let s := absorbAll (ws.length / 16) initial ws
  [s.a, s.b, s.c, s.d].flatMap fun w => lowFirst 4 w.toNat

/-- The digest in hexadecimal. -/
def hex (octets : List UInt8) : List Char :=
  (digest octets).flatMap fun b => Text.hexGroup 2 b.toNat

end ToolBindings.Md5
