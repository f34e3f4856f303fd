import SchemaDrift.Posix.Text.Bytes

namespace SchemaDrift.Digest

/-- The number that some bytes spell, the lowest byte first. -/
def number (bytes : List UInt8) : Nat := bytes.foldr (fun b n => 256 * n + b.toNat) 0

/-- So many bytes of a number, the lowest one first. -/
def bytesOf (size n : Nat) : List UInt8 := (List.range size).map fun k => UInt8.ofNat (n / 256 ^ k)

/-- The bytes that a number is spelled with, without zeros above them. -/
def ownBytes (fuel n : Nat) : List UInt8 :=
  match fuel with
  | 0 => []
  | fuel + 1 => if n = 0 then [] else UInt8.ofNat n :: ownBytes fuel (n / 256)

/-- A message filled up to whole blocks of 64 bytes, whose last eight bytes tell how many bits there are. -/
def padded (spell : List UInt8 → List UInt8) (message : List UInt8) : List UInt8 :=
  let gap := (119 - message.length % 64) % 64
  message ++ 128 :: List.replicate gap 0 ++ spell (bytesOf 8 (8 * message.length))

/-- The parts of so many bytes of a message. -/
def parts (size : Nat) (fuel : Nat) (bytes : List UInt8) : List (List UInt8) :=
  match fuel with
  | 0 => []
  | fuel + 1 => if bytes = [] then [] else bytes.take size :: parts size fuel (bytes.drop size)

/-- The words in the blocks of a message, each spelled in four bytes. -/
def blocks (spell : List UInt8 → List UInt8) (message : List UInt8) : List (Array UInt32) :=
  let all := padded spell message
  (parts 64 all.length all).map fun block =>
    ((parts 4 16 block).map fun w => UInt32.ofNat (number (spell w))).toArray

/-- The bytes of a state of words. -/
def ofWords (spell : List UInt8 → List UInt8) (words : List UInt32) : List UInt8 :=
  words.flatMap fun w => spell (bytesOf 4 w.toNat)

def rotated (w : UInt32) (n : UInt32) : UInt32 := (w <<< n) ||| (w >>> (32 - n))

/-- Adds words in pairs. -/
def added (a b : List UInt32) : List UInt32 := List.zipWith (· + ·) a b

/-- The words `⌊2³² |sin k|⌋` for the numbers from one to 64. -/
def sines : Array UInt32 :=
  #[0xd76aa478, 0xe8c7b756, 0x242070db, 0xc1bdceee, 0xf57c0faf, 0x4787c62a, 0xa8304613, 0xfd469501,
    0x698098d8, 0x8b44f7af, 0xffff5bb1, 0x895cd7be, 0x6b901122, 0xfd987193, 0xa679438e, 0x49b40821,
    0xf61e2562, 0xc040b340, 0x265e5a51, 0xe9b6c7aa, 0xd62f105d, 0x02441453, 0xd8a1e681, 0xe7d3fbc8,
    0x21e1cde6, 0xc33707d6, 0xf4d50d87, 0x455a14ed, 0xa9e3e905, 0xfcefa3f8, 0x676f02d9, 0x8d2a4c8a,
    0xfffa3942, 0x8771f681, 0x6d9d6122, 0xfde5380c, 0xa4beea44, 0x4bdecfa9, 0xf6bb4b60, 0xbebfbc70,
    0x289b7ec6, 0xeaa127fa, 0xd4ef3085, 0x04881d05, 0xd9d4d039, 0xe6db99e5, 0x1fa27cf8, 0xc4ac5665,
    0xf4292244, 0x432aff97, 0xab9423a7, 0xfc93a039, 0x655b59c3, 0x8f0ccc92, 0xffeff47d, 0x85845dd1,
    0x6fa87e4f, 0xfe2ce6e0, 0xa3014314, 0x4e0811a1, 0xf7537e82, 0xbd3af235, 0x2ad7d2bb, 0xeb86d391]

def turns : List (List UInt32) := [[7, 12, 17, 22], [5, 9, 14, 20], [4, 11, 16, 23], [6, 10, 15, 21]]

def md5Round (block : Array UInt32) (state : UInt32 × UInt32 × UInt32 × UInt32) (k : Nat) :
    UInt32 × UInt32 × UInt32 × UInt32 :=
  let (a, b, c, d) := state
  let (mixed, place) : UInt32 × Nat := match k / 16 with
    | 0 => ((b &&& c) ||| (~~~b &&& d), k)
    | 1 => ((d &&& b) ||| (~~~d &&& c), 5 * k + 1)
    | 2 => (b ^^^ c ^^^ d, 3 * k + 5)
    | _ => (c ^^^ (b ||| ~~~d), 7 * k)
  let turn := (turns.getD (k / 16) []).getD (k % 4) 0
  (d, b + rotated (a + mixed + sines.getD k 0 + block.getD (place % 16) 0) turn, b, c)

/-- The digest of a message in 16 bytes. -/
def md5 (message : List UInt8) : List UInt8 :=
  let start : List UInt32 := [0x67452301, 0xefcdab89, 0x98badcfe, 0x10325476]
  ofWords id ((blocks id message).foldl (fun state block =>
    match state with
    | [a, b, c, d] =>
      let (x, y, z, w) := (List.range 64).foldl (md5Round block) (a, b, c, d)
      added state [x, y, z, w]
    | _ => state) start)

/-- More words for a block: each is made of those before it. -/
def extended (next : Array UInt32 → UInt32) (count : Nat) (block : Array UInt32) : Array UInt32 :=
  (List.range count).foldl (fun words _ => words.push (next words)) block

/-- The word that stands so far in front of the end. -/
def fromEnd (words : Array UInt32) (n : Nat) : UInt32 := words.getD (words.size - n) 0

def sha1Round (words : Array UInt32) (state : List UInt32) (k : Nat) : List UInt32 :=
  match state with
  | [a, b, c, d, e] =>
    let (mixed, constant) : UInt32 × UInt32 := match k / 20 with
      | 0 => ((b &&& c) ||| (~~~b &&& d), 0x5a827999)
      | 1 => (b ^^^ c ^^^ d, 0x6ed9eba1)
      | 2 => ((b &&& c) ||| (b &&& d) ||| (c &&& d), 0x8f1bbcdc)
      | _ => (b ^^^ c ^^^ d, 0xca62c1d6)
    [rotated a 5 + mixed + e + constant + words.getD k 0, a, rotated b 30, c, d]
  | s => s

/-- The digest of a message in 20 bytes. -/
def sha1 (message : List UInt8) : List UInt8 :=
  let start : List UInt32 := [0x67452301, 0xefcdab89, 0x98badcfe, 0x10325476, 0xc3d2e1f0]
  let next (words : Array UInt32) : UInt32 :=
    rotated (fromEnd words 3 ^^^ fromEnd words 8 ^^^ fromEnd words 14 ^^^ fromEnd words 16) 1
  ofWords List.reverse ((blocks List.reverse message).foldl (fun state block =>
    added state ((List.range 80).foldl (sha1Round (extended next 64 block)) state)) start)

/-- The greatest number whose power is not above another, among those below `2 ^ bits` more than `low`. -/
def root (power n : Nat) : Nat → Nat → Nat
  | 0, low => low
  | bits + 1, low => root power n bits (if (low + 2 ^ bits) ^ power ≤ n then low + 2 ^ bits else low)

def primes : List Nat := (List.range 312).filter fun n => 2 ≤ n && (List.range n).all fun d => d < 2 || n % d ≠ 0

/-- The first 32 bits behind the point of a root of a number. -/
def rootBits (power p : Nat) : UInt32 := UInt32.ofNat (root power (p * 2 ^ (32 * power)) 40 0)

def sha256Round (constants words : Array UInt32) (state : List UInt32) (k : Nat) : List UInt32 :=
  match state with
  | [a, b, c, d, e, f, g, h] =>
    let chosen := (e &&& f) ^^^ (~~~e &&& g)
    let common := (a &&& b) ^^^ (a &&& c) ^^^ (b &&& c)
    let first := h + (rotated e 26 ^^^ rotated e 21 ^^^ rotated e 7) + chosen + constants.getD k 0 + words.getD k 0
    let second := (rotated a 30 ^^^ rotated a 19 ^^^ rotated a 10) + common
    [first + second, a, b, c, d + first, e, f, g]
  | s => s

/-- The digest of a message in 32 bytes. -/
def sha256 (message : List UInt8) : List UInt8 :=
  let constants := (primes.map (rootBits 3)).toArray
  let next (words : Array UInt32) : UInt32 :=
    let x := fromEnd words 15
    let y := fromEnd words 2
    fromEnd words 16 + (rotated x 25 ^^^ rotated x 14 ^^^ (x >>> 3)) + fromEnd words 7 +
      (rotated y 15 ^^^ rotated y 13 ^^^ (y >>> 10))
  ofWords List.reverse ((blocks List.reverse message).foldl (fun state block =>
    added state ((List.range 64).foldl (sha256Round constants (extended next 48 block)) state))
      ((primes.take 8).map (rootBits 2)))

/-- The remainder of a message and its length by a polynomial, with each bit turned. -/
def checksum (message : List UInt8) : UInt32 :=
  let shifted (c : UInt32) : UInt32 := if c &&& 0x80000000 = 0 then c <<< 1 else (c <<< 1) ^^^ 0x04c11db7
  let step (c : UInt32) (b : UInt8) : UInt32 :=
    (List.range 8).foldl (fun c _ => shifted c) (c ^^^ (UInt32.ofNat b.toNat <<< 24))
  ~~~((message ++ ownBytes 8 message.length).foldl step 0)

/-- The sum of bytes in 16 bits, turned by one bit in front of each. -/
def turnedSum (message : List UInt8) : Nat :=
  message.foldl (fun n b => (n / 2 + n % 2 * 32768 + b.toNat) % 65536) 0

/-- Bytes in digits to the base 16. -/
def digits (bytes : List UInt8) : Text :=
  bytes.flatMap fun b => [Nat.digitChar (b.toNat / 16), Nat.digitChar (b.toNat % 16)]

end SchemaDrift.Digest
