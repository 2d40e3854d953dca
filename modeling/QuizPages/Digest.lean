import QuizPages.Text.Utf8

/-!
# Digests

The 64-bit XXH3 digest of octets with seed zero, written as sixteen hexadecimal digits. Up to
240 octets are mixed in one go, in a way that depends on their number; more are folded into
eight lanes, 64 octets at a time.
-/

namespace QuizPages.Digest

/-! ## Words -/

/-- The octets that inputs are combined with. -/
def secret : Array UInt8 := #[
  0xb8, 0xfe, 0x6c, 0x39, 0x23, 0xa4, 0x4b, 0xbe, 0x7c, 0x01, 0x81, 0x2c, 0xf7, 0x21, 0xad, 0x1c,
  0xde, 0xd4, 0x6d, 0xe9, 0x83, 0x90, 0x97, 0xdb, 0x72, 0x40, 0xa4, 0xa4, 0xb7, 0xb3, 0x67, 0x1f,
  0xcb, 0x79, 0xe6, 0x4e, 0xcc, 0xc0, 0xe5, 0x78, 0x82, 0x5a, 0xd0, 0x7d, 0xcc, 0xff, 0x72, 0x21,
  0xb8, 0x08, 0x46, 0x74, 0xf7, 0x43, 0x24, 0x8e, 0xe0, 0x35, 0x90, 0xe6, 0x81, 0x3a, 0x26, 0x4c,
  0x3c, 0x28, 0x52, 0xbb, 0x91, 0xc3, 0x00, 0xcb, 0x88, 0xd0, 0x65, 0x8b, 0x1b, 0x53, 0x2e, 0xa3,
  0x71, 0x64, 0x48, 0x97, 0xa2, 0x0d, 0xf9, 0x4e, 0x38, 0x19, 0xef, 0x46, 0xa9, 0xde, 0xac, 0xd8,
  0xa8, 0xfa, 0x76, 0x3f, 0xe3, 0x9c, 0x34, 0x3f, 0xf9, 0xdc, 0xbb, 0xc7, 0xc7, 0x0b, 0x4f, 0x1d,
  0x8a, 0x51, 0xe0, 0x4b, 0xcd, 0xb4, 0x59, 0x31, 0xc8, 0x9f, 0x7e, 0xc9, 0xd9, 0x78, 0x73, 0x64,
  0xea, 0xc5, 0xac, 0x83, 0x34, 0xd3, 0xeb, 0xc3, 0xc5, 0x81, 0xa0, 0xff, 0xfa, 0x13, 0x63, 0xeb,
  0x17, 0x0d, 0xdd, 0x51, 0xb7, 0xf0, 0xda, 0x49, 0xd3, 0x16, 0x55, 0x26, 0x29, 0xd4, 0x68, 0x9e,
  0x2b, 0x16, 0xbe, 0x58, 0x7d, 0x47, 0xa1, 0xfc, 0x8f, 0xf8, 0xb8, 0xd1, 0x7a, 0xd0, 0x31, 0xce,
  0x45, 0xcb, 0x3a, 0x8f, 0x95, 0x16, 0x04, 0x28, 0xaf, 0xd7, 0xfb, 0xca, 0xbb, 0x4b, 0x40, 0x7e]

def prime32x1 : UInt64 := 0x9E3779B1
def prime32x2 : UInt64 := 0x85EBCA77
def prime32x3 : UInt64 := 0xC2B2AE3D
def prime64x1 : UInt64 := 0x9E3779B185EBCA87
def prime64x2 : UInt64 := 0xC2B2AE3D27D4EB4F
def prime64x3 : UInt64 := 0x165667B19E3779F9
def prime64x4 : UInt64 := 0x85EBCA77C2B2AE63
def prime64x5 : UInt64 := 0x27D4EB2F165667C5

/-- The octet at a place; zero beyond the end. -/
def octet (bs : Array UInt8) (i : Nat) : UInt64 := (bs.getD i 0).toUInt64

/-- Four octets from a place on, the lowest first. -/
def word32 (bs : Array UInt8) (i : Nat) : UInt64 :=
  octet bs i ||| octet bs (i + 1) <<< 8 ||| octet bs (i + 2) <<< 16 ||| octet bs (i + 3) <<< 24

/-- Eight octets from a place on, the lowest first. -/
def word64 (bs : Array UInt8) (i : Nat) : UInt64 := word32 bs i ||| word32 bs (i + 4) <<< 32

/-- The octets of a word in the opposite order. -/
def reverseOctets (w : UInt64) : UInt64 :=
  (List.range 8).foldl (fun r i => r <<< 8 ||| (w >>> (8 * UInt64.ofNat i) &&& 0xFF)) 0

def rotateLeft (w n : UInt64) : UInt64 := w <<< n ||| w >>> (64 - n)

/-- The two halves of the product of two words, combined by exclusive or. -/
def foldedProduct (a b : UInt64) : UInt64 :=
  let p := a.toNat * b.toNat
  UInt64.ofNat p ^^^ UInt64.ofNat (p / UInt64.size)

/-! ## Mixing -/

/-- The last mixing of inputs of at most three octets. -/
def scatterShort (h : UInt64) : UInt64 :=
  let h := (h ^^^ h >>> 33) * prime64x2
  let h := (h ^^^ h >>> 29) * prime64x3
  h ^^^ h >>> 32

/-- The last mixing of long inputs. -/
def scatter (h : UInt64) : UInt64 :=
  let h := (h ^^^ h >>> 37) * 0x165667919E3779F9
  h ^^^ h >>> 32

/-- Sixteen octets from place `i` under the secret from place `k`. -/
def mix16 (bs : Array UInt8) (i k : Nat) : UInt64 :=
  foldedProduct (word64 bs i ^^^ word64 secret k) (word64 bs (i + 8) ^^^ word64 secret (k + 8))

/-! ## Short inputs -/

def upTo3 (bs : Array UInt8) : UInt64 :=
  let n := bs.size
  let first := octet bs 0
  let middle := octet bs (n / 2)
  let last := octet bs (n - 1)
  let all := first <<< 16 ||| middle <<< 24 ||| last ||| UInt64.ofNat n <<< 8
  scatterShort (all ^^^ (word32 secret 0 ^^^ word32 secret 4))

def upTo8 (bs : Array UInt8) : UInt64 :=
  let n := bs.size
  let all := word32 bs (n - 4) + word32 bs 0 <<< 32
  let h := all ^^^ (word64 secret 8 ^^^ word64 secret 16)
  let h := (h ^^^ rotateLeft h 49 ^^^ rotateLeft h 24) * 0x9FB21C651E98DF25
  let h := (h ^^^ (h >>> 35 + UInt64.ofNat n)) * 0x9FB21C651E98DF25
  h ^^^ h >>> 28

def upTo16 (bs : Array UInt8) : UInt64 :=
  let n := bs.size
  let low := word64 bs 0 ^^^ (word64 secret 24 ^^^ word64 secret 32)
  let high := word64 bs (n - 8) ^^^ (word64 secret 40 ^^^ word64 secret 48)
  scatter (UInt64.ofNat n + reverseOctets low + high + foldedProduct low high)

/-- Sixteen octets each, from both ends towards the middle. -/
def upTo128 (bs : Array UInt8) : UInt64 :=
  let n := bs.size
  let pairs := (n - 1) / 32 + 1
  scatter ((List.range pairs).foldl
    (fun h i => h + mix16 bs (16 * i) (32 * i) + mix16 bs (n - 16 * (i + 1)) (32 * i + 16))
    (UInt64.ofNat n * prime64x1))

def upTo240 (bs : Array UInt8) : UInt64 :=
  let n := bs.size
  let h := (List.range 8).foldl (fun h i => h + mix16 bs (16 * i) (16 * i))
    (UInt64.ofNat n * prime64x1)
  let h := (List.range (n / 16 - 8)).foldl
    (fun h i => h + mix16 bs (16 * (i + 8)) (16 * i + 3)) (scatter h)
  scatter (h + mix16 bs (n - 16) 119)

/-! ## Long inputs -/

abbrev Lanes := Vector UInt64 8

def startLanes : Lanes := #v[prime32x3, prime64x1, prime64x2, prime64x3, prime64x4, prime32x2,
  prime64x5, prime32x1]

/-- Folds 64 octets from place `i` into the lanes under the secret from place `k`. A lane takes
the word of its neighbour and the product of the halves of its own. -/
def foldStripe (bs : Array UInt8) (lanes : Lanes) (i k : Nat) : Lanes :=
  Vector.ofFn fun lane =>
    let neighbour := if lane.val % 2 = 0 then lane.val + 1 else lane.val - 1
    let own := word64 bs (i + 8 * lane.val) ^^^ word64 secret (k + 8 * lane.val)
    lanes[lane] + word64 bs (i + 8 * neighbour) + (own &&& (0xFFFFFFFF : UInt64)) * (own >>> 32)

/-- Stirs the lanes at the end of a block. -/
def stirLanes (lanes : Lanes) : Lanes :=
  Vector.ofFn fun lane =>
    let h := lanes[lane]
    (h ^^^ h >>> 47 ^^^ word64 secret (128 + 8 * lane.val)) * prime32x1

/-- The first stripes of the block at place `i`. -/
def foldStripes (bs : Array UInt8) (lanes : Lanes) (i stripes : Nat) : Lanes :=
  (List.range stripes).foldl (fun lanes s => foldStripe bs lanes (i + 64 * s) (8 * s)) lanes

/-- Blocks of sixteen stripes, the stripes left over, and the last 64 octets once more. -/
def long (bs : Array UInt8) : UInt64 :=
  let n := bs.size
  let blocks := (n - 1) / 1024
  let lanes := (List.range blocks).foldl
    (fun lanes b => stirLanes (foldStripes bs lanes (1024 * b) 16)) startLanes
  let lanes := foldStripes bs lanes (1024 * blocks) ((n - 1 - 1024 * blocks) / 64)
  let lanes := foldStripe bs lanes (n - 64) 121
  scatter ((List.finRange 4).foldl
    (fun h i => h + foldedProduct (lanes[2 * i.val] ^^^ word64 secret (11 + 16 * i.val))
      (lanes[2 * i.val + 1] ^^^ word64 secret (19 + 16 * i.val)))
    (UInt64.ofNat n * prime64x1))

/-! ## The digest -/

def ofArray (bs : Array UInt8) : UInt64 :=
  if bs.size = 0 then scatterShort (word64 secret 56 ^^^ word64 secret 64)
  else if bs.size ≤ 3 then upTo3 bs
  else if bs.size ≤ 8 then upTo8 bs
  else if bs.size ≤ 16 then upTo16 bs
  else if bs.size ≤ 128 then upTo128 bs
  else if bs.size ≤ 240 then upTo240 bs
  else long bs

/-- The digest of octets in hexadecimal, with leading zeros. -/
def ofOctets (bs : Octets) : Text :=
  let digits := Nat.toDigits 16 (ofArray bs.toArray).toNat
  List.replicate (16 - digits.length) '0' ++ digits

end QuizPages.Digest
