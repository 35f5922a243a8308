import GitDelivery.Bytes.Utf8

set_option autoImplicit false

/-! The MD5 digest of bytes, as 32 hexadecimal digits. -/

namespace GitDelivery.Bytes

namespace Md5

private def shifts : Array UInt32 :=
  #[7, 12, 17, 22, 5, 9, 14, 20, 4, 11, 16, 23, 6, 10, 15, 21]

/-- The whole parts of 2³² times the absolute sines of 1 to 64. -/
private def sines : Array UInt32 :=
  #[0xd76aa478, 0xe8c7b756, 0x242070db, 0xc1bdceee, 0xf57c0faf, 0x4787c62a, 0xa8304613, 0xfd469501,
    0x698098d8, 0x8b44f7af, 0xffff5bb1, 0x895cd7be, 0x6b901122, 0xfd987193, 0xa679438e, 0x49b40821,
    0xf61e2562, 0xc040b340, 0x265e5a51, 0xe9b6c7aa, 0xd62f105d, 0x02441453, 0xd8a1e681, 0xe7d3fbc8,
    0x21e1cde6, 0xc33707d6, 0xf4d50d87, 0x455a14ed, 0xa9e3e905, 0xfcefa3f8, 0x676f02d9, 0x8d2a4c8a,
    0xfffa3942, 0x8771f681, 0x6d9d6122, 0xfde5380c, 0xa4beea44, 0x4bdecfa9, 0xf6bb4b60, 0xbebfbc70,
    0x289b7ec6, 0xeaa127fa, 0xd4ef3085, 0x04881d05, 0xd9d4d039, 0xe6db99e5, 0x1fa27cf8, 0xc4ac5665,
    0xf4292244, 0x432aff97, 0xab9423a7, 0xfc93a039, 0x655b59c3, 0x8f0ccc92, 0xffeff47d, 0x85845dd1,
    0x6fa87e4f, 0xfe2ce6e0, 0xa3014314, 0x4e0811a1, 0xf7537e82, 0xbd3af235, 0x2ad7d2bb, 0xeb86d391]

structure State where
  a : UInt32
  b : UInt32
  c : UInt32
  d : UInt32

private def initial : State := ⟨0x67452301, 0xefcdab89, 0x98badcfe, 0x10325476⟩

private def rotate (word amount : UInt32) : UInt32 :=
  (word <<< amount) ||| (word >>> (32 - amount))

private def step (words : Array UInt32) (state : State) (index : Nat) : State :=
  let round := index / 16
  let (mixed, place) :=
    match round with
    | 0 => ((state.b &&& state.c) ||| (~~~state.b &&& state.d), index)
    | 1 => ((state.d &&& state.b) ||| (~~~state.d &&& state.c), (5 * index + 1) % 16)
    | 2 => (state.b ^^^ state.c ^^^ state.d, (3 * index + 5) % 16)
    | _ => (state.c ^^^ (state.b ||| ~~~state.d), 7 * index % 16)
  let sum := mixed + state.a + sines.getD index 0 + words.getD place 0
  ⟨state.d, state.b + rotate sum (shifts.getD (4 * round + index % 4) 0), state.b, state.c⟩

private def block (state : State) (words : Array UInt32) : State :=
  let final := (List.range 64).foldl (step words) state
  ⟨state.a + final.a, state.b + final.b, state.c + final.c, state.d + final.d⟩

/-- The digits of a number in base 256, least first. -/
private def littleEndian : Nat → Nat → Bytes
  | 0, _ => []
  | count + 1, number => (number % 256).toUInt8 :: littleEndian count (number / 256)

private def wordsOf : Bytes → List UInt32
  | a :: b :: c :: d :: rest =>
    (a.toUInt32 ||| (b.toUInt32 <<< 8) ||| (c.toUInt32 <<< 16) ||| (d.toUInt32 <<< 24))
      :: wordsOf rest
  | _ => []

private def blocksOf : Nat → List UInt32 → List (Array UInt32)
  | 0, _ => []
  | count + 1, words => (words.take 16).toArray :: blocksOf count (words.drop 16)

private def padded (bytes : Bytes) : Bytes :=
  let filler := (119 - bytes.length % 64) % 64
  bytes ++ 0x80 :: List.replicate filler 0 ++ littleEndian 8 (bytes.length * 8)

end Md5

private def hexDigits (byte : UInt8) : List Char :=
  [Nat.digitChar (byte.toNat / 16), Nat.digitChar (byte.toNat % 16)]

def md5 (bytes : Bytes) : String :=
  let words := Md5.wordsOf (Md5.padded bytes)
  let final := (Md5.blocksOf (words.length / 16) words).foldl Md5.block Md5.initial
  let digest := [final.a, final.b, final.c, final.d].flatMap fun word =>
    Md5.littleEndian 4 word.toNat
  String.ofList (digest.flatMap hexDigits)

end GitDelivery.Bytes
