/-
This file computes the MD5 digest of a byte string. The message is padded to whole blocks of
sixteen little-endian words, each block updates four words of state in sixty-four steps, and the
digest is the state written in hexadecimal, low byte first.
-/

import DumpRestore.Text.Quoted

namespace DumpRestore.Digest

/-! ### Constants -/

/-- The constant added in each step: the first thirty-two bits of the fraction of the sine of the
step's number, without its sign. -/
def sines : Array UInt32 := #[
  0xd76aa478, 0xe8c7b756, 0x242070db, 0xc1bdceee, 0xf57c0faf, 0x4787c62a, 0xa8304613, 0xfd469501,
  0x698098d8, 0x8b44f7af, 0xffff5bb1, 0x895cd7be, 0x6b901122, 0xfd987193, 0xa679438e, 0x49b40821,
  0xf61e2562, 0xc040b340, 0x265e5a51, 0xe9b6c7aa, 0xd62f105d, 0x02441453, 0xd8a1e681, 0xe7d3fbc8,
  0x21e1cde6, 0xc33707d6, 0xf4d50d87, 0x455a14ed, 0xa9e3e905, 0xfcefa3f8, 0x676f02d9, 0x8d2a4c8a,
  0xfffa3942, 0x8771f681, 0x6d9d6122, 0xfde5380c, 0xa4beea44, 0x4bdecfa9, 0xf6bb4b60, 0xbebfbc70,
  0x289b7ec6, 0xeaa127fa, 0xd4ef3085, 0x04881d05, 0xd9d4d039, 0xe6db99e5, 0x1fa27cf8, 0xc4ac5665,
  0xf4292244, 0x432aff97, 0xab9423a7, 0xfc93a039, 0x655b59c3, 0x8f0ccc92, 0xffeff47d, 0x85845dd1,
  0x6fa87e4f, 0xfe2ce6e0, 0xa3014314, 0x4e0811a1, 0xf7537e82, 0xbd3af235, 0x2ad7d2bb, 0xeb86d391]

/-- The rotation of each step. -/
def rotation (step : Nat) : UInt32 :=
  match step / 16, step % 4 with
  | 0, 0 => 7 | 0, 1 => 12 | 0, 2 => 17 | 0, _ => 22
  | 1, 0 => 5 | 1, 1 => 9 | 1, 2 => 14 | 1, _ => 20
  | 2, 0 => 4 | 2, 1 => 11 | 2, 2 => 16 | 2, _ => 23
  | _, 0 => 6 | _, 1 => 10 | _, 2 => 15 | _, _ => 21

/-! ### State -/

/-- The four words of state. -/
structure State where
  a : UInt32
  b : UInt32
  c : UInt32
  d : UInt32

/-- The state before the first block. -/
def initial : State := ⟨0x67452301, 0xefcdab89, 0x98badcfe, 0x10325476⟩

/-- A word turned to the left. -/
def rotateLeft (word amount : UInt32) : UInt32 :=
  (word <<< amount) ||| (word >>> (32 - amount))

/-- One step on a block of sixteen words. -/
def State.step (words : Array UInt32) (state : State) (number : Nat) : State :=
  let ⟨a, b, c, d⟩ := state
  let (mixed, index) := match number / 16 with
    | 0 => ((b &&& c) ||| (~~~b &&& d), number)
    | 1 => ((d &&& b) ||| (~~~d &&& c), (5 * number + 1) % 16)
    | 2 => (b ^^^ c ^^^ d, (3 * number + 5) % 16)
    | _ => (c ^^^ (b ||| ~~~d), (7 * number) % 16)
  let sum := mixed + a + sines.getD number 0 + words.getD index 0
  ⟨d, b + rotateLeft sum (rotation number), b, c⟩

/-- The state after a block. -/
def State.block (state : State) (words : Array UInt32) : State :=
  let mixed := (List.range 64).foldl (State.step words) state
  ⟨state.a + mixed.a, state.b + mixed.b, state.c + mixed.c, state.d + mixed.d⟩

/-! ### Message -/

/-- The lowest bytes of a number, low byte first. -/
def littleEndian : (count number : Nat) → List UInt8
  | 0, _ => []
  | count + 1, number => UInt8.ofNat (number % 256) :: littleEndian count (number / 256)

/-- The message with a one bit, zeros up to eight bytes before a whole block, and its length in
bits. -/
def padded (message : List UInt8) : List UInt8 :=
  let zeros := (119 - message.length % 64) % 64
  message ++ 0x80 :: List.replicate zeros 0 ++ littleEndian 8 (message.length * 8)

/-- The little-endian words of a byte string whose length is a multiple of four. -/
def wordsOf : List UInt8 → List UInt32
  | first :: second :: third :: fourth :: rest =>
    (first.toUInt32 ||| second.toUInt32 <<< 8 ||| third.toUInt32 <<< 16 |||
      fourth.toUInt32 <<< 24) :: wordsOf rest
  | _ => []

/-- The state after `count` blocks of words. -/
def digestBlocks : (count : Nat) → State → List UInt32 → State
  | 0, state, _ => state
  | count + 1, state, words =>
    digestBlocks count (state.block (words.take 16).toArray) (words.drop 16)

/-- The sixteen bytes of the digest. -/
def md5 (message : List UInt8) : List UInt8 :=
  let words := wordsOf (padded message)
  let state := digestBlocks (words.length / 16) initial words
  [state.a, state.b, state.c, state.d].flatMap fun word => littleEndian 4 word.toNat

/-- The digest in hexadecimal, two digits a byte. -/
def md5Text (message : List UInt8) : Text :=
  (md5 message).flatMap fun byte => Text.hexadecimal 2 byte.toNat

end DumpRestore.Digest
