/-
This file computes SHA-256 digests. A message is padded to whole blocks of sixty-four bytes, each
block is spread into a schedule of sixty-four words, and every word of the schedule stirs a state of
eight words, which is added to the state before the block.
-/

namespace Thumbnailer.Sha256

/-- Eight words between blocks. -/
structure State where
  a : UInt32
  b : UInt32
  c : UInt32
  d : UInt32
  e : UInt32
  f : UInt32
  g : UInt32
  h : UInt32

namespace State

def initial : State :=
  { a := 0x6a09e667, b := 0xbb67ae85, c := 0x3c6ef372, d := 0xa54ff53a
    e := 0x510e527f, f := 0x9b05688c, g := 0x1f83d9ab, h := 0x5be0cd19 }

def add (first second : State) : State :=
  { a := first.a + second.a, b := first.b + second.b, c := first.c + second.c
    d := first.d + second.d, e := first.e + second.e, f := first.f + second.f
    g := first.g + second.g, h := first.h + second.h }

def words (state : State) : List UInt32 :=
  [state.a, state.b, state.c, state.d, state.e, state.f, state.g, state.h]

end State

/-- The constants of the sixty-four rounds. -/
def roundConstants : List UInt32 :=
  [0x428a2f98, 0x71374491, 0xb5c0fbcf, 0xe9b5dba5, 0x3956c25b, 0x59f111f1, 0x923f82a4, 0xab1c5ed5,
    0xd807aa98, 0x12835b01, 0x243185be, 0x550c7dc3, 0x72be5d74, 0x80deb1fe, 0x9bdc06a7, 0xc19bf174,
    0xe49b69c1, 0xefbe4786, 0x0fc19dc6, 0x240ca1cc, 0x2de92c6f, 0x4a7484aa, 0x5cb0a9dc, 0x76f988da,
    0x983e5152, 0xa831c66d, 0xb00327c8, 0xbf597fc7, 0xc6e00bf3, 0xd5a79147, 0x06ca6351, 0x14292967,
    0x27b70a85, 0x2e1b2138, 0x4d2c6dfc, 0x53380d13, 0x650a7354, 0x766a0abb, 0x81c2c92e, 0x92722c85,
    0xa2bfe8a1, 0xa81a664b, 0xc24b8b70, 0xc76c51a3, 0xd192e819, 0xd6990624, 0xf40e3585, 0x106aa070,
    0x19a4c116, 0x1e376c08, 0x2748774c, 0x34b0bcb5, 0x391c0cb3, 0x4ed8aa4a, 0x5b9cca4f, 0x682e6ff3,
    0x748f82ee, 0x78a5636f, 0x84c87814, 0x8cc70208, 0x90befffa, 0xa4506ceb, 0xbef9a3f7, 0xc67178f2]

def rotateRight (word amount : UInt32) : UInt32 :=
  (word >>> amount) ||| (word <<< (32 - amount))

def bigSigma0 (word : UInt32) : UInt32 :=
  rotateRight word 2 ^^^ rotateRight word 13 ^^^ rotateRight word 22

def bigSigma1 (word : UInt32) : UInt32 :=
  rotateRight word 6 ^^^ rotateRight word 11 ^^^ rotateRight word 25

def smallSigma0 (word : UInt32) : UInt32 :=
  rotateRight word 7 ^^^ rotateRight word 18 ^^^ (word >>> 3)

def smallSigma1 (word : UInt32) : UInt32 :=
  rotateRight word 17 ^^^ rotateRight word 19 ^^^ (word >>> 10)

/-- Bytes of a number, the most significant first. -/
def bigEndian (count number : Nat) : List UInt8 :=
  (List.range count).reverse.map fun place => UInt8.ofNat (number >>> (8 * place))

/-- A message with its padding: a set bit, zeros, and the length in bits as eight bytes. -/
def padded (message : List UInt8) : List UInt8 :=
  let length := message.length
  message ++ (0x80 :: List.replicate ((119 - length % 64) % 64) 0) ++ bigEndian 8 (8 * length)

/-- The word in four bytes of a block. -/
def wordAt (bytes : Array UInt8) (start : Nat) : UInt32 :=
  (List.range 4).foldl
    (fun word place => (word <<< 8) ||| (bytes.getD (start + place) 0).toUInt32) 0

/-- The schedule of the block that starts at a byte. -/
def schedule (bytes : Array UInt8) (start : Nat) : Array UInt32 :=
  let first := (Array.range 16).map fun place => wordAt bytes (start + 4 * place)
  (List.range 48).foldl
    (fun words place =>
      words.push
        (smallSigma1 (words.getD (place + 14) 0) + words.getD (place + 9) 0 +
          smallSigma0 (words.getD (place + 1) 0) + words.getD place 0))
    first

def stir (state : State) (constant word : UInt32) : State :=
  let choice := (state.e &&& state.f) ^^^ (~~~state.e &&& state.g)
  let majority := (state.a &&& state.b) ^^^ (state.a &&& state.c) ^^^ (state.b &&& state.c)
  let first := state.h + bigSigma1 state.e + choice + constant + word
  let second := bigSigma0 state.a + majority
  { a := first + second, b := state.a, c := state.b, d := state.c
    e := state.d + first, f := state.e, g := state.f, h := state.g }

/-- The state after the block that starts at a byte. -/
def afterBlock (bytes : Array UInt8) (state : State) (start : Nat) : State :=
  let words := schedule bytes start
  let rounds := roundConstants.zip words.toList
  state.add (rounds.foldl (fun state round => stir state round.1 round.2) state)

def digest (message : List UInt8) : List UInt8 :=
  let bytes := (padded message).toArray
  let final := (List.range (bytes.size / 64)).foldl
    (fun state block => afterBlock bytes state (64 * block)) State.initial
  final.words.flatMap fun word => bigEndian 4 word.toNat

/-- A hexadecimal digit in lower case. -/
def hexDigit (value : Nat) : Char :=
  if value < 10 then Char.ofNat (48 + value) else Char.ofNat (87 + value)

def hexadecimal (bytes : List UInt8) : String :=
  String.ofList (bytes.flatMap fun byte => [hexDigit (byte.toNat / 16), hexDigit (byte.toNat % 16)])

end Thumbnailer.Sha256
