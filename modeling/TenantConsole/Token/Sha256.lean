/-!
# SHA-256

The hash of a text of bytes, and the keyed hash (HMAC) made of it. A message is cut into blocks of
sixteen words; each block is mixed into eight words of state in sixty-four rounds.
-/

namespace TenantConsole.Sha256

abbrev Word := UInt32

/-- The first bits of the fractional parts of the cube roots of the first sixty-four primes. -/
def roundConstants : List Word :=
  [0x428a2f98, 0x71374491, 0xb5c0fbcf, 0xe9b5dba5, 0x3956c25b, 0x59f111f1, 0x923f82a4, 0xab1c5ed5,
   0xd807aa98, 0x12835b01, 0x243185be, 0x550c7dc3, 0x72be5d74, 0x80deb1fe, 0x9bdc06a7, 0xc19bf174,
   0xe49b69c1, 0xefbe4786, 0x0fc19dc6, 0x240ca1cc, 0x2de92c6f, 0x4a7484aa, 0x5cb0a9dc, 0x76f988da,
   0x983e5152, 0xa831c66d, 0xb00327c8, 0xbf597fc7, 0xc6e00bf3, 0xd5a79147, 0x06ca6351, 0x14292967,
   0x27b70a85, 0x2e1b2138, 0x4d2c6dfc, 0x53380d13, 0x650a7354, 0x766a0abb, 0x81c2c92e, 0x92722c85,
   0xa2bfe8a1, 0xa81a664b, 0xc24b8b70, 0xc76c51a3, 0xd192e819, 0xd6990624, 0xf40e3585, 0x106aa070,
   0x19a4c116, 0x1e376c08, 0x2748774c, 0x34b0bcb5, 0x391c0cb3, 0x4ed8aa4a, 0x5b9cca4f, 0x682e6ff3,
   0x748f82ee, 0x78a5636f, 0x84c87814, 0x8cc70208, 0x90befffa, 0xa4506ceb, 0xbef9a3f7, 0xc67178f2]

structure State where
  a : Word
  b : Word
  c : Word
  d : Word
  e : Word
  f : Word
  g : Word
  h : Word

/-- The first bits of the fractional parts of the square roots of the first eight primes. -/
def initial : State :=
  ⟨0x6a09e667, 0xbb67ae85, 0x3c6ef372, 0xa54ff53a, 0x510e527f, 0x9b05688c, 0x1f83d9ab, 0x5be0cd19⟩

def rotate (x : Word) (n : Word) : Word := (x >>> n) ||| (x <<< (32 - n))

def round (s : State) (constant word : Word) : State :=
  let big1 := rotate s.e 6 ^^^ rotate s.e 11 ^^^ rotate s.e 25
  let choice := (s.e &&& s.f) ^^^ (~~~s.e &&& s.g)
  let t1 := s.h + big1 + choice + constant + word
  let big0 := rotate s.a 2 ^^^ rotate s.a 13 ^^^ rotate s.a 22
  let majority := (s.a &&& s.b) ^^^ (s.a &&& s.c) ^^^ (s.b &&& s.c)
  ⟨t1 + big0 + majority, s.a, s.b, s.c, s.d + t1, s.e, s.f, s.g⟩

/-- The word that follows sixteen others in a schedule. -/
def nextWord (window : List Word) : Word :=
  match window with
  | [w0, w1, _, _, _, _, _, _, _, w9, _, _, _, _, w14, _] =>
    let small0 := rotate w1 7 ^^^ rotate w1 18 ^^^ (w1 >>> 3)
    let small1 := rotate w14 17 ^^^ rotate w14 19 ^^^ (w14 >>> 10)
    small1 + w9 + small0 + w0
  | _ => 0

/-- One round for each constant, with the first word of a window that moves along the schedule. -/
def rounds (s : State) (window : List Word) : List Word → State
  | [] => s
  | constant :: rest =>
    rounds (round s constant (window.headD 0)) (window.drop 1 ++ [nextWord window]) rest

def mix (s : State) (block : List Word) : State :=
  let r := rounds s block roundConstants
  ⟨s.a + r.a, s.b + r.b, s.c + r.c, s.d + r.d, s.e + r.e, s.f + r.f, s.g + r.g, s.h + r.h⟩

def word (a b c d : UInt8) : Word :=
  (a.toUInt32 <<< 24) ||| (b.toUInt32 <<< 16) ||| (c.toUInt32 <<< 8) ||| d.toUInt32

def words : List UInt8 → List Word
  | a :: b :: c :: d :: rest => word a b c d :: words rest
  | _ => []

def wordBytes (w : Word) : List UInt8 :=
  [(w >>> 24).toUInt8, (w >>> 16).toUInt8, (w >>> 8).toUInt8, w.toUInt8]

/-- The lengths of a message and its padding fill whole blocks of sixty-four bytes: a one bit,
zeros, and the number of bits of the message in eight bytes. -/
def padded (message : List UInt8) : List UInt8 :=
  let length := message.length
  let zeros := (119 - length % 64) % 64
  let bits := length * 8
  let size := [56, 48, 40, 32, 24, 16, 8, 0].map fun place : Nat => UInt8.ofNat (bits >>> place)
  message ++ 0x80 :: List.replicate zeros 0 ++ size

/-- Mixes in sixteen words at a time; `fuel` is at least the number of words. -/
def mixAll (fuel : Nat) (s : State) (words : List Word) : State :=
  match fuel, words with
  | 0, _ => s
  | _, [] => s
  | fuel + 1, words => mixAll fuel (mix s (words.take 16)) (words.drop 16)

def hash (message : List UInt8) : List UInt8 :=
  let words := words (padded message)
  let s := mixAll words.length initial words
  [s.a, s.b, s.c, s.d, s.e, s.f, s.g, s.h].flatMap wordBytes

/-! ### The keyed hash -/

/-- A key in one block: a longer one is hashed first. -/
def keyBlock (key : List UInt8) : List UInt8 :=
  let short := if 64 < key.length then hash key else key
  short ++ List.replicate (64 - short.length) 0

def hmac (key message : List UInt8) : List UInt8 :=
  let block := keyBlock key
  hash (block.map (· ^^^ 0x5c) ++ hash (block.map (· ^^^ 0x36) ++ message))

end TenantConsole.Sha256
