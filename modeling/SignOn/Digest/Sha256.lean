/-! # SHA-256

The digest of a byte string: the message is padded to whole blocks of sixty-four bytes, and each
block stirs eight words of thirty-two bits. -/

namespace SignOn.Digest

/-- The first thirty-two bits of the fractional parts of the cube roots of the first primes. -/
def roundConstants : Array UInt32 := #[
  0x428a2f98, 0x71374491, 0xb5c0fbcf, 0xe9b5dba5, 0x3956c25b, 0x59f111f1, 0x923f82a4, 0xab1c5ed5,
  0xd807aa98, 0x12835b01, 0x243185be, 0x550c7dc3, 0x72be5d74, 0x80deb1fe, 0x9bdc06a7, 0xc19bf174,
  0xe49b69c1, 0xefbe4786, 0x0fc19dc6, 0x240ca1cc, 0x2de92c6f, 0x4a7484aa, 0x5cb0a9dc, 0x76f988da,
  0x983e5152, 0xa831c66d, 0xb00327c8, 0xbf597fc7, 0xc6e00bf3, 0xd5a79147, 0x06ca6351, 0x14292967,
  0x27b70a85, 0x2e1b2138, 0x4d2c6dfc, 0x53380d13, 0x650a7354, 0x766a0abb, 0x81c2c92e, 0x92722c85,
  0xa2bfe8a1, 0xa81a664b, 0xc24b8b70, 0xc76c51a3, 0xd192e819, 0xd6990624, 0xf40e3585, 0x106aa070,
  0x19a4c116, 0x1e376c08, 0x2748774c, 0x34b0bcb5, 0x391c0cb3, 0x4ed8aa4a, 0x5b9cca4f, 0x682e6ff3,
  0x748f82ee, 0x78a5636f, 0x84c87814, 0x8cc70208, 0x90befffa, 0xa4506ceb, 0xbef9a3f7, 0xc67178f2]

/-- The eight words a digest starts from: fractional parts of square roots of primes. -/
def initialWords : Array UInt32 := #[
  0x6a09e667, 0xbb67ae85, 0x3c6ef372, 0xa54ff53a,
  0x510e527f, 0x9b05688c, 0x1f83d9ab, 0x5be0cd19]

/-- The bits of `x` moved right by `n`, those that fall out coming back at the left. -/
def rotateRight (x : UInt32) (n : UInt32) : UInt32 := (x >>> n) ||| (x <<< (32 - n))

/-- A natural number below `2 ^ (8 * n)` as `n` bytes, the most significant first. -/
def bigEndian : Nat → Nat → List UInt8
  | 0, _ => []
  | n + 1, x => UInt8.ofNat (x / 256 ^ n) :: bigEndian n (x % 256 ^ n)

/-- The message, a single one bit, zeros up to eight bytes before a block ends, and the length of
the message in bits. -/
def padded (message : List UInt8) : List UInt8 :=
  let used := (message.length + 9) % 64
  let zeros := if used = 0 then 0 else 64 - used
  message ++ 0x80 :: (List.replicate zeros 0 ++ bigEndian 8 (8 * message.length))

/-- Four bytes as one word, the most significant first. -/
def wordOf (a b c d : UInt8) : UInt32 :=
  (a.toUInt32 <<< 24) ||| (b.toUInt32 <<< 16) ||| (c.toUInt32 <<< 8) ||| d.toUInt32

/-- Bytes as words; what does not fill a word is dropped. -/
def wordsOf : List UInt8 → List UInt32
  | a :: b :: c :: d :: rest => wordOf a b c d :: wordsOf rest
  | _ => []

/-- The sixty-four words a block of sixteen is spread to. -/
def schedule (block : List UInt32) : Array UInt32 :=
  (List.range 48).foldl (fun w i =>
    let x := w[i + 1]!
    let y := w[i + 14]!
    let s0 := rotateRight x 7 ^^^ rotateRight x 18 ^^^ (x >>> 3)
    let s1 := rotateRight y 17 ^^^ rotateRight y 19 ^^^ (y >>> 10)
    w.push (w[i]! + s0 + w[i + 9]! + s1)) block.toArray

/-- One round: the eight words move up by one and two of them are replaced. -/
def round (w : Array UInt32) (h : Array UInt32) (i : Nat) : Array UInt32 :=
  let a := h[0]!
  let e := h[4]!
  let s1 : UInt32 := rotateRight e 6 ^^^ rotateRight e 11 ^^^ rotateRight e 25
  let choice := (e &&& h[5]!) ^^^ (~~~e &&& h[6]!)
  let t1 := h[7]! + s1 + choice + roundConstants[i]! + w[i]!
  let s0 := rotateRight a 2 ^^^ rotateRight a 13 ^^^ rotateRight a 22
  let majority := (a &&& h[1]!) ^^^ (a &&& h[2]!) ^^^ (h[1]! &&& h[2]!)
  #[t1 + s0 + majority, a, h[1]!, h[2]!, h[3]! + t1, e, h[5]!, h[6]!]

/-- The eight words after one more block. -/
def absorb (h : Array UInt32) (block : List UInt32) : Array UInt32 :=
  Array.zipWith (· + ·) h ((List.range 64).foldl (round (schedule block)) h)

/-- The eight words after `n` blocks of sixteen words. -/
def absorbAll : Nat → List UInt32 → Array UInt32 → Array UInt32
  | 0, _, h => h
  | n + 1, ws, h => absorbAll n (ws.drop 16) (absorb h (ws.take 16))

/-- The digest, thirty-two bytes. -/
def sha256 (message : List UInt8) : List UInt8 :=
  let ws := wordsOf (padded message)
  (absorbAll (ws.length / 16) ws initialWords).toList.flatMap fun w => bigEndian 4 w.toNat

end SignOn.Digest
