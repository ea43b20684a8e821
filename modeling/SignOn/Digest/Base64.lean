/-! # Base64 text

Bytes in the alphabet of sixty-four letters, three bytes to four letters. What is left at the end
is written in as few letters as it needs; no padding follows. -/

namespace SignOn.Digest

/-- The sixty-four letters, in the order of their values. -/
def base64Letters : Array Char :=
  "ABCDEFGHIJKLMNOPQRSTUVWXYZabcdefghijklmnopqrstuvwxyz0123456789+/".toList.toArray

/-- The letter of the lowest six bits of a number. -/
def base64Letter (n : Nat) : Char := base64Letters[n % 64]!

/-- The letters of a byte string. -/
def base64Chars : List UInt8 → List Char
  | a :: b :: c :: rest =>
    let n := a.toNat * 65536 + b.toNat * 256 + c.toNat
    base64Letter (n / 262144) :: base64Letter (n / 4096) :: base64Letter (n / 64)
      :: base64Letter n :: base64Chars rest
  | [a, b] =>
    let n := a.toNat * 1024 + b.toNat * 4
    [base64Letter (n / 4096), base64Letter (n / 64), base64Letter n]
  | [a] =>
    let n := a.toNat * 16
    [base64Letter (n / 64), base64Letter n]
  | [] => []

/-- The text of a byte string. -/
def base64 (bytes : List UInt8) : String := String.ofList (base64Chars bytes)

end SignOn.Digest
