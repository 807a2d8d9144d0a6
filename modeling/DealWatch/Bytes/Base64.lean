import DealWatch.Text.Hexadecimal

/-!
# Base64 and hexadecimal text of bytes

* `base64` writes three bytes as four characters, with `=` to fill the last group;
* `ofBase64?` reads them, and skips what is none of the characters;
* `hexText` writes each byte as two digits, `hexBytes?` reads them.
-/

namespace DealWatch

/-- The sixty-four characters in the order of their values. -/
def base64Alphabet : List Char :=
  "ABCDEFGHIJKLMNOPQRSTUVWXYZabcdefghijklmnopqrstuvwxyz0123456789+/".toList

/-- The character of a value below sixty-four. -/
def base64Char (n : Nat) : Char := base64Alphabet.getD (n % 64) '='

/-- The Base64 characters of some bytes. -/
def base64Chars : List UInt8 → List Char
  | [] => []
  | [a] =>
    let n := a.toNat * 16
    [base64Char (n / 64), base64Char n, '=', '=']
  | [a, b] =>
    let n := (a.toNat * 256 + b.toNat) * 4
    [base64Char (n / 4096), base64Char (n / 64), base64Char n, '=']
  | a :: b :: c :: rest =>
    let n := (a.toNat * 256 + b.toNat) * 256 + c.toNat
    base64Char (n / 262144) :: base64Char (n / 4096) :: base64Char (n / 64) :: base64Char n ::
      base64Chars rest

/-- The Base64 text of some bytes. -/
def base64 (bytes : List UInt8) : String := String.ofList (base64Chars bytes)

/-- The value of a Base64 character. -/
def base64Value? (c : Char) : Option Nat := base64Alphabet.findIdx? (· == c)

/-- Reads Base64 characters. `values` are those of the group so far, the latest first, and `fills`
the signs that fill it. A group that is filled ends the text. -/
def ofBase64From (values : List Nat) (fills : Nat) : List Char → Option (List UInt8)
  | [] => if values.isEmpty then some [] else none
  | c :: rest =>
    match base64Value? c, values with
    | some d, [z, y, x] =>
      let n := ((x * 64 + y) * 64 + z) * 64 + d
      (ofBase64From [] 0 rest).map
        ([UInt8.ofNat (n / 65536), UInt8.ofNat (n / 256), UInt8.ofNat n] ++ ·)
    | some d, values => ofBase64From (d :: values) 0 rest
    | none, values =>
      if c ≠ '=' then ofBase64From values fills rest
      else
        match values with
        | [y, x] =>
          if fills = 0 then ofBase64From values 1 rest else some [UInt8.ofNat (x * 4 + y / 16)]
        | [z, y, x] =>
          some [UInt8.ofNat (x * 4 + y / 16), UInt8.ofNat (y * 16 + z / 4)]
        | values => ofBase64From values fills rest

/-- The bytes that a Base64 text writes. -/
def ofBase64? (s : String) : Option (List UInt8) := ofBase64From [] 0 s.toList

/-- The hexadecimal text of some bytes. -/
def hexText (bytes : List UInt8) : String :=
  String.ofList (bytes.flatMap fun b => hexPadded 2 b.toNat)

/-- The bytes that a hexadecimal text writes. -/
def hexBytes? : List Char → Option (List UInt8)
  | [] => some []
  | [_] => none
  | a :: b :: rest => do
    let a ← hexValue? a
    let b ← hexValue? b
    let bytes ← hexBytes? rest
    return UInt8.ofNat (16 * a + b) :: bytes

end DealWatch
