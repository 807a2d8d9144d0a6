/-!
# Bytes and texts

* `utf8` gives the bytes of a text in UTF-8, `ofUtf8?` the text of such bytes;
* `readUtf8` reads any bytes, with a sign in place of those that write nothing;
* `unifyLines` writes every end of a line as a line feed.
-/

namespace DealWatch

/-- The bytes of a text in UTF-8. -/
def utf8 (s : String) : List UInt8 := s.toUTF8.data.toList

/-- The text that bytes write in UTF-8. -/
def ofUtf8? (bytes : List UInt8) : Option String := String.fromUTF8? ⟨bytes.toArray⟩

/-- The character in place of bytes that write none. -/
def replacement : Char := '\ufffd'

/-- How the bytes of a character go on after the first one. -/
structure Continuation where
  /-- The bits of the first byte that count. -/
  bits : Nat
  /-- The number of bytes that follow. -/
  count : Nat
  /-- The least byte that may come second. -/
  low : Nat
  /-- The greatest byte that may come second. -/
  high : Nat
  deriving DecidableEq, Repr, Inhabited

/-- How the bytes of a character outside ASCII go on after the first one, if it starts any. -/
def continuation? (first : Nat) : Option Continuation :=
  if 0xc2 ≤ first && first < 0xe0 then some ⟨first % 0x20, 1, 0x80, 0xbf⟩
  else if 0xe0 ≤ first && first < 0xf0 then
    some ⟨first % 0x10, 2, if first = 0xe0 then 0xa0 else 0x80, if first = 0xed then 0x9f else 0xbf⟩
  else if 0xf0 ≤ first && first < 0xf5 then
    some ⟨first % 8, 3, if first = 0xf0 then 0x90 else 0x80, if first = 0xf4 then 0x8f else 0xbf⟩
  else none

/-- The bytes that go on with a character, as many as there are of them. -/
def Continuation.take (k : Continuation) (bytes : List UInt8) : List UInt8 :=
  match bytes with
  | [] => []
  | second :: rest =>
    if k.low ≤ second.toNat && second.toNat ≤ k.high then
      second :: (rest.take (k.count - 1)).takeWhile fun b => 0x80 ≤ b.toNat && b.toNat < 0xc0
    else []

/-- The characters that bytes write in UTF-8, with a sign in place of each longest row of bytes that
starts a character and does not end it. The first bytes may have been read already. -/
def readUtf8From : Nat → List UInt8 → List Char
  | _, [] => []
  | known + 1, _ :: rest => readUtf8From known rest
  | 0, first :: rest =>
    if first.toNat < 0x80 then Char.ofNat first.toNat :: readUtf8From 0 rest
    else
      match continuation? first.toNat with
      | none => replacement :: readUtf8From 0 rest
      | some k =>
        let more := k.take rest
        let c := if more.length = k.count then
            Char.ofNat (more.foldl (fun n b => 64 * n + b.toNat % 64) k.bits)
          else replacement
        c :: readUtf8From more.length rest

/-- The text that bytes write in UTF-8, with a sign in place of bytes that write nothing. -/
def readUtf8 (bytes : List UInt8) : String := String.ofList (readUtf8From 0 bytes)

/-- A text with a line feed at the end of each line. -/
def unifyLines : List Char → List Char
  | '\r' :: '\n' :: rest => '\n' :: unifyLines rest
  | '\r' :: rest => '\n' :: unifyLines rest
  | c :: rest => c :: unifyLines rest
  | [] => []

/-- The text of a file with the given bytes. -/
def fileText? (bytes : List UInt8) : Option String :=
  (ofUtf8? bytes).map fun s => String.ofList (unifyLines s.toList)

end DealWatch
