/-!
# Text and bytes

Host text is a `String`, script text a list of bytes that need not be UTF-8. `Bytes.ofString`
encodes; `Bytes.toStringLossy` decodes and puts the replacement character for each maximal part
that no UTF-8 text can continue. The decoder reads one byte at a time: between characters it waits
for a leading byte, inside one for a byte in the range that the bytes read so far leave open.
-/

namespace ScriptBridge

/-- Script text. -/
abbrev Bytes : Type := List UInt8

namespace Bytes

/-- The UTF-8 encoding of a text. -/
def ofString (s : String) : Bytes := s.toList.flatMap String.utf8EncodeChar

/-- The bytes before the first zero byte, which is where the engine's messages take a text to
end. -/
def untilZero (bytes : Bytes) : Bytes := bytes.takeWhile (· ≠ 0)

/-- The character that stands for bytes that are not UTF-8. -/
def replacement : Char := '\uFFFD'

/-- A character begun: `value` holds the bits read so far, `missing + 1` bytes are still to come,
and the next one has to lie between `low` and `high`. -/
structure Begun where
  value : Nat
  missing : Nat
  low : Nat
  high : Nat

/-- What a byte between characters does: give a character, begin one, or fit nowhere. -/
inductive Lead where
  | character (c : Char)
  | begun (b : Begun)
  | stray

/-- The role of a byte between characters. -/
def lead (byte : Nat) : Lead :=
  if byte < 0x80 then .character (Char.ofNat byte)
  else if byte < 0xC2 then .stray
  else if byte < 0xE0 then .begun ⟨byte - 0xC0, 0, 0x80, 0xBF⟩
  else if byte = 0xE0 then .begun ⟨0, 1, 0xA0, 0xBF⟩
  else if byte = 0xED then .begun ⟨0xD, 1, 0x80, 0x9F⟩
  else if byte < 0xF0 then .begun ⟨byte - 0xE0, 1, 0x80, 0xBF⟩
  else if byte = 0xF0 then .begun ⟨0, 2, 0x90, 0xBF⟩
  else if byte < 0xF4 then .begun ⟨byte - 0xF0, 2, 0x80, 0xBF⟩
  else if byte = 0xF4 then .begun ⟨4, 2, 0x80, 0x8F⟩
  else .stray

/-- The characters of a byte between characters, and what it begins. -/
def start (byte : Nat) : List Char × Option Begun :=
  match lead byte with
  | .character c => ([c], none)
  | .begun b => ([], some b)
  | .stray => ([replacement], none)

/-- The characters that one more byte completes, and what stays begun. A byte that cannot continue
a character ends it as one replacement and is read anew. -/
def advance (begun : Option Begun) (byte : Nat) : List Char × Option Begun :=
  match begun with
  | none => start byte
  | some b =>
    if b.low ≤ byte ∧ byte ≤ b.high then
      let value := b.value * 64 + (byte - 0x80)
      match b.missing with
      | 0 => ([Char.ofNat value], none)
      | missing + 1 => ([], some ⟨value, missing, 0x80, 0xBF⟩)
    else
      let (characters, next) := start byte
      (replacement :: characters, next)

/-- The characters of bytes that follow a character begun. -/
def decodeFrom : Option Begun → Bytes → List Char
  | none, [] => []
  | some _, [] => [replacement]
  | begun, byte :: rest =>
    let (characters, next) := advance begun byte.toNat
    characters ++ decodeFrom next rest

/-- The text of bytes, with a replacement character for each part that is not UTF-8. -/
def toStringLossy (bytes : Bytes) : String := String.ofList (decodeFrom none bytes)

/-- The text of bytes that are UTF-8. -/
def toString? (bytes : Bytes) : Option String :=
  let s := toStringLossy bytes
  if ofString s = bytes then some s else none

end Bytes

end ScriptBridge
