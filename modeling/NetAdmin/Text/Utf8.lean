import NetAdmin.Text.Basic
/-!
Texts as UTF-8 bytes. Files and the output of commands are bytes. A file that
is read as text must be well formed; in the output of a command every ill-formed
part is replaced by one replacement character.

`units` cuts bytes into well-formed characters and ill-formed parts. An
ill-formed part is as long as it could still have been the start of a
character, and at least one byte.
-/

namespace NetAdmin
namespace Utf8

abbrev Bytes := List UInt8

def encode (text : Text) : Bytes :=
  text.flatMap String.utf8EncodeChar

def continuation? (byte : UInt8) : Option Nat :=
  if 0x80 ≤ byte ∧ byte ≤ 0xBF then some (byte.toNat - 0x80) else none

/-- Reads the bytes after the first one of a character: `needed` of them, of
which the next must also lie between two bounds. Yields the character, if it is
complete, and how many of the bytes belong to it. -/
def readRest (value used : Nat) (low high : UInt8) : Nat → Bytes → Option Char × Nat
  | 0, _ => (some (Char.ofNat value), used)
  | _ + 1, [] => (none, used)
  | needed + 1, byte :: bytes =>
      match continuation? byte with
      | some part =>
          if low ≤ byte ∧ byte ≤ high then
            readRest (64 * value + part) (used + 1) 0x80 0xBF needed bytes
          else (none, used)
      | none => (none, used)

/-- Reads one character that starts with the given byte. The bounds on the
second byte exclude overlong forms, surrogates and values past the last code
point. -/
def readFirst (byte : UInt8) (bytes : Bytes) : Option Char × Nat :=
  let value := byte.toNat
  if value < 0x80 then (some (Char.ofNat value), 0)
  else if value < 0xC2 then (none, 0)
  else if value < 0xE0 then readRest (value - 0xC0) 0 0x80 0xBF 1 bytes
  else if value = 0xE0 then readRest 0 0 0xA0 0xBF 2 bytes
  else if value = 0xED then readRest 0xD 0 0x80 0x9F 2 bytes
  else if value < 0xF0 then readRest (value - 0xE0) 0 0x80 0xBF 2 bytes
  else if value = 0xF0 then readRest 0 0 0x90 0xBF 3 bytes
  else if value < 0xF4 then readRest (value - 0xF0) 0 0x80 0xBF 3 bytes
  else if value = 0xF4 then readRest 4 0 0x80 0x8F 3 bytes
  else (none, 0)

/-- The characters of the bytes, with `none` for each ill-formed part. The
first `skipped` bytes belong to a unit that has been read. -/
def units : Nat → Bytes → List (Option Char)
  | _, [] => []
  | skipped + 1, _ :: bytes => units skipped bytes
  | 0, byte :: bytes =>
      let unit := readFirst byte bytes
      unit.1 :: units unit.2 bytes

def decode? (bytes : Bytes) : Option Text :=
  (units 0 bytes).mapM id

def decodeReplacing (bytes : Bytes) : Text :=
  (units 0 bytes).map fun unit => unit.getD '\ufffd'

/-- The bytes of an encoded surrogate and an overlong form stand for nothing,
byte by byte; a cut-off character is one part. -/
example : decodeReplacing [0xED, 0xA0, 0x80, 0xC0, 0xAF] = List.replicate 5 '\ufffd' := by decide
example : decodeReplacing [0xE2, 0x82, 0x41] = ['\ufffd', 'A'] := by decide
example : decode? (encode "é😀".toList) = some "é😀".toList := by decide

end Utf8
end NetAdmin
