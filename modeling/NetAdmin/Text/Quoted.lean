import NetAdmin.Text.Printable
/-!
Texts in double quotes, as error messages show them. A quote, a backslash and
every character that would not be seen on its own is written as an escape, so
the quoted form is one visible line.
-/

namespace NetAdmin
namespace Text

def escapeLetter? : Char → Option Char
  | '\x00' => some '0'
  | '\t' => some 't'
  | '\n' => some 'n'
  | '\r' => some 'r'
  | '"' => some '"'
  | '\\' => some '\\'
  | _ => none

def escapeCode (c : Char) : Text :=
  '\\' :: 'u' :: '\x7b' :: Nat.toDigits 16 c.toNat ++ ['\x7d']

def quotedChar (c : Char) : Text :=
  match escapeLetter? c with
  | some letter => ['\\', letter]
  | none => if showsAlone c then [c] else escapeCode c

def quoted (text : Text) : Text :=
  '"' :: text.flatMap quotedChar ++ ['"']

example : quoted ['q', '"', '\t', '\x7f', '\u00e9'] =
    "\"q\\\"\\t\\u\x7b7f\x7dé\"".toList := by decide +kernel

end Text
end NetAdmin
