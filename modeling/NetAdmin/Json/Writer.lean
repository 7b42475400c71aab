import NetAdmin.Json.Basic
/-!
Writing JSON documents for people: every item and field on a line of its own,
indented by two spaces for each level, and nothing between the brackets of an
empty array or object.
-/

namespace NetAdmin
namespace Json

def writeChar (c : Char) : Text :=
  match c with
  | '"' => ['\\', '"']
  | '\\' => ['\\', '\\']
  | '\x08' => ['\\', 'b']
  | '\x0c' => ['\\', 'f']
  | '\n' => ['\\', 'n']
  | '\r' => ['\\', 'r']
  | '\t' => ['\\', 't']
  | c =>
      if c.toNat < 0x20 then
        '\\' :: 'u' :: '0' :: '0' :: Nat.digitChar (c.toNat / 16) :: [Nat.digitChar (c.toNat % 16)]
      else [c]

def writeString (text : Text) : Text :=
  '"' :: text.flatMap writeChar ++ ['"']

def Number.write (number : Number) : Text :=
  (if number.negative then ['-'] else []) ++ number.whole ++
    (match number.fraction with
      | some digits => '.' :: digits
      | none => []) ++
    match number.exponent with
    | some (negative, digits) => 'e' :: (if negative then '-' :: digits else digits)
    | none => []

def newLine (level : Nat) : Text :=
  '\n' :: List.replicate (2 * level) ' '

mutual

def writeAt (level : Nat) : Json → Text
  | .null => "null".toList
  | .bool value => if value then "true".toList else "false".toList
  | .number value => value.write
  | .string content => writeString (content.getD [])
  | .array [] => "[]".toList
  | .array (item :: items) =>
      '[' :: newLine (level + 1) ++ writeAt (level + 1) item ++ writeItems (level + 1) items ++
        newLine level ++ [']']
  | .object [] => ['\x7b', '\x7d']
  | .object (field :: fields) =>
      '\x7b' :: newLine (level + 1) ++ writeString (field.1.getD []) ++ ": ".toList ++
        writeAt (level + 1) field.2 ++ writeFields (level + 1) fields ++ newLine level ++ ['\x7d']

def writeItems (level : Nat) : List Json → Text
  | [] => []
  | item :: items => ',' :: newLine level ++ writeAt level item ++ writeItems level items

def writeFields (level : Nat) : List (Option Text × Json) → Text
  | [] => []
  | field :: fields =>
      ',' :: newLine level ++ writeString (field.1.getD []) ++ ": ".toList ++
        writeAt level field.2 ++ writeFields level fields

end

def write (document : Json) : Text :=
  writeAt 0 document

example : write (ofFields [("a", .array [ofNat 1, .null]), ("b", .array [])]) =
    "\x7b\n  \"a\": [\n    1,\n    null\n  ],\n  \"b\": []\n\x7d".toList := by decide

end Json
end NetAdmin
