import NetAdmin.Json.Basic
/-!
Reading JSON text. `read?` yields the document that a text is, if the text is
one: a value with blanks around it. The grammar is the standard one; a reader
of one construct takes the text from its first character and returns what
follows the construct.
-/

namespace NetAdmin
namespace Json

def isSpace (c : Char) : Bool :=
  c = ' ' || c = '\n' || c = '\t' || c = '\r'

def skipSpaces (text : Text) : Text :=
  text.dropWhile isSpace

def spanDigits (text : Text) : Text × Text :=
  text.span Char.isDigit

/-! ## Numbers -/

def readDigits (text : Text) : Option (Text × Text) :=
  match spanDigits text with
  | ([], _) => none
  | digits => some digits

def readWhole (text : Text) : Option (Text × Text) :=
  match readDigits text with
  | some (digits, rest) => if digits.head? = some '0' ∧ 1 < digits.length then none
      else some (digits, rest)
  | none => none

def readFraction : Text → Option (Option Text × Text)
  | '.' :: rest => (readDigits rest).map fun read => (some read.1, read.2)
  | text => some (none, text)

def readPower : Text → Option (Option (Bool × Text) × Text)
  | '+' :: rest => (readDigits rest).map fun read => (some (false, read.1), read.2)
  | '-' :: rest => (readDigits rest).map fun read => (some (true, read.1), read.2)
  | rest => (readDigits rest).map fun read => (some (false, read.1), read.2)

def readExponent : Text → Option (Option (Bool × Text) × Text)
  | 'e' :: rest | 'E' :: rest => readPower rest
  | text => some (none, text)

def readUnsigned (negative : Bool) (text : Text) : Option (Number × Text) := do
  let (whole, rest) ← readWhole text
  let (fraction, rest) ← readFraction rest
  let (exponent, rest) ← readExponent rest
  some (⟨negative, whole, fraction, exponent⟩, rest)

/-! ## Strings -/

def hexDigit? (c : Char) : Option Nat :=
  if c.isDigit then some (c.toNat - '0'.toNat)
  else if 'a' ≤ c ∧ c ≤ 'f' then some (c.toNat - 'a'.toNat + 10)
  else if 'A' ≤ c ∧ c ≤ 'F' then some (c.toNat - 'A'.toNat + 10)
  else none

def escaped? : Char → Option Char
  | '"' => some '"'
  | '\\' => some '\\'
  | '/' => some '/'
  | 'b' => some '\x08'
  | 'f' => some '\x0c'
  | 'n' => some '\n'
  | 'r' => some '\r'
  | 't' => some '\t'
  | _ => none

inductive StringPart
  | char (c : Char)
  | code (value : Nat)
  deriving DecidableEq, Repr

def readParts : Text → Option (List StringPart × Text)
  | [] => none
  | '"' :: rest => some ([], rest)
  | '\\' :: 'u' :: a :: b :: c :: d :: rest => do
      let a ← hexDigit? a
      let b ← hexDigit? b
      let c ← hexDigit? c
      let d ← hexDigit? d
      let (parts, rest) ← readParts rest
      some (.code (((a * 16 + b) * 16 + c) * 16 + d) :: parts, rest)
  | '\\' :: letter :: rest => do
      let c ← escaped? letter
      let (parts, rest) ← readParts rest
      some (.char c :: parts, rest)
  | c :: rest =>
      if c.toNat < 0x20 then none
      else do
        let (parts, rest) ← readParts rest
        some (.char c :: parts, rest)

def isHighSurrogate (code : Nat) : Bool :=
  0xD800 ≤ code && code ≤ 0xDBFF

def isLowSurrogate (code : Nat) : Bool :=
  0xDC00 ≤ code && code ≤ 0xDFFF

/-- The text of the parts of a string. A code that is half of a surrogate pair
counts only together with the other half. -/
def content? : List StringPart → Option Text
  | [] => some []
  | .char c :: parts => (content? parts).map (c :: ·)
  | .code high :: .code low :: parts =>
      if isHighSurrogate high then
        if isLowSurrogate low then
          (content? parts).map
            (Char.ofNat (0x10000 + (high - 0xD800) * 0x400 + (low - 0xDC00)) :: ·)
        else none
      else if isLowSurrogate high then none
      else (content? (.code low :: parts)).map (Char.ofNat high :: ·)
  | .code value :: parts =>
      if isHighSurrogate value || isLowSurrogate value then none
      else (content? parts).map (Char.ofNat value :: ·)

def readString (text : Text) : Option (Option Text × Text) :=
  (readParts text).map fun read => (content? read.1, read.2)

/-! ## Marks -/

section Marks

variable {α : Type}

def afterMark (mark : Char) (read : Text → Option (α × Text)) (text : Text) :
    Option (α × Text) :=
  match skipSpaces text with
  | c :: rest => if c = mark then read rest else none
  | [] => none

def closedBy (mark : Char) (empty : α) (read : Text → Option (α × Text)) (text : Text) :
    Option (α × Text) :=
  match skipSpaces text with
  | c :: rest => if c = mark then some (empty, rest) else read (c :: rest)
  | [] => read []

def afterPart (mark : Char) (last : α) (more : Text → Option (α × Text)) (text : Text) :
    Option (α × Text) :=
  match skipSpaces text with
  | c :: rest =>
      if c = ',' then more rest else if c = mark then some (last, rest) else none
  | [] => none

end Marks

/-! ## Documents -/

def readWord (word text : Text) : Option Text :=
  word.isPrefixOf? text

mutual

/-- Reads a value. The bound limits how many values may be read one inside or
behind the other; the length of the text is enough. -/
def readValue : Nat → Text → Option (Json × Text)
  | 0, _ => none
  | bound + 1, text =>
      match skipSpaces text with
      | 'n' :: rest => (readWord "ull".toList rest).map fun rest => (.null, rest)
      | 't' :: rest => (readWord "rue".toList rest).map fun rest => (.bool true, rest)
      | 'f' :: rest => (readWord "alse".toList rest).map fun rest => (.bool false, rest)
      | '"' :: rest => (readString rest).map fun read => (.string read.1, read.2)
      | '[' :: rest =>
          closedBy ']' (.array [])
            (fun rest => (readItems bound rest).map fun read => (.array read.1, read.2)) rest
      | '\x7b' :: rest =>
          closedBy '\x7d' (.object [])
            (fun rest => (readFields bound rest).map fun read => (.object read.1, read.2)) rest
      | '-' :: rest => (readUnsigned true rest).map fun read => (.number read.1, read.2)
      | rest => (readUnsigned false rest).map fun read => (.number read.1, read.2)

def readItems : Nat → Text → Option (List Json × Text)
  | 0, _ => none
  | bound + 1, text =>
      (readValue bound text).bind fun item => afterPart ']' [item.1]
        (fun rest => (readItems bound rest).map fun read => (item.1 :: read.1, read.2)) item.2

def readFields : Nat → Text → Option (List (Option Text × Json) × Text)
  | 0, _ => none
  | bound + 1, text =>
      text |> afterMark '"' fun rest => (readString rest).bind fun name =>
        name.2 |> afterMark ':' fun rest => (readValue bound rest).bind fun value =>
          afterPart '\x7d' [(name.1, value.1)]
            (fun rest => (readFields bound rest).map fun read =>
              ((name.1, value.1) :: read.1, read.2)) value.2

end

def read? (text : Text) : Option Json :=
  match readValue (2 * text.length + 1) text with
  | some (document, rest) => if (skipSpaces rest).isEmpty then some document else none
  | none => none

end Json
end NetAdmin
