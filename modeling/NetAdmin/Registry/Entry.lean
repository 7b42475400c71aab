import NetAdmin.Error
import NetAdmin.Text.Blank
/-!
The entries of a registry of route tables. An entry is a line with a number
and a name; blank lines and lines that start with a hash are no entries, and
words behind the name are ignored.
-/

namespace NetAdmin

/-- A registered route table. The name is empty if the line has none. -/
structure TableEntry where
  number : Nat
  name : Text
  deriving DecidableEq, Repr

namespace TableEntry

def display (entry : TableEntry) : Text :=
  Decimal.write entry.number ++ '\t' :: entry.name

def ofLine (line : Text) : Except Error TableEntry :=
  let words := Text.words line
  match Decimal.word? (words.headD []) with
  | some number => .ok ⟨number, words.tail.headD []⟩
  | none =>
      .error (.unreadable "route table registry".toList
        ("bad table number in ".toList ++ Text.quoted line))

def isEntryLine (line : Text) : Bool :=
  !line.isEmpty && line.head? != some '#'

/-- The entries of a registry, in order. One line that is no entry and should
be one makes the registry unreadable. -/
def ofRegistry (registry : Text) : Except Error (List TableEntry) :=
  (((Text.lines registry).map Text.trim).filter isEntryLine).mapM ofLine

def numberLimit : Nat := 255

/-- The least number that may be handed out and that no entry has. -/
def firstFree (entries : List TableEntry) : Option Nat :=
  (List.range numberLimit).find? fun number => !entries.any (·.number == number)

end TableEntry
end NetAdmin
