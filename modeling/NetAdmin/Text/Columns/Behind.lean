import NetAdmin.Text.Columns.Letter
import NetAdmin.Text.Columns.Pictograph
/-!
Characters that join with those behind them. A line is counted from its end, and
`Behind` is what the characters counted so far offer the one in front of them:
a pictograph waits for a zero width joiner, a regional indicator for another
one, a selector for the character whose form it chooses. `Behind.count` says how
many columns a character adds, which is a negative number when it draws what
stands behind it closer together.
-/

namespace NetAdmin
namespace Text

inductive Form
  | pictograph
  | text
  | wideQuote
  deriving DecidableEq, Repr

namespace Form

def ofSelector? (c : Char) : Option Form :=
  if c = '\ufe0f' then some .pictograph
  else if c = '\ufe0e' then some .text
  else if c = '\ufe01' then some .wideQuote
  else none

/-- The columns of a character in a form, if it has the form. Signs in squares
and circles of East Asian scripts stay wide as text. -/
def columns? (form : Form) (c : Char) : Option Nat :=
  match form with
  | .pictograph => if hasTwoForms c then some 2 else none
  | .text =>
      let enclosed := 0x1F200 ≤ c.toNat && c.toNat ≤ 0x1F2FF
      if hasTwoForms c && isPictograph c && !enclosed then some 1 else none
  | .wideQuote =>
      if c = '\u2018' || c = '\u2019' || c = '\u201c' || c = '\u201d' then some 2 else none

end Form

inductive Joint
  | nothing
  | pictograph
  | skinTone
  | indicator
  | indicators
  /-- A zero width joiner and a pictograph. -/
  | joined
  /-- A keycap in front of a joiner and a pictograph. -/
  | joinedKeycap
  /-- One regional indicator in front of a joiner and a pictograph. -/
  | joinedIndicator
  /-- Several regional indicators there, and whether they make up pairs. -/
  | joinedIndicators (paired : Bool)
  /-- The letters of tags, behind which the last tag and a joiner stand. -/
  | tagLetters (count : Nat)
  /-- The digits of tags in front of such letters. -/
  | tagDigits (count : Nat)
  | alef
  | letter (merging : MergingLetter) (joiner : Bool)
  /-- The vowel sign E of Kirat Rai. -/
  | vowelE
  /-- The vowel sign AI of Kirat Rai. -/
  | vowelAi
  deriving DecidableEq, Repr

namespace Joint

def ofChar (c : Char) : Joint :=
  if isPictograph c then .pictograph
  else if isSkinTone c then .skinTone
  else if isIndicator c then .indicator
  else if inRanges alefRanges c.toNat then .alef
  else if c.toNat = 0x16D67 then .vowelE
  else if c.toNat = 0x16D68 then .vowelAi
  else
    match MergingLetter.of? c with
    | some merging => .letter merging false
    | none => .nothing

def takesPictograph (joint : Joint) : Bool :=
  joint = .joined || joint = .joinedKeycap

/-- What is left to join with in front of a selector. Letters merge across any
selector, pictographs across the one that asks for a pictograph. -/
def acrossSelector (form : Form) (joint : Joint) : Joint :=
  match joint with
  | .alef | .letter _ _ => joint
  | _ => if form = .pictograph && joint.takesPictograph then joint else .nothing

def acrossIdleSelector (joint : Joint) : Joint :=
  joint.acrossSelector .text

def isJoiner (c : Char) : Bool :=
  c = '\u200d'

/-- How a character joins with what stands behind it: the columns that it adds,
and what it offers in its turn. -/
def join? (joint : Joint) (c : Char) : Option (Int × Joint) :=
  match joint with
  | .nothing | .joinedKeycap => none
  | .pictograph => if isJoiner c then some (0, .joined) else none
  | .skinTone =>
      if isJoiner c then some (0, .joined)
      else if showsSkin c then some (0, .pictograph)
      else none
  | .indicator => if isIndicator c then some (1, .indicators) else none
  | .indicators =>
      if isJoiner c then some (0, .joined)
      else if isIndicator c then some (1, .indicators)
      else none
  | .joined =>
      if c = '\u20e3' then some (0, .joinedKeycap)
      else if isIndicator c then some (1, .joinedIndicator)
      else if isSkinTone c then some (0, .skinTone)
      else if c.toNat = 0xE007F then some (0, .tagLetters 0)
      else if isPictograph c then some (0, .pictograph)
      else none
  | .joinedIndicator => if isIndicator c then some (-1, .joinedIndicators true) else none
  | .joinedIndicators paired =>
      if isJoiner c then some (0, .joined)
      else if isIndicator c then some (if paired then 3 else -1, .joinedIndicators (!paired))
      else none
  | .tagLetters count =>
      if isTagLetter c && count < 6 then some (0, .tagLetters (count + 1))
      else if isTagDigit c && count ≤ 4 then some (0, .tagDigits 1)
      else if c = '🏴' && 3 ≤ count then some (0, .pictograph)
      else none
  | .tagDigits count =>
      if isTagDigit c && count < 3 then some (0, .tagDigits (count + 1))
      else if c = '🏴' && count = 3 then some (0, .pictograph)
      else none
  | .alef =>
      if inRanges lamRanges c.toNat then some (0, .nothing)
      else if joinsAcross c then some (0, .alef)
      else none
  | .letter merging joiner =>
      if isJoiner c then some (0, .letter merging true)
      else if inRanges ignorableMarkRanges c.toNat then some (0, joint)
      else
        (merging.merge? joiner c).map fun merged =>
          (merged.1, (merged.2.map (.letter · joiner)).getD .nothing)
  | .vowelE =>
      if c.toNat = 0x16D63 || c.toNat = 0x16D69 then some (0, .nothing)
      else if c.toNat = 0x16D67 then some (0, .vowelAi)
      else if c.toNat = 0x16D68 then some (1, .vowelE)
      else none
  | .vowelAi => if c.toNat = 0x16D63 then some (0, .nothing) else none

end Joint

structure Behind where
  joint : Joint
  selected : Option Form
  deriving DecidableEq, Repr

namespace Behind

def lineEnd : Behind := ⟨.nothing, none⟩

def chosen? (behind : Behind) (c : Char) : Option (Int × Behind) :=
  behind.selected.bind fun form =>
    (form.columns? c).map fun columns =>
      match form with
      | .pictograph =>
          (if behind.joint.takesPictograph then 0 else columns, ⟨.pictograph, none⟩)
      | _ => (columns, lineEnd)

def openJoint (behind : Behind) : Joint :=
  match behind.selected with
  | some _ => behind.joint.acrossIdleSelector
  | none => behind.joint

/-- How many columns a character adds in front of others, and what then stands
behind the next one. -/
def count (behind : Behind) (c : Char) : Int × Behind :=
  match behind.chosen? c with
  | some counted => counted
  | none =>
      match Form.ofSelector? c with
      | some form => (0, ⟨behind.openJoint.acrossSelector form, some form⟩)
      | none =>
          match behind.openJoint.join? c with
          | some (columns, joint) => (columns, ⟨joint, none⟩)
          | none => (charColumns c, ⟨.ofChar c, none⟩)

end Behind
end Text
end NetAdmin
