import Mathlib.Data.List.Basic
import NetAdmin.Command.Basic
/-!
Scripts of command lines. A reader goes through a script character by character and undoes its
quoting as a shell does; what else a shell may take for more than a character stands for itself.
Words in quotes read back whatever they hold (`read?_quoted`). Words that are written as they are
read back exactly if they are plain (`read?_bare_iff`), since the reader spends characters of the
script on whatever it takes for quoting.
-/

namespace NetAdmin
namespace Script

/-! ## Reading -/

inductive Quoting
  | bare
  | escaped
  | single
  | double
  | escapedInDouble
  deriving DecidableEq

/-- What is read of a script: its lines, the words of the line that has begun, and the word that has
begun. -/
structure Reading where
  quoting : Quoting
  lines : List CommandLine
  line : CommandLine
  word : Option Text
  deriving DecidableEq

namespace Reading

def start : Reading :=
  ⟨.bare, [], [], none⟩

def under (reading : Reading) (quoting : Quoting) : Reading :=
  { reading with quoting }

def enter (reading : Reading) (quoting : Quoting) : Reading :=
  { reading with quoting, word := some (reading.word.getD []) }

def add (reading : Reading) (quoting : Quoting) (characters : Text) : Reading :=
  { reading with quoting, word := some (reading.word.getD [] ++ characters) }

def endWord (reading : Reading) : Reading :=
  { reading with line := reading.line ++ reading.word.toList, word := none }

def endLine (reading : Reading) : Reading :=
  { reading with
    lines := reading.lines ++ [reading.line ++ reading.word.toList].filter (· ≠ [])
    line := []
    word := none }

def step (reading : Reading) (c : Char) : Reading :=
  match reading.quoting with
  | .bare =>
      if c = '\'' then reading.enter .single
      else if c = '"' then reading.enter .double
      else if c = '\\' then reading.under .escaped
      else if c = '\n' then reading.endLine
      else if c = ' ' ∨ c = '\t' then reading.endWord
      else reading.add .bare [c]
  | .escaped =>
      if c = '\n' then reading.under .bare else reading.add .bare [c]
  | .single => if c = '\'' then reading.enter .bare else reading.add .single [c]
  | .double =>
      if c = '"' then reading.enter .bare
      else if c = '\\' then reading.under .escapedInDouble
      else reading.add .double [c]
  | .escapedInDouble =>
      if c = '\n' then reading.under .double
      else if c ∈ ['$', '`', '"', '\\'] then reading.add .double [c]
      else reading.add .double ['\\', c]

end Reading

/-- The command lines of a script, if it ends with a line. -/
def read? (script : Text) : Option (List CommandLine) :=
  let final := script.foldl Reading.step .start
  if final.quoting = .bare ∧ final.line = [] ∧ final.word = none then some final.lines else none

def IsPlain (c : Char) : Prop :=
  c ≠ '\'' ∧ c ≠ '"' ∧ c ≠ '\\' ∧ c ≠ '\n' ∧ c ≠ ' ' ∧ c ≠ '\t'

instance (c : Char) : Decidable (IsPlain c) :=
  inferInstanceAs (Decidable (_ ∧ _))

/-- A word that is read as it is written. -/
def IsPlainWord (word : Text) : Prop :=
  word ≠ [] ∧ ∀ c ∈ word, IsPlain c

-- The characters of the word are gone through, and not all characters there are.
instance (word : Text) : Decidable (IsPlainWord word) :=
  @instDecidableAnd _ _ _ (List.decidableBAll IsPlain word)

def written (spell : Text → Text) (lines : List CommandLine) : Text :=
  lines.flatMap fun line => Text.glue ' ' (line.map spell) ++ ['\n']

/-- A word between single quotes. A quote in it is written between two such parts. -/
def quoted (word : Text) : Text :=
  '\'' :: word.flatMap (fun c => if c = '\'' then ['\'', '\\', '\'', '\''] else [c]) ++ ['\'']

example : quoted "it's ok".toList = "'it'\\''s ok'".toList := by decide

/-! ## Spellings of words -/

/-- The spelling is read as the word where none has begun. -/
def Spells (spelling word : Text) : Prop :=
  ∀ reading : Reading, reading.quoting = .bare → reading.word = none →
    spelling.foldl Reading.step reading = { reading with word := some word }

theorem spells_self {word : Text} (plain : IsPlainWord word) : Spells word word := by
  intro reading bare none
  have adds (text begun : Text) (free : ∀ c ∈ text, IsPlain c) :
      text.foldl Reading.step { reading with word := some begun } =
        { reading with word := some (begun ++ text) } := by
    induction text generalizing begun with
    | nil => simp
    | cons c text induction =>
        rw [List.forall_mem_cons] at free
        rcases free.1 with ⟨single, double, escape, ends, blank, tab⟩
        have next : Reading.step { reading with word := some begun } c =
            { reading with word := some (begun ++ [c]) } := by
          simp [Reading.step, bare, single, double, escape, ends, blank, tab, Reading.add]
        rw [List.foldl_cons, next, induction (begun ++ [c]) free.2, List.append_assoc,
          List.singleton_append]
  rcases word with _ | ⟨c, rest⟩
  · exact absurd rfl plain.1
  · rcases List.forall_mem_cons.mp plain.2 with ⟨⟨single, double, escape, ends, blank, tab⟩, free⟩
    have first : Reading.step reading c = { reading with word := some [c] } := by
      simp [Reading.step, bare, single, double, escape, ends, blank, tab, Reading.add, none]
    rw [List.foldl_cons, first]
    exact adds rest [c] free

theorem spells_quoted (word : Text) : Spells (quoted word) word := by
  intro reading bare none
  have adds (begun : Text) : (word.flatMap fun c =>
      if c = '\'' then ['\'', '\\', '\'', '\''] else [c]).foldl Reading.step
        { reading with quoting := .single, word := some begun } =
      { reading with quoting := .single, word := some (begun ++ word) } := by
    induction word generalizing begun with
    | nil => simp
    | cons c rest induction =>
        have next : (if c = '\'' then ['\'', '\\', '\'', '\''] else [c]).foldl Reading.step
            { reading with quoting := .single, word := some begun } =
            { reading with quoting := .single, word := some (begun ++ [c]) } := by
          by_cases quote : c = '\''
          · subst quote
            rfl
          · simp [Reading.step, Reading.add, quote]
        rw [List.flatMap_cons, List.foldl_append, next, induction (begun ++ [c]),
          List.append_assoc, List.singleton_append]
  have opens : Reading.step reading '\'' =
      { reading with quoting := .single, word := some [] } := by
    simp [Reading.step, bare, Reading.enter, none]
  rw [quoted, List.cons_append, List.foldl_cons, opens, List.foldl_append, adds]
  simp [Reading.step, Reading.enter, bare]

theorem foldl_line {spell : Text → Text} {line : CommandLine} (filled : line ≠ [])
    (spells : ∀ word ∈ line, Spells (spell word) word) (lines : List CommandLine)
    (begun : CommandLine) :
    (Text.glue ' ' (line.map spell) ++ ['\n']).foldl Reading.step ⟨.bare, lines, begun, none⟩ =
      ⟨.bare, lines ++ [begun ++ line], [], none⟩ := by
  induction line generalizing begun with
  | nil => exact absurd rfl filled
  | cons word line induction =>
      rw [List.forall_mem_cons] at spells
      rcases line with _ | ⟨second, others⟩
      · rw [List.map_singleton, Text.glue, List.foldl_append, spells.1 _ rfl rfl]
        simp [Reading.step, Reading.endLine]
      · have later := induction (List.cons_ne_nil _ _) spells.2 (begun ++ [word])
        have ends : Reading.step ⟨.bare, lines, begun, some word⟩ ' ' =
            ⟨.bare, lines, begun ++ [word], none⟩ := rfl
        have glued : Text.glue ' ' ((word :: second :: others).map spell) =
            spell word ++ ' ' :: Text.glue ' ' ((second :: others).map spell) := rfl
        rw [glued, List.append_assoc, List.foldl_append, spells.1 _ rfl rfl, List.cons_append,
          List.foldl_cons, ends, later, List.append_assoc, List.singleton_append]

theorem read?_written {spell : Text → Text} {lines : List CommandLine}
    (filled : ∀ line ∈ lines, line ≠ [])
    (spells : ∀ line ∈ lines, ∀ word ∈ line, Spells (spell word) word) :
    read? (written spell lines) = some lines := by
  have whole (done : List CommandLine) :
      (written spell lines).foldl Reading.step ⟨.bare, done, [], none⟩ =
        ⟨.bare, done ++ lines, [], none⟩ := by
    induction lines generalizing done with
    | nil => simp [written]
    | cons line lines induction =>
        rw [List.forall_mem_cons] at filled spells
        have rest := induction filled.2 spells.2 (done ++ [line])
        rw [written] at rest ⊢
        rw [List.flatMap_cons, List.foldl_append, foldl_line filled.1 spells.1, List.nil_append,
          rest, List.append_assoc, List.singleton_append]
  rw [read?, Reading.start, whole []]
  rfl

theorem read?_quoted {lines : List CommandLine} (filled : ∀ line ∈ lines, line ≠ []) :
    read? (written quoted lines) = some lines :=
  read?_written filled fun _ _ word _ => spells_quoted word

example : read? "iptables --comment 'allow ssh'\n".toList =
    some [["iptables".toList, "--comment".toList, "allow ssh".toList]] := by decide +kernel

/-! ## Characters spent on quoting -/

def sizeOfWords (words : List Text) : Nat :=
  words.flatten.length + words.length

theorem sizeOfWords_append (words others : List Text) :
    sizeOfWords (words ++ others) = sizeOfWords words + sizeOfWords others := by
  rw [sizeOfWords, List.flatten_append, List.length_append, List.length_append]
  exact Nat.add_add_add_comm _ _ _ _

theorem sizeOfWords_cons (word : Text) (words : List Text) :
    sizeOfWords (word :: words) = word.length + 1 + sizeOfWords words := by
  rw [sizeOfWords, List.flatten_cons, List.length_append, List.length_cons, sizeOfWords]
  omega

theorem length_written (lines : List CommandLine) (filled : ∀ line ∈ lines, line ≠ []) :
    (written id lines).length = sizeOfWords lines.flatten := by
  have line_length (line : CommandLine) (full : line ≠ []) :
      (Text.glue ' ' line).length + 1 = sizeOfWords line := by
    induction line with
    | nil => exact absurd rfl full
    | cons word line induction =>
        rw [sizeOfWords_cons]
        rcases line with _ | ⟨second, others⟩
        · rfl
        · have rest := induction (List.cons_ne_nil _ _)
          have glued : Text.glue ' ' (word :: second :: others) =
              word ++ ' ' :: Text.glue ' ' (second :: others) := rfl
          rw [glued, ← rest, List.length_append, List.length_cons]
          omega
  induction lines with
  | nil => rfl
  | cons line lines induction =>
      rw [List.forall_mem_cons] at filled
      have rest := induction filled.2
      rw [written] at rest ⊢
      rw [List.flatMap_cons, List.length_append, rest, List.map_id, List.length_append,
        List.length_singleton, line_length line filled.1, List.flatten_cons, sizeOfWords_append]

namespace Reading

def size (reading : Reading) : Nat :=
  sizeOfWords (reading.lines.flatten ++ reading.line) + (reading.word.getD []).length

structure Plain (reading : Reading) : Prop where
  lines : ∀ line ∈ reading.lines, ∀ word ∈ line, IsPlainWord word
  line : ∀ word ∈ reading.line, IsPlainWord word
  word : ∀ word ∈ reading.word, IsPlainWord word

def cost : Quoting → Nat
  | .bare | .escaped | .single | .double => 1
  | .escapedInDouble => 2

/-- After some characters either nothing was taken for quoting, or that has cost characters. -/
def Accounts (reading : Reading) (length : Nat) : Prop :=
  (reading.quoting = .bare ∧ reading.Plain ∧ reading.size ≤ length) ∨
    reading.size + cost reading.quoting ≤ length

variable (reading : Reading) (quoting : Quoting)

theorem size_under : (reading.under quoting).size = reading.size := rfl

theorem size_enter : (reading.enter quoting).size = reading.size := rfl

theorem size_add (characters : Text) :
    (reading.add quoting characters).size = reading.size + characters.length := by
  simp [size, add, Nat.add_assoc]

theorem quoting_under : (reading.under quoting).quoting = quoting := rfl

theorem quoting_enter : (reading.enter quoting).quoting = quoting := rfl

theorem quoting_add (characters : Text) : (reading.add quoting characters).quoting = quoting := rfl

theorem quoting_endWord : reading.endWord.quoting = reading.quoting := rfl

theorem quoting_endLine : reading.endLine.quoting = reading.quoting := rfl

theorem size_endWord : reading.endWord.size ≤ reading.size + 1 := by
  rw [size, size, endWord, ← List.append_assoc, sizeOfWords_append]
  rcases reading.word with _ | word
  · exact Nat.le_succ _
  · exact Nat.le_of_eq (by simp [sizeOfWords, Nat.add_assoc])

theorem size_endLine : reading.endLine.size ≤ reading.size + 1 := by
  have flat : reading.endLine.lines.flatten = reading.lines.flatten ++ reading.endWord.line := by
    rw [endLine, List.flatten_append, endWord]
    by_cases empty : reading.line ++ reading.word.toList = []
    · rw [empty]
      rfl
    · simp [empty]
  have same : reading.endLine.size = reading.endWord.size := by
    rw [size, flat]
    exact congrArg (sizeOfWords · + 0) (List.append_nil _)
  rw [same]
  exact size_endWord reading

variable {reading quoting}

theorem Plain.add (plain : reading.Plain) {c : Char} (free : IsPlain c) :
    (reading.add quoting [c]).Plain := by
  refine ⟨plain.lines, plain.line, ?_⟩
  rintro word ⟨⟩
  refine ⟨by simp, ?_⟩
  intro other member
  rcases List.mem_append.mp member with begun | here
  · cases standing : reading.word with
    | none => simp [standing] at begun
    | some word =>
        rw [standing] at begun
        exact (plain.word word standing).2 other begun
  · exact List.mem_singleton.mp here ▸ free

theorem Plain.append_toList (plain : reading.Plain) :
    ∀ word ∈ reading.line ++ reading.word.toList, IsPlainWord word := by
  intro word member
  rcases List.mem_append.mp member with before | last
  · exact plain.line word before
  · exact plain.word word (Option.mem_toList.mp last)

theorem Plain.endWord (plain : reading.Plain) : reading.endWord.Plain :=
  ⟨plain.lines, plain.append_toList, nofun⟩

theorem Plain.endLine (plain : reading.Plain) : reading.endLine.Plain := by
  refine ⟨?_, nofun, nofun⟩
  intro line member
  rcases List.mem_append.mp member with before | last
  · exact plain.lines line before
  · rw [List.mem_singleton.mp (List.mem_filter.mp last).1]
    exact plain.append_toList

theorem Accounts.size_le {length : Nat} (accounts : reading.Accounts length) :
    reading.size ≤ length := by
  rcases accounts with ⟨-, -, size⟩ | spent
  · exact size
  · omega

theorem Accounts.step_bare {length : Nat} (accounts : reading.Accounts length)
    (bare : reading.quoting = .bare) (c : Char) : (reading.step c).Accounts (length + 1) := by
  have most := accounts.size_le
  unfold Reading.step
  simp only [bare]
  split
  · exact .inr (Nat.add_le_add_right most 1)
  split
  · exact .inr (Nat.add_le_add_right most 1)
  split
  · exact .inr (Nat.add_le_add_right most 1)
  next single double escape =>
  split
  · have grows := reading.size_endLine
    rcases accounts with ⟨-, plain, size⟩ | spent
    · exact .inl ⟨bare, plain.endLine, by omega⟩
    · exact .inr (by rw [quoting_endLine]; omega)
  next ends =>
  split
  · have grows := reading.size_endWord
    rcases accounts with ⟨-, plain, size⟩ | spent
    · exact .inl ⟨bare, plain.endWord, by omega⟩
    · exact .inr (by rw [quoting_endWord]; omega)
  next apart =>
  rcases accounts with ⟨-, plain, size⟩ | spent
  · rw [not_or] at apart
    have free : IsPlain c := ⟨single, double, escape, ends, apart.1, apart.2⟩
    exact .inl ⟨rfl, plain.add free, by rw [size_add]; exact Nat.add_le_add_right size 1⟩
  · rw [bare] at spent
    exact .inr (by rw [size_add]; exact Nat.add_le_add_right spent 1)

theorem Accounts.step_of_quoting {length : Nat} (accounts : reading.Accounts length)
    (quotes : reading.quoting ≠ .bare) (c : Char) : (reading.step c).Accounts (length + 1) := by
  have spent : reading.size + cost reading.quoting ≤ length :=
    accounts.resolve_left fun clean => quotes clean.1
  refine .inr ?_
  unfold Reading.step
  cases quoting : reading.quoting with
  | bare => exact absurd quoting quotes
  | escaped =>
      rw [quoting, cost] at spent
      dsimp only
      split
      · rw [size_under, quoting_under, cost]
        omega
      · rw [size_add, quoting_add, cost]
        exact Nat.add_le_add_right spent 1
  | single =>
      rw [quoting, cost] at spent
      dsimp only
      split
      · rw [size_enter, quoting_enter, cost]
        omega
      · rw [size_add, quoting_add, cost]
        exact Nat.add_le_add_right spent 1
  | double =>
      rw [quoting, cost] at spent
      dsimp only
      split
      · rw [size_enter, quoting_enter, cost]
        omega
      split
      · rw [size_under, quoting_under, cost]
        omega
      · rw [size_add, quoting_add, cost]
        exact Nat.add_le_add_right spent 1
  | escapedInDouble =>
      rw [quoting, cost] at spent
      dsimp only
      split
      · rw [size_under, quoting_under, cost]
        omega
      split
      · rw [size_add, quoting_add, cost, List.length_singleton]
        omega
      · rw [size_add, quoting_add, cost]
        exact Nat.add_le_add_right spent 1

theorem Accounts.foldl {length : Nat} (accounts : reading.Accounts length) (script : Text) :
    (script.foldl Reading.step reading).Accounts (length + script.length) := by
  induction script generalizing reading length with
  | nil => exact accounts
  | cons c script induction =>
      have next : (reading.step c).Accounts (length + 1) := by
        by_cases bare : reading.quoting = .bare
        · exact accounts.step_bare bare c
        · exact accounts.step_of_quoting bare c
      rw [List.foldl_cons, List.length_cons, Nat.add_comm script.length, ← Nat.add_assoc]
      exact induction next

end Reading

/-- Words that are written as they are read back if they are plain, and only then. -/
theorem read?_bare_iff {lines : List CommandLine} (filled : ∀ line ∈ lines, line ≠ []) :
    read? (written id lines) = some lines ↔ ∀ line ∈ lines, ∀ word ∈ line, IsPlainWord word := by
  constructor
  · intro back
    have start : Reading.start.Accounts 0 := .inl ⟨rfl, ⟨nofun, nofun, nofun⟩, Nat.le_refl 0⟩
    have accounts := start.foldl (written id lines)
    rw [Nat.zero_add, length_written lines filled] at accounts
    rw [read?] at back
    split at back
    · next ended =>
      rcases accounts with ⟨-, plain, -⟩ | spent
      · exact Option.some.inj back ▸ plain.lines
      · rw [Reading.size, Option.some.inj back, ended.1, ended.2.1, ended.2.2] at spent
        exact absurd spent (by simp [Reading.cost, sizeOfWords])
    · cases back
  · intro plain
    exact read?_written filled fun line inside word member =>
      spells_self (plain line inside word member)

end Script
end NetAdmin
