import NetAdmin.Proofs.Text.Lines
import NetAdmin.Proofs.Text.Numeral
import NetAdmin.Route.Listing
/-!
Reading a line of a rule listing. A line is read exactly if its digits up to the first colon
are a priority, and then as that priority with the words behind the colon, those left out that
mark a rule whose device is gone. So a rule that was printed with such marks anywhere among its
words is read back (`ofLine?_recovers`).
-/

namespace NetAdmin

theorem Text.mem_of_mem_trimStart {text : Text} {c : Char} (member : c ∈ Text.trimStart text) :
    c ∈ text :=
  (List.dropWhile_sublist _).subset member

theorem Text.mem_of_mem_trimEnd {text : Text} {c : Char} (member : c ∈ Text.trimEnd text) :
    c ∈ text :=
  List.mem_reverse.mp ((List.dropWhile_sublist _).subset (List.mem_reverse.mp member))

namespace ListedRule

/-! ## Which lines show a rule -/

/-- The line without the blanks around it starts with the priority and a colon, and the body is
the words behind it that are no markers. -/
def ShownOn (line : Text) (rule : ListedRule) : Prop :=
  ∃ digits rest, Text.trim line = digits ++ ':' :: rest ∧ Decimal.IsNumeral digits ∧
    Decimal.placeValue digits = rule.priority ∧ rule.priority < Decimal.wordBound ∧
    rule.body = (Text.words rest).filter (· != detachedMarker)

theorem splitPriority_eq_some_iff {text digits rest : Text} :
    splitPriority text = some (digits, rest) ↔
      text = digits ++ ':' :: rest ∧ ∀ c ∈ digits, c.isDigit = true := by
  constructor
  · intro split
    have whole : text.takeWhile Char.isDigit ++ text.dropWhile Char.isDigit = text :=
      List.takeWhile_append_dropWhile
    unfold splitPriority at split
    split at split
    · next behind found =>
        cases split
        rw [found] at whole
        exact ⟨whole.symm, fun c member => List.mem_takeWhile_imp member⟩
    · cases split
  · rintro ⟨rfl, digits⟩
    rw [splitPriority, List.dropWhile_append_of_pos digits, List.takeWhile_append_of_pos digits]
    simp

theorem ofLine?_eq_some_iff {line : Text} (oneLine : '\n' ∉ line) (rule : ListedRule) :
    ofLine? line = some rule ↔ ShownOn line rule := by
  -- A newline behind the colon would have to stand in the line.
  have oneLineBehind {digits rest : Text} (whole : Text.trim line = digits ++ ':' :: rest) :
      '\n' ∉ Text.trimStart rest := by
    intro member
    have inTrim : '\n' ∈ Text.trim line := by
      rw [whole]
      exact List.mem_append_right _ (List.mem_cons_of_mem _ (Text.mem_of_mem_trimStart member))
    exact oneLine (Text.mem_of_mem_trimStart (Text.mem_of_mem_trimEnd inTrim))
  rcases rule with ⟨priority, body⟩
  unfold ofLine?
  constructor
  · intro read
    simp only [Option.bind_eq_bind, Option.bind_eq_some_iff, Prod.exists,
      splitPriority_eq_some_iff, Option.filter_eq_some_iff, Decimal.natural?_eq_some_iff] at read
    rcases read with ⟨digits, rest, ⟨whole, -⟩, value, ⟨⟨numeral, places⟩, small⟩, kept⟩
    rw [if_neg (by simpa using oneLineBehind whole), Text.words_trimStart] at kept
    cases kept
    exact ⟨digits, rest, whole, numeral, places, by simpa using small, rfl⟩
  · rintro ⟨digits, rest, whole, numeral, places, small, rfl⟩
    have split := splitPriority_eq_some_iff.mpr ⟨whole, numeral.2⟩
    have value := Decimal.natural?_eq_some_iff.mpr ⟨numeral, places⟩
    have fits : priority < Decimal.wordBound := small
    simp [split, value, Option.filter_some, fits, oneLineBehind whole, Text.words_trimStart]

/-! ## Printed rules -/

theorem trim_numeral (priority : Nat) (rest : Text) :
    Text.trim (Decimal.write priority ++ ':' :: rest) =
      Decimal.write priority ++ ':' :: Text.trimEnd rest := by
  have start : Text.trimStart (Decimal.write priority ++ ':' :: rest) =
      Decimal.write priority ++ ':' :: rest := by
    rcases List.exists_cons_of_ne_nil (Decimal.write_ne_nil priority) with ⟨c, others, written⟩
    have letter : Text.isBlank c = false :=
      Decimal.free_of_mem_write (written ▸ List.mem_cons_self)
    rw [written]
    exact List.dropWhile_cons_of_neg (by simp [letter])
  rw [Text.trim, start, Text.trimEnd_append_cons (by decide)]

theorem ofLine?_numeral {priority : Nat} (fits : priority < Decimal.wordBound)
    {rest : Text} (oneLine : '\n' ∉ rest) :
    ofLine? (Decimal.write priority ++ ':' :: rest) =
      some ⟨priority, (Text.words rest).filter (· != detachedMarker)⟩ := by
  have read := Decimal.natural?_eq_some_iff.mp (Decimal.natural?_write priority)
  have oneLineAll : '\n' ∉ Decimal.write priority ++ ':' :: rest := by
    intro member
    rcases List.mem_append.mp member with inNumeral | behind
    · exact absurd (Decimal.isDigit_of_mem_write inNumeral) (by decide)
    · exact oneLine (List.mem_of_ne_of_mem (by decide) behind)
  refine (ofLine?_eq_some_iff oneLineAll _).mpr
    ⟨Decimal.write priority, Text.trimEnd rest, trim_numeral priority rest, read.1, read.2,
      fits, ?_⟩
  rw [Text.words_trimEnd]

/-- The words of the body with markers among them, any number of times and anywhere. -/
inductive Marked : List Text → List Text → Prop
  | nil : Marked [] []
  | word {word : Text} {body shown : List Text} (others : Marked body shown) :
      Marked (word :: body) (word :: shown)
  | marker {body shown : List Text} (others : Marked body shown) :
      Marked body (detachedMarker :: shown)

namespace Marked

variable {body shown : List Text} (marked : Marked body shown)

include marked

theorem filter_eq (plain : ∀ word ∈ body, word ≠ detachedMarker) :
    shown.filter (· != detachedMarker) = body := by
  induction marked with
  | nil => rfl
  | word _ induction =>
      rw [List.forall_mem_cons] at plain
      rw [List.filter_cons_of_pos (by simpa using plain.1), induction plain.2]
  | marker _ induction => rw [List.filter_cons_of_neg (by simp), induction plain]

theorem isWord_of_mem (separate : ∀ word ∈ body, word.IsWord) : ∀ word ∈ shown, word.IsWord := by
  induction marked with
  | nil => exact separate
  | word _ induction =>
      rw [List.forall_mem_cons] at separate ⊢
      exact ⟨separate.1, induction separate.2⟩
  | marker _ induction => exact List.forall_mem_cons.mpr ⟨by decide, induction separate⟩

end Marked

/-- A line is read as a rule exactly if it shows one, and a rule that is printed with markers
among its words is read back. -/
theorem ofLine?_recovers (rule : ListedRule) :
    (∀ line, '\n' ∉ line → (ofLine? line = some rule ↔ ShownOn line rule)) ∧
      (rule.priority < Decimal.wordBound →
        (∀ word ∈ rule.body, word.IsWord ∧ word ≠ detachedMarker) →
        ∀ shown, Marked rule.body shown →
          ofLine? (Decimal.write rule.priority ++ ':' :: '\t' :: Text.glue ' ' shown) =
            some rule) := by
  refine ⟨fun line oneLine => ofLine?_eq_some_iff oneLine rule, ?_⟩
  intro fits plain shown marked
  have separate : ∀ word ∈ shown, word.IsWord :=
    marked.isWord_of_mem fun word member => (plain word member).1
  have oneLine : '\n' ∉ '\t' :: Text.glue ' ' shown := by
    rw [List.mem_cons, not_or]
    exact ⟨by decide, Text.not_mem_glue separate rfl (by decide)⟩
  rw [ofLine?_numeral fits oneLine, Text.words_cons_of_blank (by decide),
    Text.words_glue separate, marked.filter_eq fun word member => (plain word member).2]

theorem ofLine?_recovers_marked :
    let rule : ListedRule := ⟨4294967295, ["from".toList, "all".toList]⟩
    let line := "4294967295:\t[detached] from [detached] all [detached]".toList
    '\n' ∉ line ∧ ShownOn line rule ∧ rule.priority < Decimal.wordBound ∧
      (∀ word ∈ rule.body, word.IsWord ∧ word ≠ detachedMarker) ∧ ofLine? line = some rule := by
  intro rule line
  have oneLine : '\n' ∉ line := by decide
  have fits : rule.priority < Decimal.wordBound := by decide
  have plain : ∀ word ∈ rule.body, word.IsWord ∧ word ≠ detachedMarker := by decide
  have marked : Marked rule.body [detachedMarker, "from".toList, detachedMarker, "all".toList,
      detachedMarker] := .marker (.word (.marker (.word (.marker .nil))))
  have printed : line = Decimal.write rule.priority ++ ':' :: '\t' :: Text.glue ' '
      [detachedMarker, "from".toList, detachedMarker, "all".toList, detachedMarker] := by
    decide +kernel
  have read : ofLine? line = some rule := printed ▸ (ofLine?_recovers rule).2 fits plain _ marked
  exact ⟨oneLine, ((ofLine?_recovers rule).1 line oneLine).mp read, fits, plain, read⟩

end ListedRule
end NetAdmin
