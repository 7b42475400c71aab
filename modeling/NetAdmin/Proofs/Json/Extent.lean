import Mathlib.Data.List.DropRight
import Mathlib.Data.List.Infix
import Mathlib.Data.List.TakeWhile
import NetAdmin.Json.Reader
import NetAdmin.Proofs.Text.Lines
/-!
How far a reader of JSON looks. A reader takes a first part of a text and leaves the rest, and
what it takes does not depend on how much of that rest there is (`Local`). Readers that are
put together from local ones are local (`Takes.bind`), down to the bound on nested values, of
which the length of what is taken is enough. So what stands behind a document may be left out.
-/

namespace NetAdmin
namespace Json

variable {α β : Type}

/-! ## Local readers -/

/-- The reader takes a part of a text that is followed by any beginning of the given rest. -/
def Takes (read : Text → Option (α × Text)) (used : Text) (value : α) (rest : Text) : Prop :=
  ∀ front, front <+: rest → read (used ++ front) = some (value, front)

/-- Whatever the reader takes from a text, it also takes if less of the rest follows. -/
def Local (read : Text → Option (α × Text)) : Prop :=
  ∀ ⦃text value rest⦄, read text = some (value, rest) →
    ∃ used, text = used ++ rest ∧ Takes read used value rest

namespace Takes

variable {read : Text → Option (α × Text)} {used rest : Text} {value : α}

theorem map (takes : Takes read used value rest) (transform : α → β) :
    Takes (fun text => (read text).map fun found => (transform found.1, found.2)) used
      (transform value) rest := by
  intro front begins
  simp only [takes front begins, Option.map_some]

theorem bind {usedNext : Text} {other : β} (takes : Takes read used value (usedNext ++ rest))
    (next : α → Text → Option (β × Text)) (others : Takes (next value) usedNext other rest) :
    Takes (fun text => (read text).bind fun found => next found.1 found.2) (used ++ usedNext)
      other rest := by
  intro front begins
  have inRest : usedNext ++ front <+: usedNext ++ rest :=
    (List.prefix_append_right_inj usedNext).mpr begins
  simp only [List.append_assoc, takes _ inRest, Option.bind_some]
  exact others front begins

theorem append (takes : Takes read used value rest) {whole : Text → Option (α × Text)}
    {first : Text} (goesOn : ∀ text, whole (first ++ text) = read text) :
    Takes whole (first ++ used) value rest := by
  intro front begins
  rw [List.append_assoc, goesOn]
  exact takes front begins

theorem congr (takes : Takes read used value rest) {whole : Text → Option (α × Text)}
    (same : ∀ front, front <+: used ++ rest → whole front = read front) :
    Takes whole used value rest := by
  intro front begins
  rw [same _ ((List.prefix_append_right_inj used).mpr begins)]
  exact takes front begins

end Takes

namespace Local

variable {read : Text → Option (α × Text)}

theorem pure (value : α) : Local fun text => some (value, text) := by
  intro text found rest done
  cases done
  exact ⟨[], rfl, fun front _ => rfl⟩

theorem map (isLocal : Local read) (transform : α → β) :
    Local fun text => (read text).map fun found => (transform found.1, found.2) := by
  intro text value rest done
  rcases Option.map_eq_some_iff.mp done with ⟨⟨first, left⟩, found, same⟩
  cases same
  rcases isLocal found with ⟨used, whole, takes⟩
  exact ⟨used, whole, takes.map transform⟩

theorem bind (isLocal : Local read) {next : α → Text → Option (β × Text)}
    (others : ∀ value, Local (next value)) :
    Local fun text => (read text).bind fun found => next found.1 found.2 := by
  intro text value rest done
  rcases Option.bind_eq_some_iff.mp done with ⟨⟨first, left⟩, found, continued⟩
  rcases isLocal found with ⟨used, rfl, takes⟩
  rcases others first continued with ⟨usedNext, rfl, takesNext⟩
  exact ⟨used ++ usedNext, (List.append_assoc ..).symm, takes.bind next takesNext⟩

variable {whole : Text → Option (α × Text)} {text rest : Text} {value : α}

theorem append (isLocal : Local read) (first : Text)
    (goesOn : ∀ text, whole (first ++ text) = read text)
    (done : whole (first ++ text) = some (value, rest)) :
    ∃ used, first ++ text = used ++ rest ∧ Takes whole used value rest := by
  rw [goesOn] at done
  rcases isLocal done with ⟨used, rfl, takes⟩
  exact ⟨first ++ used, (List.append_assoc ..).symm, takes.append goesOn⟩

theorem congr (isLocal : Local read) (same : ∀ front, front <+: text → whole front = read front)
    (done : whole text = some (value, rest)) :
    ∃ used, text = used ++ rest ∧ Takes whole used value rest := by
  rw [same text (List.prefix_refl text)] at done
  rcases isLocal done with ⟨used, rfl, takes⟩
  exact ⟨used, rfl, takes.congr same⟩

end Local

theorem head?_of_begins {front text : Text} (begins : front <+: text) {c : Char}
    (first : front.head? = some c) : text.head? = some c := by
  rcases List.head?_eq_some_iff.mp first with ⟨others, rfl⟩
  rcases begins with ⟨back, rfl⟩
  rfl

/-! ## Numbers -/

theorem readDigits_eq_some_iff {text digits rest : Text} :
    readDigits text = some (digits, rest) ↔ digits ≠ [] ∧
      text.takeWhile Char.isDigit = digits ∧ text.dropWhile Char.isDigit = rest := by
  rw [readDigits, spanDigits, List.span_eq_takeWhile_dropWhile]
  cases text.takeWhile Char.isDigit with
  | nil =>
      constructor
      · intro found
        cases found
      · rintro ⟨full, same, -⟩
        exact absurd same.symm full
  | cons c taken =>
      constructor
      · intro found
        cases found
        exact ⟨List.cons_ne_nil c taken, rfl, rfl⟩
      · rintro ⟨-, rfl, rfl⟩
        rfl

theorem local_readDigits : Local readDigits := by
  intro text digits rest done
  rcases readDigits_eq_some_iff.mp done with ⟨full, rfl, rfl⟩
  refine ⟨_, List.takeWhile_append_dropWhile.symm, fun front begins => ?_⟩
  have all : ∀ c ∈ text.takeWhile Char.isDigit, c.isDigit = true :=
    fun c => List.mem_takeWhile_imp
  have stops : front.takeWhile Char.isDigit = [] ∧ front.dropWhile Char.isDigit = front := by
    cases front with
    | nil => exact ⟨rfl, rfl⟩
    | cons c front =>
        rcases begins with ⟨back, whole⟩
        have stop := List.head?_dropWhile_not Char.isDigit text
        rw [← whole] at stop
        have noDigit : c.isDigit = false := stop
        simp [noDigit]
  rw [readDigits_eq_some_iff, List.takeWhile_append_of_pos all, List.dropWhile_append_of_pos all,
    stops.1, stops.2]
  exact ⟨full, List.append_nil _, rfl⟩

theorem local_readWhole : Local readWhole := by
  intro text digits rest done
  rw [readWhole] at done
  rcases found : readDigits text with _ | ⟨taken, left⟩
  · rw [found] at done
    cases done
  · rw [found] at done
    dsimp only at done
    split at done
    · cases done
    · next plain =>
        cases done
        rcases local_readDigits found with ⟨used, whole, takes⟩
        refine ⟨used, whole, fun front begins => ?_⟩
        rw [readWhole, takes front begins]
        exact if_neg plain

theorem readFraction_of_ne {text : Text} (noPoint : text.head? ≠ some '.') :
    readFraction text = some (none, text) := by
  unfold readFraction
  split
  · exact absurd rfl noPoint
  · rfl

theorem local_readFraction : Local readFraction := by
  intro text fraction rest done
  by_cases point : text.head? = some '.'
  · rcases List.head?_eq_some_iff.mp point with ⟨digits, rfl⟩
    exact (local_readDigits.map some).append ['.'] (fun _ => rfl) done
  · exact (Local.pure none).congr
      (fun front begins => readFraction_of_ne (mt (head?_of_begins begins) point)) done

theorem readPower_of_ne {text : Text} (noPlus : text.head? ≠ some '+')
    (noMinus : text.head? ≠ some '-') :
    readPower text = (readDigits text).map fun read => (some (false, read.1), read.2) := by
  unfold readPower
  split
  · exact absurd rfl noPlus
  · exact absurd rfl noMinus
  · rfl

theorem local_readPower : Local readPower := by
  intro text power rest done
  have positive := local_readDigits.map fun digits => some (false, digits)
  by_cases plus : text.head? = some '+'
  · rcases List.head?_eq_some_iff.mp plus with ⟨digits, rfl⟩
    exact positive.append ['+'] (fun _ => rfl) done
  · by_cases minus : text.head? = some '-'
    · rcases List.head?_eq_some_iff.mp minus with ⟨digits, rfl⟩
      exact (local_readDigits.map fun digits => some (true, digits)).append ['-']
        (fun _ => rfl) done
    · exact positive.congr (fun front begins => readPower_of_ne
        (mt (head?_of_begins begins) plus) (mt (head?_of_begins begins) minus)) done

theorem readExponent_of_ne {text : Text} (noSmall : text.head? ≠ some 'e')
    (noLarge : text.head? ≠ some 'E') : readExponent text = some (none, text) := by
  unfold readExponent
  split
  · exact absurd rfl noSmall
  · exact absurd rfl noLarge
  · rfl

theorem local_readExponent : Local readExponent := by
  intro text exponent rest done
  by_cases small : text.head? = some 'e'
  · rcases List.head?_eq_some_iff.mp small with ⟨power, rfl⟩
    exact local_readPower.append ['e'] (fun _ => rfl) done
  · by_cases large : text.head? = some 'E'
    · rcases List.head?_eq_some_iff.mp large with ⟨power, rfl⟩
      exact local_readPower.append ['E'] (fun _ => rfl) done
    · exact (Local.pure none).congr (fun front begins => readExponent_of_ne
        (mt (head?_of_begins begins) small) (mt (head?_of_begins begins) large)) done

theorem local_readUnsigned (negative : Bool) : Local (readUnsigned negative) := by
  change Local fun text => (readWhole text).bind fun whole =>
    (readFraction whole.2).bind fun fraction =>
      (readExponent fraction.2).bind fun exponent =>
        some ((⟨negative, whole.1, fraction.1, exponent.1⟩ : Number), exponent.2)
  exact local_readWhole.bind fun whole => local_readFraction.bind fun fraction =>
    local_readExponent.bind fun exponent => .pure (Number.mk negative whole fraction exponent)

/-! ## Strings -/

theorem Local.readParts_append {first text : Text} {part : StringPart}
    (goesOn : ∀ text, readParts (first ++ text) =
      (readParts text).map fun read => (part :: read.1, read.2))
    (others : ∀ ⦃parts rest⦄, readParts text = some (parts, rest) →
      ∃ used, text = used ++ rest ∧ Takes readParts used parts rest)
    {parts : List StringPart} {rest : Text}
    (done : readParts (first ++ text) = some (parts, rest)) :
    ∃ used, first ++ text = used ++ rest ∧ Takes readParts used parts rest := by
  rw [goesOn] at done
  rcases Option.map_eq_some_iff.mp done with ⟨⟨inner, left⟩, found, same⟩
  cases same
  rcases others found with ⟨used, rfl, takes⟩
  exact ⟨first ++ used, (List.append_assoc ..).symm, (takes.map (part :: ·)).append goesOn⟩

theorem readParts_code {a b c d : Char} {first second third fourth : Nat}
    (hexA : hexDigit? a = some first) (hexB : hexDigit? b = some second)
    (hexC : hexDigit? c = some third) (hexD : hexDigit? d = some fourth) (text : Text) :
    readParts (['\\', 'u', a, b, c, d] ++ text) = (readParts text).map fun read =>
      (.code (((first * 16 + second) * 16 + third) * 16 + fourth) :: read.1, read.2) := by
  change readParts ('\\' :: 'u' :: a :: b :: c :: d :: text) = _
  rw [readParts, hexA, hexB, hexC, hexD]
  rcases readParts text with _ | ⟨parts, rest⟩
  · rfl
  · rfl

theorem readParts_escape {letter c : Char} (known : escaped? letter = some c) (text : Text) :
    readParts (['\\', letter] ++ text) =
      (readParts text).map fun read => (.char c :: read.1, read.2) := by
  change readParts ('\\' :: letter :: text) = _
  have noCode : letter ≠ 'u' := by
    rintro rfl
    cases known
  rw [readParts, known]
  · rcases readParts text with _ | ⟨parts, rest⟩
    · rfl
    · rfl
  · intro _ _ _ _ _ isCode
    exact absurd isCode noCode

theorem readParts_char {c : Char} (noQuote : c ≠ '"') (noEscape : c ≠ '\\')
    (printed : ¬ c.toNat < 0x20) (text : Text) :
    readParts ([c] ++ text) = (readParts text).map fun read => (.char c :: read.1, read.2) := by
  change readParts (c :: text) = _
  rw [readParts, if_neg printed]
  · rcases readParts text with _ | ⟨parts, rest⟩
    · rfl
    · rfl
  · exact noQuote
  · intro _ _ _ _ _ isEscape
    exact absurd isEscape noEscape
  · intro _ _ isEscape
    exact absurd isEscape noEscape

theorem local_readParts : Local readParts := by
  intro text
  fun_induction readParts text with
  | case1 =>
      intro parts rest done
      cases done
  | case2 text =>
      intro parts rest done
      cases done
      exact ⟨['"'], rfl, fun front _ => rfl⟩
  | case3 a b c d text induction =>
      intro parts rest done
      rcases Option.bind_eq_some_iff.mp done with ⟨first, hexA, done⟩
      rcases Option.bind_eq_some_iff.mp done with ⟨second, hexB, done⟩
      rcases Option.bind_eq_some_iff.mp done with ⟨third, hexC, done⟩
      rcases Option.bind_eq_some_iff.mp done with ⟨fourth, hexD, done⟩
      rcases Option.bind_eq_some_iff.mp done with ⟨⟨inner, left⟩, found, same⟩
      have goesOn := readParts_code hexA hexB hexC hexD
      refine Local.readParts_append goesOn induction ?_
      rw [goesOn, found]
      exact same
  | case4 letter text noCode induction =>
      intro parts rest done
      rcases Option.bind_eq_some_iff.mp done with ⟨c, known, done⟩
      rcases Option.bind_eq_some_iff.mp done with ⟨⟨inner, left⟩, found, same⟩
      have goesOn := readParts_escape known
      refine Local.readParts_append goesOn induction ?_
      rw [goesOn, found]
      exact same
  | case5 =>
      intro parts rest done
      cases done
  | case6 c text noQuote noCode noEscape printed induction =>
      intro parts rest done
      rcases Option.bind_eq_some_iff.mp done with ⟨⟨inner, left⟩, found, same⟩
      have plain : c ≠ '\\' := by
        rintro rfl
        cases text with
        | nil => cases found
        | cons letter text => exact noEscape letter text rfl rfl
      have goesOn := readParts_char noQuote plain printed
      refine Local.readParts_append goesOn induction ?_
      rw [goesOn, found]
      exact same

theorem local_readString : Local readString :=
  local_readParts.map content?

/-! ## Words and blanks -/

theorem local_readWord (word : Text) (value : α) :
    Local fun text => (readWord word text).map fun rest => (value, rest) := by
  intro text found rest done
  rcases Option.map_eq_some_iff.mp done with ⟨left, begins, same⟩
  cases same
  refine ⟨word, (List.append_eq_of_isPrefixOf?_eq_some begins).symm, fun front _ => ?_⟩
  have whole : readWord word (word ++ front) = some front :=
    List.isPrefixOf?_eq_some_iff_append_eq.mpr rfl
  simp only [whole, Option.map_some]

theorem skipSpaces_append {spaces : Text} (blank : ∀ c ∈ spaces, isSpace c = true)
    (text : Text) : skipSpaces (spaces ++ text) = skipSpaces text :=
  List.dropWhile_append_of_pos blank

theorem skipSpaces_cons {c : Char} (mark : isSpace c = false) (text : Text) :
    skipSpaces (c :: text) = c :: text :=
  List.dropWhile_cons_of_neg (by simp [mark])

theorem exists_spaces (text : Text) : ∃ spaces core : Text,
    (∀ c ∈ spaces, isSpace c = true) ∧ skipSpaces core = core ∧ text = spaces ++ core :=
  ⟨text.takeWhile isSpace, skipSpaces text, fun _ => List.mem_takeWhile_imp,
    List.dropWhile_idempotent .., List.takeWhile_append_dropWhile.symm⟩

theorem isSpace_eq_false {c : Char} {text : Text} (start : skipSpaces (c :: text) = c :: text) :
    isSpace c = false := by
  have stop := List.head?_dropWhile_not isSpace (c :: text)
  rw [show (c :: text).dropWhile isSpace = c :: text from start] at stop
  exact stop

theorem skipSpaces_of_begins {front text : Text} (start : skipSpaces text = text)
    (begins : front <+: text) : skipSpaces front = front := by
  cases front with
  | nil => rfl
  | cons c front =>
      rcases begins with ⟨back, rfl⟩
      exact skipSpaces_cons (isSpace_eq_false start) front

/-! ## Marks -/

theorem afterMark_append {mark : Char} {spaces : Text} (blank : ∀ c ∈ spaces, isSpace c = true)
    (noBlank : isSpace mark = false) (read : Text → Option (α × Text)) (text : Text) :
    afterMark mark read ((spaces ++ [mark]) ++ text) = read text := by
  rw [List.append_assoc, afterMark, skipSpaces_append blank, List.singleton_append,
    skipSpaces_cons noBlank]
  exact if_pos rfl

theorem closedBy_append {spaces : Text} (blank : ∀ c ∈ spaces, isSpace c = true) (mark : Char)
    (empty : α) (read : Text → Option (α × Text)) (text : Text) :
    closedBy mark empty read (spaces ++ text) = closedBy mark empty read text := by
  rw [closedBy, skipSpaces_append blank, closedBy]

theorem afterPart_append {spaces : Text} {c : Char} (blank : ∀ c ∈ spaces, isSpace c = true)
    (noBlank : isSpace c = false) (mark : Char) (last : α) (more : Text → Option (α × Text))
    (text : Text) : afterPart mark last more ((spaces ++ [c]) ++ text) =
      if c = ',' then more text else if c = mark then some (last, text) else none := by
  rw [List.append_assoc, afterPart, skipSpaces_append blank, List.singleton_append,
    skipSpaces_cons noBlank]

theorem exists_mark {mark : Char} {read : Text → Option (α × Text)} {text rest : Text} {value : α}
    (done : afterMark mark read text = some (value, rest)) :
    ∃ spaces inner : Text, (∀ c ∈ spaces, isSpace c = true) ∧ isSpace mark = false ∧
      text = (spaces ++ [mark]) ++ inner ∧ read inner = some (value, rest) := by
  rcases exists_spaces text with ⟨spaces, core, blank, start, rfl⟩
  rw [afterMark, skipSpaces_append blank, start] at done
  split at done
  · next c inner =>
      split at done
      · next same =>
          subst same
          exact ⟨spaces, inner, blank, isSpace_eq_false start, by simp, done⟩
      · cases done
  · cases done

theorem exists_part {mark : Char} {last : α} {more : Text → Option (α × Text)}
    {text rest : Text} {value : α} (done : afterPart mark last more text = some (value, rest)) :
    ∃ (spaces : Text) (c : Char) (inner : Text), (∀ c ∈ spaces, isSpace c = true) ∧
      isSpace c = false ∧ text = (spaces ++ [c]) ++ inner ∧
      (c = ',' ∧ more inner = some (value, rest) ∨
        c ≠ ',' ∧ c = mark ∧ last = value ∧ inner = rest) := by
  rcases exists_spaces text with ⟨spaces, core, blank, start, rfl⟩
  rw [afterPart, skipSpaces_append blank, start] at done
  split at done
  · next c inner =>
      refine ⟨spaces, c, inner, blank, isSpace_eq_false start, by simp, ?_⟩
      split at done
      · next comma => exact .inl ⟨comma, done⟩
      · next noComma =>
          split at done
          · next same =>
              cases done
              exact .inr ⟨noComma, same, rfl, rfl⟩
          · cases done
  · cases done

/-! ## Bounded readers -/

def TakesWithin (read : Nat → Text → Option (α × Text)) (used : Text) (value : α)
    (rest : Text) : Prop :=
  ∀ bound, used.length < bound → Takes (read bound) used value rest

/-- A bounded reader is local with this bound, and any bound above the length of what it takes
is enough. -/
def LocalAt (read : Nat → Text → Option (α × Text)) (bound : Nat) : Prop :=
  ∀ ⦃text value rest⦄, read bound text = some (value, rest) →
    ∃ used, text = used ++ rest ∧ TakesWithin read used value rest

theorem Local.localAt {read : Text → Option (α × Text)} (isLocal : Local read) (bound : Nat) :
    LocalAt (fun _ => read) bound := by
  intro text value rest done
  rcases isLocal done with ⟨used, whole, takes⟩
  exact ⟨used, whole, fun _ _ => takes⟩

section Bounded

variable {read whole : Nat → Text → Option (α × Text)} {text rest : Text} {value : α}

theorem TakesWithin.skip {first : Text}
    (skips : ∀ bound text, whole bound (first ++ text) = whole bound text)
    (taken : ∃ used, text = used ++ rest ∧ TakesWithin whole used value rest) :
    ∃ used, first ++ text = used ++ rest ∧ TakesWithin whole used value rest := by
  rcases taken with ⟨used, rfl, takes⟩
  refine ⟨first ++ used, (List.append_assoc ..).symm, fun bound within => ?_⟩
  have shorter : used.length < bound := by
    rw [List.length_append] at within
    omega
  exact (takes bound shorter).append (skips bound)

theorem TakesWithin.cons {c : Char}
    (goesOn : ∀ bound text, whole (bound + 1) (c :: text) = read bound text)
    (taken : ∃ used, text = used ++ rest ∧ TakesWithin read used value rest) :
    ∃ used, c :: text = used ++ rest ∧ TakesWithin whole used value rest := by
  rcases taken with ⟨used, rfl, takes⟩
  refine ⟨c :: used, rfl, fun bound within => ?_⟩
  rw [List.length_cons] at within
  cases bound with
  | zero => omega
  | succ bound =>
      have behind (text : Text) : whole (bound + 1) ([c] ++ text) = read bound text :=
        goesOn bound text
      exact (takes bound (by omega)).append behind

end Bounded

namespace LocalAt

variable {read : Nat → Text → Option (α × Text)} {bound : Nat} {mark : Char}
variable {text rest : Text} {value : α}

theorem map (isLocal : LocalAt read bound) (transform : α → β) :
    LocalAt (fun bound text => (read bound text).map fun found => (transform found.1, found.2))
      bound := by
  intro text value rest done
  rcases Option.map_eq_some_iff.mp done with ⟨⟨first, left⟩, found, same⟩
  cases same
  rcases isLocal found with ⟨used, whole, takes⟩
  exact ⟨used, whole, fun bound within => (takes bound within).map transform⟩

theorem takes_closedBy (isLocal : LocalAt read bound) {empty : α}
    (done : closedBy mark empty (read bound) text = some (value, rest)) :
    ∃ used, text = used ++ rest ∧
      TakesWithin (fun bound => closedBy mark empty (read bound)) used value rest := by
  rcases exists_spaces text with ⟨spaces, core, blank, start, rfl⟩
  rw [closedBy_append blank] at done
  refine TakesWithin.skip (fun bound => closedBy_append blank mark empty (read bound)) ?_
  by_cases closes : core.head? = some mark
  · rcases List.head?_eq_some_iff.mp closes with ⟨inner, rfl⟩
    have goesOn (bound : Nat) (text : Text) :
        closedBy mark empty (read bound) (mark :: text) = some (empty, text) := by
      rw [closedBy, skipSpaces_cons (isSpace_eq_false start)]
      exact if_pos rfl
    rw [goesOn] at done
    exact TakesWithin.cons (fun bound => goesOn (bound + 1)) ((Local.pure empty).localAt 0 done)
  · have goesOn (bound : Nat) (front : Text) (begins : front <+: core) :
        closedBy mark empty (read bound) front = read bound front := by
      rw [closedBy, skipSpaces_of_begins start begins]
      split
      · next c inner =>
          refine if_neg fun same => closes ?_
          exact head?_of_begins begins (congrArg some same)
      · rfl
    rw [goesOn bound core (List.prefix_refl core)] at done
    rcases isLocal done with ⟨used, rfl, takes⟩
    exact ⟨used, rfl, fun bound within => (takes bound within).congr (goesOn bound)⟩

theorem takes_afterPart (isLocal : LocalAt read bound) {last : α}
    (done : afterPart mark last (read bound) text = some (value, rest)) :
    ∃ used, text = used ++ rest ∧ used ≠ [] ∧ ∀ bound, used.length ≤ bound →
      Takes (afterPart mark last (read bound)) used value rest := by
  rcases exists_part done with
    ⟨spaces, c, inner, blank, noBlank, rfl, ⟨comma, found⟩ | ⟨noComma, same, rfl, rfl⟩⟩
  · rcases isLocal found with ⟨used, rfl, takes⟩
    refine ⟨(spaces ++ [c]) ++ used, by simp, by simp, fun bound within => ?_⟩
    have shorter : used.length < bound := by
      simp only [List.length_append, List.length_singleton] at within
      omega
    refine (takes bound shorter).append fun front => ?_
    rw [afterPart_append blank noBlank, if_pos comma]
  · refine ⟨spaces ++ [c], rfl, by simp, fun bound _ front _ => ?_⟩
    rw [afterPart_append blank noBlank, if_neg noComma, if_pos same]

end LocalAt

/-! ## Documents -/

theorem readValue_append {spaces : Text} (blank : ∀ c ∈ spaces, isSpace c = true) (bound : Nat)
    (text : Text) : readValue bound (spaces ++ text) = readValue bound text := by
  cases bound with
  | zero => rfl
  | succ bound => rw [readValue, skipSpaces_append blank, readValue]

theorem isDigit_of_readUnsigned {negative : Bool} {text rest : Text} {number : Number}
    (done : readUnsigned negative text = some (number, rest)) {c : Char}
    (first : text.head? = some c) : c.isDigit = true := by
  rcases Option.bind_eq_some_iff.mp done with ⟨⟨whole, left⟩, found, -⟩
  rw [readWhole] at found
  split at found
  · next read =>
      rcases readDigits_eq_some_iff.mp read with ⟨full, digits, -⟩
      rcases List.head?_eq_some_iff.mp first with ⟨others, rfl⟩
      by_contra noDigit
      rw [List.takeWhile_cons_of_neg noDigit] at digits
      exact full digits.symm
  · cases found

theorem readValue_of_isDigit {text : Text}
    (digit : ∀ c, text.head? = some c → c.isDigit = true) (bound : Nat) :
    readValue (bound + 1) text =
      (readUnsigned false text).map fun read => (.number read.1, read.2) := by
  rcases text with _ | ⟨c, text⟩
  · rfl
  have other : ∀ d : Char, d.isDigit = false → c ≠ d := by
    rintro d noDigit rfl
    rw [digit c rfl] at noDigit
    cases noDigit
  have noBlank : isSpace c = false := by
    simp [isSpace, other]
  rw [readValue, skipSpaces_cons noBlank]
  split
  case h_8 => rfl
  all_goals next same => exact absurd (List.cons.inj same).1 (other _ rfl)

theorem localAt_readValue {bound : Nat} (items : LocalAt readItems bound)
    (fields : LocalAt readFields bound) : LocalAt readValue (bound + 1) := by
  intro text value rest done
  rcases exists_spaces text with ⟨spaces, core, blank, start, rfl⟩
  rw [readValue_append blank] at done
  refine TakesWithin.skip (readValue_append blank) ?_
  have found := done
  rw [readValue, start] at done
  split at done
  · exact TakesWithin.cons (fun _ _ => rfl)
      ((local_readWord "ull".toList Json.null).localAt 0 done)
  · exact TakesWithin.cons (fun _ _ => rfl)
      ((local_readWord "rue".toList (Json.bool true)).localAt 0 done)
  · exact TakesWithin.cons (fun _ _ => rfl)
      ((local_readWord "alse".toList (Json.bool false)).localAt 0 done)
  · exact TakesWithin.cons (fun _ _ => rfl) ((local_readString.map Json.string).localAt 0 done)
  · exact TakesWithin.cons (fun _ _ => rfl) ((items.map Json.array).takes_closedBy done)
  · exact TakesWithin.cons (fun _ _ => rfl) ((fields.map Json.object).takes_closedBy done)
  · exact TakesWithin.cons (fun _ _ => rfl)
      (((local_readUnsigned true).map Json.number).localAt 0 done)
  · have digit (c : Char) (first : core.head? = some c) : c.isDigit = true := by
      rcases Option.map_eq_some_iff.mp done with ⟨⟨number, left⟩, read, -⟩
      exact isDigit_of_readUnsigned read first
    rcases ((local_readUnsigned false).map Json.number) done with ⟨used, rfl, takes⟩
    refine ⟨used, rfl, fun bound within => ?_⟩
    cases bound with
    | zero => cases within
    | succ bound =>
        exact takes.congr fun front begins =>
          readValue_of_isDigit (fun c first => digit c (head?_of_begins begins first)) bound

theorem localAt_readItems {bound : Nat} (values : LocalAt readValue bound)
    (items : LocalAt readItems bound) : LocalAt readItems (bound + 1) := by
  intro text parts rest done
  rcases Option.bind_eq_some_iff.mp done with ⟨⟨item, left⟩, found, continued⟩
  rcases values found with ⟨used, rfl, takes⟩
  rcases (items.map (item :: ·)).takes_afterPart continued with ⟨usedNext, rfl, full, takesNext⟩
  refine ⟨used ++ usedNext, (List.append_assoc ..).symm, fun bound within => ?_⟩
  -- The mark behind the item is what makes the bound enough for the item, too.
  have positive : 0 < usedNext.length := List.length_pos_iff.mpr full
  rw [List.length_append] at within
  cases bound with
  | zero => omega
  | succ bound =>
      exact (takes bound (by omega)).bind
        (fun item => afterPart ']' [item] fun text =>
          (readItems bound text).map fun read => (item :: read.1, read.2))
        (takesNext bound (by omega))

theorem localAt_readFields {bound : Nat} (values : LocalAt readValue bound)
    (fields : LocalAt readFields bound) : LocalAt readFields (bound + 1) := by
  intro text parts rest done
  rw [readFields] at done
  rcases exists_mark done with ⟨spaces, inner, blank, noBlank, rfl, inside⟩
  rcases Option.bind_eq_some_iff.mp inside with ⟨⟨name, left⟩, foundName, behindName⟩
  rcases local_readString foundName with ⟨usedName, rfl, takesName⟩
  rcases exists_mark behindName with ⟨between, inner, blankBetween, noBlankBetween, rfl, inside⟩
  rcases Option.bind_eq_some_iff.mp inside with ⟨⟨value, left⟩, found, continued⟩
  rcases values found with ⟨used, rfl, takes⟩
  rcases (fields.map ((name, value) :: ·)).takes_afterPart continued with
    ⟨usedNext, rfl, full, takesNext⟩
  refine ⟨(spaces ++ ['"']) ++ (usedName ++ ((between ++ [':']) ++ (used ++ usedNext))),
    by simp only [List.append_assoc], fun bound within => ?_⟩
  have positive : 0 < usedNext.length := List.length_pos_iff.mpr full
  simp only [List.length_append] at within
  cases bound with
  | zero => omega
  | succ bound =>
      have takesValue := (takes bound (by omega)).bind
        (fun value => afterPart '\x7d' [(name, value)] fun text =>
          (readFields bound text).map fun read => ((name, value) :: read.1, read.2))
        (takesNext bound (by omega))
      have afterColon := takesValue.append (afterMark_append blankBetween noBlankBetween _)
      rw [← List.append_assoc used, ← List.append_assoc (between ++ _)] at takesName
      have takesField := takesName.bind
        (fun name => afterMark ':' fun text => (readValue bound text).bind fun value =>
          afterPart '\x7d' [(name, value.1)]
            (fun text => (readFields bound text).map fun read =>
              ((name, value.1) :: read.1, read.2)) value.2)
        afterColon
      exact takesField.append (afterMark_append blank noBlank _)

theorem localAt (bound : Nat) :
    LocalAt readValue bound ∧ LocalAt readItems bound ∧ LocalAt readFields bound := by
  induction bound with
  | zero =>
      refine ⟨?_, ?_, ?_⟩
      all_goals
        intro text value rest done
        cases done
  | succ bound induction =>
      rcases induction with ⟨values, items, fields⟩
      exact ⟨localAt_readValue items fields, localAt_readItems values items,
        localAt_readFields values fields⟩

theorem bracket_of_readItems {bound : Nat} {text rest : Text} {items : List Json}
    (done : readItems bound text = some (items, rest)) : ∃ used, text = used ++ ']' :: rest := by
  induction bound generalizing text items with
  | zero => cases done
  | succ bound induction =>
      rcases Option.bind_eq_some_iff.mp done with ⟨⟨item, left⟩, found, continued⟩
      rcases (localAt bound).1 found with ⟨usedItem, rfl, -⟩
      rcases exists_part continued with
        ⟨spaces, c, inner, -, -, rfl, ⟨-, more⟩ | ⟨-, rfl, -, rfl⟩⟩
      · rcases Option.map_eq_some_iff.mp more with ⟨⟨others, left⟩, found, same⟩
        cases same
        rcases induction found with ⟨used, rfl⟩
        exact ⟨usedItem ++ ((spaces ++ [c]) ++ used), by simp⟩
      · exact ⟨usedItem ++ spaces, by simp⟩

theorem readValue_bracket (bound : Nat) (text : Text) : readValue (bound + 1) ('[' :: text) =
    closedBy ']' (.array []) (fun rest => (readItems bound rest).map fun read =>
      (.array read.1, read.2)) text :=
  rfl

theorem bracket_of_readValue {bound : Nat} {text rest : Text} {document : Json}
    (done : readValue (bound + 1) ('[' :: text) = some (document, rest)) :
    ∃ used, '[' :: text = used ++ ']' :: rest := by
  rw [readValue_bracket] at done
  rcases exists_spaces text with ⟨spaces, core, blank, start, rfl⟩
  rw [closedBy_append blank, closedBy, start] at done
  have ofItems (text : Text) (found : ((readItems bound text).map fun read =>
      (Json.array read.1, read.2)) = some (document, rest)) :
      ∃ used, text = used ++ ']' :: rest := by
    rcases Option.map_eq_some_iff.mp found with ⟨⟨items, left⟩, inside, same⟩
    cases same
    exact bracket_of_readItems inside
  split at done
  · next c inner =>
      split at done
      · next same =>
          subst same
          cases done
          exact ⟨'[' :: spaces, rfl⟩
      · rcases ofItems _ done with ⟨used, whole⟩
        exact ⟨'[' :: (spaces ++ used), by simp [whole]⟩
  · rcases ofItems _ done with ⟨used, whole⟩
    exact absurd whole.symm (List.append_ne_nil_of_right_ne_nil used (List.cons_ne_nil _ _))

theorem isBlank_of_isSpace {c : Char} (space : isSpace c = true) : Text.isBlank c = true := by
  simp only [isSpace, Bool.or_eq_true, decide_eq_true_eq] at space
  rcases space with ((rfl | rfl) | rfl) | rfl
  all_goals decide

theorem trimEnd_of_skipSpaces {text : Text} (spaces : skipSpaces text = []) :
    Text.trimEnd text = [] := by
  have blank : text.reverse.dropWhile Text.isBlank = [] := by
    refine List.dropWhile_eq_nil_iff.mpr fun c member => ?_
    exact isBlank_of_isSpace (List.dropWhile_eq_nil_iff.mp spaces c (List.mem_reverse.mp member))
  rw [Text.trimEnd, blank]
  rfl

theorem read?_trimEnd {text : Text} {document : Json} (done : read? ('[' :: text) = some document) :
    read? ('[' :: Text.trimEnd text) = some document := by
  rw [read?] at done
  split at done
  · next found rest taken =>
      split at done
      · next spaces =>
          cases done
          rcases bracket_of_readValue taken with ⟨inside, closed⟩
          rcases (localAt _).1 taken with ⟨used, whole, takes⟩
          have same : used = inside ++ [']'] := by
            rw [closed, ← List.singleton_append, ← List.append_assoc] at whole
            exact (List.append_cancel_right whole).symm
          have trimmed : '[' :: Text.trimEnd text = used := by
            have opening := Text.trimEnd_append_cons (c := '[') (by decide) [] text
            have closing := Text.trimEnd_append_cons (c := ']') (by decide) inside rest
            rw [← closed, trimEnd_of_skipSpaces (List.isEmpty_iff.mp spaces)] at closing
            rw [same, ← closing]
            exact opening.symm
          have again := takes (2 * used.length + 1) (by omega) [] List.nil_prefix
          rw [List.append_nil] at again
          rw [trimmed, read?, again]
          rfl
      · cases done
  · cases done

end Json
end NetAdmin
