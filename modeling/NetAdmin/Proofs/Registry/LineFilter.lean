import NetAdmin.Proofs.Registry.Lines
import NetAdmin.Proofs.Registry.Run
/-!
Deleting as a filter of lines. A registry file holds lines with newlines between them, and
deleting a name leaves those that do not match it, as they were (`answer_delete`). So a run
of deletions leaves the lines that match none of the names (`lines_of_deletes`), whatever
their order, and a name that is deleted again finds nothing more (`deletions_filter`).
-/

namespace NetAdmin
namespace Registry

/-! ## Lines that match a name -/

/-- The first character of the line that is not blank is no hash, and the second word is
the name. -/
structure Matches (name line : Text) : Prop where
  noComment : line.find? (fun c => !Text.isBlank c) ≠ some '#'
  second : (Text.words line)[1]? = some name

instance (name line : Text) : Decidable (Matches name line) :=
  decidable_of_iff (line.find? (fun c => !Text.isBlank c) ≠ some '#' ∧
      (Text.words line)[1]? = some name)
    ⟨fun ⟨noComment, second⟩ => ⟨noComment, second⟩,
      fun found => ⟨found.noComment, found.second⟩⟩

example : Matches "main".toList "\t254 main # default\r".toList := by decide

theorem matches_iff {name line : Text} : Matches name line ↔ registers name line = true := by
  have first : (Text.trimStart line).head? = line.find? fun c => !Text.isBlank c := by
    simp [Text.trimStart, List.find?_eq_head?_dropWhile_not]
  have second : (Text.words line).tail.head? = (Text.words line)[1]? := by
    rw [← List.drop_one, List.head?_drop]
  rw [registers, first, second]
  simp only [Bool.and_eq_true, bne_iff_ne, beq_iff_eq]
  exact ⟨fun found => ⟨found.noComment, found.second⟩,
    fun ⟨noComment, second⟩ => ⟨noComment, second⟩⟩

theorem Matches.unique {name other line : Text} (first : Matches name line)
    (second : Matches other line) : name = other :=
  Option.some.inj (first.second.symm.trans second.second)

def linesWithout (name : Text) (lines : List Text) : List Text :=
  lines.filter fun line => ¬ Matches name line

theorem filter_registers (name : Text) (lines : List Text) :
    (lines.filter fun line => !registers name line) = linesWithout name lines := by
  apply List.filter_congr
  intro line _
  rw [Bool.eq_iff_iff]
  simp [matches_iff]

theorem withoutName_glue {lines : List Text} (free : ∀ line ∈ lines, '\n' ∉ line) (name : Text) :
    withoutName (Text.glue '\n' lines) name = Text.glue '\n' (linesWithout name lines) := by
  rw [withoutName_eq, ← filter_registers]
  cases lines with
  | nil => rfl
  | cons line lines => rw [Text.pieces_glue free]

theorem countName_glue {lines : List Text} (free : ∀ line ∈ lines, '\n' ∉ line) (name : Text) :
    countName (Text.glue '\n' lines) name = lines.countP fun line => Matches name line := by
  have same : ∀ pieces : List Text,
      pieces.countP (registers name) = pieces.countP fun line => Matches name line := by
    intro pieces
    apply List.countP_congr
    intro line _
    simp [matches_iff]
  rw [countName_eq, ← same]
  cases lines with
  | nil => rfl
  | cons line lines => rw [Text.pieces_glue free]

/-! ## Deletions -/

variable {σ : Type} {files : FileStore σ} {registry : Registry}
variable {content : σ → Contents} {steady : σ → Prop}

/-- The file of a registry holds the given lines, with newlines between them. -/
structure HoldsLines (content : σ → Contents) (registry : Registry) (lines : List Text)
    (state : σ) : Prop where
  free : ∀ line ∈ lines, '\n' ∉ line
  stood : content state registry.path = some (Utf8.encode (Text.glue '\n' lines))

theorem HoldsLines.of_text {text : Text} {state : σ}
    (stood : content state registry.path = some (Utf8.encode text)) :
    HoldsLines content registry (Text.pieces '\n' text) state where
  free := fun _ member => Text.not_mem_of_mem_pieces member
  stood := by rw [Text.glue_pieces, stood]

theorem answer_delete (reliable : files.Reliable registry.paths content steady)
    (apart : registry.path ≠ registry.backup) (name : Text) {state : σ} {lines : List Text}
    (fits : steady state) (holds : HoldsLines content registry lines state) :
    ∃ after, registry.answer files (.delete name) state =
        (.ok (.deleted (lines.countP fun line => Matches name line)), after) ∧
      steady after ∧ HoldsLines content registry (linesWithout name lines) after := by
  rcases answer_planned reliable apart (.delete name) fits holds.stood with
    ⟨after, answered, fitsAfter, stoodAfter, -⟩
  refine ⟨after, ?_, fitsAfter, ?_, ?_⟩
  · rw [answered, ← countName_glue holds.free]
    rfl
  · intro line member
    exact holds.free line (List.mem_of_mem_filter member)
  · rw [stoodAfter, ← withoutName_glue holds.free]
    rfl

def deletedCounts (lines : List Text) : List Text → List Nat
  | [] => []
  | name :: names =>
      lines.countP (fun line => Matches name line) :: deletedCounts (linesWithout name lines) names

theorem lines_of_deletes (reliable : files.Reliable registry.paths content steady)
    (apart : registry.path ≠ registry.backup) (names : List Text) {state : σ} {lines : List Text}
    (fits : steady state) (holds : HoldsLines content registry lines state) :
    HoldsLines content registry (lines.filter fun line => ∀ name ∈ names, ¬ Matches name line)
        (registry.stateAfter files (names.map .delete) state) ∧
      (registry.run files (names.map .delete) state).map (·.result) =
        (deletedCounts lines names).map fun count => .ok (.deleted count) := by
  induction names generalizing state lines with
  | nil => simpa [stateAfter, run, deletedCounts] using holds
  | cons name names induction =>
      rcases answer_delete reliable apart name fits holds with
        ⟨after, answered, fitsAfter, holdsAfter⟩
      have rest := induction fitsAfter holdsAfter
      rw [List.map_cons, stateAfter, run, answered]
      constructor
      · -- A line stays if it matches neither the first name nor one of the others.
        simpa [linesWithout, List.filter_filter, Bool.and_comm] using rest.1
      · rw [List.map_cons, rest.2]
        rfl

theorem countP_linesWithout_self (name : Text) (lines : List Text) :
    (linesWithout name lines).countP (fun line => Matches name line) = 0 := by
  rw [List.countP_eq_zero]
  intro line member
  simpa using (List.mem_filter.mp member).2

theorem countP_linesWithout_of_ne {name other : Text} (different : name ≠ other)
    (lines : List Text) :
    (linesWithout name lines).countP (fun line => Matches other line) =
      lines.countP fun line => Matches other line := by
  rw [linesWithout, List.countP_filter]
  apply List.countP_congr
  intro line _
  simp only [Bool.and_eq_true, decide_eq_true_eq, and_iff_left_iff_imp]
  intro found matchesName
  exact different (matchesName.unique found)

/-- Deleting a name keeps the pieces of the text between newlines that do not match it and
answers how many do. Deleting it again changes nothing, and the order of two deletions shows
neither in the file nor in what they answer. -/
theorem deletions_filter (path : Path)
    (reliable : files.Reliable (ofPath path).paths content steady) {state : σ} {text : Text}
    (fits : steady state) (stood : content state path = some (Utf8.encode text)) :
    let lines := Text.pieces '\n' text
    let results := fun calls => ((ofPath path).run files calls state).map (·.result)
    let left := fun calls => content ((ofPath path).stateAfter files calls state) path
    (∀ name,
      results [.delete name] = [.ok (.deleted (lines.countP fun line => Matches name line))] ∧
      left [.delete name] = some (Utf8.encode
        (Text.glue '\n' (lines.filter fun line => ¬ Matches name line)))) ∧
    (∀ name,
      results [.delete name, .delete name] =
        [.ok (.deleted (lines.countP fun line => Matches name line)), .ok (.deleted 0)] ∧
      left [.delete name, .delete name] = left [.delete name]) ∧
    ∀ name other,
      left [.delete name, .delete other] = left [.delete other, .delete name] ∧
      (name ≠ other → ∃ count countOther,
        results [.delete name, .delete other] = [.ok (.deleted count), .ok (.deleted countOther)] ∧
        results [.delete other, .delete name] =
          [.ok (.deleted countOther), .ok (.deleted count)]) := by
  intro lines results left
  have holds : HoldsLines content (ofPath path) lines state := .of_text stood
  have deleted := fun names => lines_of_deletes reliable (ofPath_apart path) names fits holds
  refine ⟨?_, ?_, ?_⟩
  · intro name
    refine ⟨(deleted [name]).2, (deleted [name]).1.stood.trans ?_⟩
    simp
  · intro name
    constructor
    · refine (deleted [name, name]).2.trans ?_
      simp [deletedCounts, countP_linesWithout_self]
    · refine (deleted [name, name]).1.stood.trans (Eq.trans ?_ (deleted [name]).1.stood.symm)
      simp
  · intro name other
    constructor
    · refine (deleted [name, other]).1.stood.trans
        (Eq.trans ?_ (deleted [other, name]).1.stood.symm)
      simp [Bool.and_comm]
    · intro different
      refine ⟨_, _, (deleted [name, other]).2, ?_⟩
      refine (deleted [other, name]).2.trans ?_
      simp [deletedCounts, countP_linesWithout_of_ne different,
        countP_linesWithout_of_ne different.symm]

theorem deletions_filter_tail :
    let text := "# 1 b\r\n7 a\r\n\n 8 b x\n\n9 a".toList
    let store := MemoryStore.start [("t".toList, text)] []
    let results := fun calls =>
      ((ofPath "t".toList).run FileStore.memory calls store).map (·.result)
    let left := fun calls =>
      ((ofPath "t".toList).stateAfter FileStore.memory calls store).content "t".toList
    store.Faultless ∧ store.content "t".toList = some (Utf8.encode text) ∧
      results [.delete "a".toList] = [.ok (.deleted 2)] ∧
      left [.delete "a".toList] = some (Utf8.encode "# 1 b\r\n\n 8 b x\n".toList) ∧
      results [.delete "a".toList, .delete "a".toList] = [.ok (.deleted 2), .ok (.deleted 0)] ∧
      left [.delete "a".toList, .delete "b".toList] =
        left [.delete "b".toList, .delete "a".toList] := by
  intro text store results left
  have faultless : store.Faultless := rfl
  have stood : store.content "t".toList = some (Utf8.encode text) := by decide
  rcases deletions_filter "t".toList (MemoryStore.memory_reliable _) faultless stood with
    ⟨once, twice, orders⟩
  refine ⟨faultless, stood, (once "a".toList).1, (once "a".toList).2.trans ?_,
    (twice "a".toList).1, (orders "a".toList "b".toList).1⟩
  decide

end Registry
end NetAdmin
