import NetAdmin.Proofs.Registry.LineFilter
/-!
Which edits of a registry keep its final newline, or the lack of one. Adding an entry always
does (`withEntry_keepsFinalNewline`). Deleting does not if the last line goes and lays an empty
line bare: the text is glued from the lines that stay, and then it ends with the newline in
front of the empty one (`keepsFinalNewline_iff`).
-/

namespace NetAdmin
namespace Registry

/-- A text that does not end with a newline is replaced by one that does not either, and a text
that ends with a newline by one that does, or by nothing. -/
structure KeepsFinalNewline (old new : Text) : Prop where
  opened : old.getLast? ≠ some '\n' → new.getLast? ≠ some '\n'
  closed : old.getLast? = some '\n' → new.getLast? = some '\n' ∨ new = []

/-- The text does not end with a newline, and of the several lines that do not match the name
the last one is empty. -/
structure BaresEmptyLine (text name : Text) : Prop where
  opened : text.getLast? ≠ some '\n'
  empty : (linesWithout name (Text.pieces '\n' text)).getLast? = some []
  several : 1 < (linesWithout name (Text.pieces '\n' text)).length

instance (text name : Text) : Decidable (BaresEmptyLine text name) :=
  decidable_of_iff (text.getLast? ≠ some '\n' ∧
      (linesWithout name (Text.pieces '\n' text)).getLast? = some [] ∧
      1 < (linesWithout name (Text.pieces '\n' text)).length)
    ⟨fun ⟨opened, empty, several⟩ => ⟨opened, empty, several⟩,
      fun bares => ⟨bares.opened, bares.empty, bares.several⟩⟩

example : ¬ BaresEmptyLine "\n1 a".toList "a".toList := by decide

/-! ## Edits of the text -/

theorem withEntry_keepsFinalNewline {text : Text} (full : text ≠ []) {entry : TableEntry}
    (free : ∀ c ∈ entry.name, Text.isBlank c = false) :
    KeepsFinalNewline text (withEntry text entry) := by
  have notEmpty : text.isEmpty = false := List.isEmpty_eq_false_iff.mpr full
  constructor
  · intro opened ends
    rw [withEntry, notEmpty, decide_eq_false opened, Bool.or_self,
      if_neg Bool.false_ne_true] at ends
    have shown : entry.display ≠ [] := by simp [TableEntry.display]
    apply TableEntry.newline_not_mem_display free
    apply List.mem_of_getLast?
    rwa [List.getLast?_append_of_ne_nil _ (List.cons_ne_nil _ _),
      List.getLast?_cons_of_ne_nil shown] at ends
  · intro closed
    left
    simp [withEntry, closed]

theorem withoutName_eq_glue (text name : Text) :
    withoutName text name = Text.glue '\n' (linesWithout name (Text.pieces '\n' text)) := by
  rw [withoutName_eq, filter_registers]

theorem getLast?_linesWithout {text : Text} (closed : text.getLast? = some '\n') (name : Text) :
    (linesWithout name (Text.pieces '\n' text)).getLast? = some [] := by
  rcases Text.exists_pieces_concat '\n' text with ⟨init, last, cut⟩
  have empty : last = [] := by
    rw [← List.isEmpty_iff, ← Text.isEmpty_last_piece cut, closed]
    simp
  have stays : ¬ Matches name [] := fun found => nomatch found.second
  rw [cut, empty, linesWithout, List.filter_append, List.filter_singleton, decide_eq_true stays,
    cond_true, List.getLast?_concat]

theorem withoutName_keepsFinalNewline_iff (text name : Text) :
    KeepsFinalNewline text (withoutName text name) ↔ ¬ BaresEmptyLine text name := by
  have free : ∀ line ∈ linesWithout name (Text.pieces '\n' text), '\n' ∉ line :=
    fun line member => Text.not_mem_of_mem_pieces (List.mem_of_mem_filter member)
  rw [withoutName_eq_glue]
  constructor
  · intro keeps bares
    exact keeps.opened bares.opened ((Text.getLast?_glue free).mpr ⟨bares.empty, bares.several⟩)
  · intro noBare
    constructor
    · intro opened ends
      rcases (Text.getLast?_glue free).mp ends with ⟨empty, several⟩
      exact noBare ⟨opened, empty, several⟩
    · intro closed
      have empty := getLast?_linesWithout closed name
      by_cases several : 1 < (linesWithout name (Text.pieces '\n' text)).length
      · exact .inl ((Text.getLast?_glue free).mpr ⟨empty, several⟩)
      · -- Nothing stays but the piece behind the newline, so the text is empty.
        right
        rcases List.getLast?_eq_some_iff.mp empty with ⟨front, whole⟩
        rw [whole, List.length_append, List.length_singleton] at several
        have none : front = [] := List.length_eq_zero_iff.mp (by omega)
        rw [whole, none]
        rfl

/-! ## Edits of the file -/

variable {σ : Type} {files : FileStore σ} {content : σ → Contents} {steady : σ → Prop}

theorem textAfter_add (registry : Registry) {name text : Text} {answer : Answer}
    (added : (registry.plan (.add name) text).map Prod.fst = .ok answer) :
    ∃ number, registry.textAfter (.add name) text = withEntry text ⟨number, name⟩ := by
  rcases planned : registry.plan (.add name) text with error | ⟨told, _ | new⟩
  · rw [planned] at added
    cases added
  · cases plan_cases planned
  · rw [textAfter, planned]
    rcases plan_cases planned with ⟨-, edits⟩
    cases edits with
    | add registered free => exact ⟨_, rfl⟩

/-- In a registry that is not empty, a successful edit with a word as its name keeps the final
newline, or the lack of one, exactly if it is no deletion that lays an empty line bare. -/
theorem keepsFinalNewline_iff (path : Path)
    (reliable : files.Reliable (ofPath path).paths content steady) {state : σ} {text : Text}
    (fits : steady state) (stood : content state path = some (Utf8.encode text))
    (full : text ≠ []) {name : Text} (word : name.IsWord) {call : Call}
    (asked : call = .add name ∨ call = .delete name) :
    (∀ answer after, (ofPath path).answer files call state = (.ok answer, after) →
        ∃ new, content after path = some (Utf8.encode new) ∧ KeepsFinalNewline text new) ↔
      (call = .delete name → ¬ BaresEmptyLine text name) := by
  rcases answer_planned reliable (ofPath_apart path) call fits stood with
    ⟨left, answered, -, stoodLeft, -⟩
  rw [← withoutName_keepsFinalNewline_iff]
  constructor
  · rintro keeps rfl
    rcases keeps _ left answered with ⟨new, holds, kept⟩
    have same : Utf8.encode new = Utf8.encode (withoutName text name) :=
      Option.some.inj (holds.symm.trans stoodLeft)
    rwa [← Utf8.encode_injective same]
  · intro keeps answer after done
    rw [done, Prod.mk.injEq] at answered
    rcases answered with ⟨told, rfl⟩
    refine ⟨_, stoodLeft, ?_⟩
    rcases asked with rfl | rfl
    · rcases textAfter_add (ofPath path) told.symm with ⟨number, added⟩
      rw [added]
      exact withEntry_keepsFinalNewline full word.2
    · exact keeps rfl

theorem keepsFinalNewline_iff_kept :
    let text := "1 a\n\n# x\n2 b".toList
    let store := MemoryStore.start [("t".toList, text)] []
    let done := (ofPath "t".toList).answer FileStore.memory (.delete "b".toList) store
    store.Faultless ∧ Text.IsWord "b".toList ∧ ¬ BaresEmptyLine text "b".toList ∧
      done.1 = .ok (.deleted 1) ∧
      ∃ new, done.2.content "t".toList = some (Utf8.encode new) ∧ KeepsFinalNewline text new := by
  intro text store done
  have faultless : store.Faultless := rfl
  have stood : store.content "t".toList = some (Utf8.encode text) := by decide
  have word : Text.IsWord "b".toList := by decide
  have noBare : ¬ BaresEmptyLine text "b".toList := by decide
  have keeps := keepsFinalNewline_iff "t".toList (MemoryStore.memory_reliable _) faultless stood
    (by decide) word (.inr rfl)
  exact ⟨faultless, word, noBare, rfl, keeps.mpr (fun _ => noBare) _ _ rfl⟩

/-- A deletion that lays an empty line bare, and a newline that comes to stand at the end. -/
theorem not_keepsFinalNewline_blank :
    let text := "1 a\n\n2 b".toList
    let store := MemoryStore.start [("t".toList, text)] []
    let done := (ofPath "t".toList).answer FileStore.memory (.delete "b".toList) store
    store.Faultless ∧ Text.IsWord "b".toList ∧ done.1 = .ok (.deleted 1) ∧
      ¬ ∃ new, done.2.content "t".toList = some (Utf8.encode new) ∧
        KeepsFinalNewline text new := by
  intro text store done
  refine ⟨rfl, by decide, rfl, ?_⟩
  rintro ⟨new, holds, keeps⟩
  have left : done.2.content "t".toList = some (Utf8.encode "1 a\n".toList) := by decide
  have same : new = "1 a\n".toList :=
    Utf8.encode_injective (Option.some.inj (holds.symm.trans left))
  rw [same] at keeps
  exact keeps.opened (by decide) (by decide)

end Registry
end NetAdmin
