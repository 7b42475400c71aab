import NetAdmin.Exclusion
import NetAdmin.Proofs.Files.Entries
import NetAdmin.Proofs.Text.Lines
/-!
The names of exclusion files. A file name is made of an address character by character
(`fileName_eq`), and no character but the slash becomes one, so the parts of an address are the
parts of its file name (`names_fileName`). The file names of hardware addresses are equal if the
addresses are equal up to case, and only then (`fileName_eq_iff`).
-/

namespace NetAdmin

/-! ## Characters that only they themselves become -/

theorem Char.eq_toNat_of_ofNat {code : Nat} {target : Char} (filled : target ≠ '\x00')
    (same : Char.ofNat code = target) : code = target.toNat := by
  by_cases valid : code.isValidChar
  · rw [Char.ofNat, dif_pos valid] at same
    subst same
    rfl
  · rw [Char.ofNat, dif_neg valid] at same
    exact absurd same.symm filled

theorem Text.CaseMap.eq_of_mem_char {mapping : CaseMap} {c target : Char}
    (filled : target ≠ '\x00')
    (runs : ∀ run ∈ mapping.runs,
      ¬ (run.first + run.shift ≤ target.toNat ∧ target.toNat ≤ run.last + run.shift))
    (several : ∀ entry ∈ mapping.several, target.toNat ∉ entry.2)
    (member : target ∈ mapping.char c) : c = target := by
  rw [CaseMap.char] at member
  split at member
  · next codes found =>
    rcases List.mem_map.mp member with ⟨code, inside, same⟩
    rcases List.lookup_eq_some_iff.mp found with ⟨front, back, whole, -⟩
    have entry : (c.toNat, codes) ∈ mapping.several := by simp [whole]
    exact absurd (Char.eq_toNat_of_ofNat filled same ▸ inside) (several _ entry)
  · split at member
    · next run found =>
      have holds := List.find?_some found
      have code := Char.eq_toNat_of_ofNat filled (List.mem_singleton.mp member).symm
      have positive : target.toNat ≠ 0 := by
        intro zero
        exact filled (Char.toNat_inj.mp zero)
      simp only [CaseRun.holds, Bool.and_eq_true, decide_eq_true_eq] at holds
      exact absurd (by omega) (runs run (List.mem_of_find?_eq_some found))
    · exact (List.mem_singleton.mp member).symm

theorem Text.CaseMap.char_ne_nil {mapping : CaseMap}
    (several : ∀ entry ∈ mapping.several, entry.2 ≠ []) (c : Char) : mapping.char c ≠ [] := by
  rw [CaseMap.char]
  split
  · next codes found =>
    rcases List.lookup_eq_some_iff.mp found with ⟨front, back, whole, -⟩
    have entry : (c.toNat, codes) ∈ mapping.several := by simp [whole]
    simpa using several _ entry
  · split <;> exact List.cons_ne_nil _ _

namespace Exclusions

variable {mac other last : Text} {front : List Text}

/-! ## File names character by character -/

def folded (c : Char) : Text :=
  Text.replaced ':' '_' (Text.upperMap.char c)

def suffix : Text :=
  ".conf".toList

theorem fileName_eq (mac : Text) : fileName mac = mac.flatMap folded ++ suffix := by
  rw [fileName, Text.upper, Text.replaced, List.map_flatMap]
  rfl

theorem eq_of_mem_folded {c target : Char} (filled : target ≠ '\x00') (plain : target ≠ '_')
    (runs : ∀ run ∈ Text.upperMap.runs,
      ¬ (run.first + run.shift ≤ target.toNat ∧ target.toNat ≤ run.last + run.shift))
    (several : ∀ entry ∈ Text.upperMap.several, target.toNat ∉ entry.2)
    (member : target ∈ folded c) : c = target := by
  rcases List.mem_map.mp member with ⟨d, inside, same⟩
  split at same
  · exact absurd same.symm plain
  · subst same
    exact Text.CaseMap.eq_of_mem_char filled runs several inside

theorem eq_slash_of_mem_folded {c : Char} (member : '/' ∈ folded c) : c = '/' :=
  eq_of_mem_folded (by decide) (by decide) (by decide +kernel) (by decide +kernel) member

theorem folded_ne_nil (c : Char) : folded c ≠ [] := by
  have upper : Text.upperMap.char c ≠ [] := Text.CaseMap.char_ne_nil (by decide +kernel) c
  simpa [folded, Text.replaced] using upper

theorem f_not_mem_folded (part : Text) : 'f' ∉ part.flatMap folded := by
  intro member
  rcases List.mem_flatMap.mp member with ⟨c, -, inside⟩
  have same : c = 'f' :=
    eq_of_mem_folded (by decide) (by decide) (by decide +kernel) (by decide +kernel) inside
  rw [same] at inside
  exact absurd inside (by decide +kernel)

theorem f_mem_fileName (mac : Text) : 'f' ∈ fileName mac := by
  rw [fileName_eq]
  exact List.mem_append_right _ (by decide)

theorem part_of_folded {part : Text}
    (same : part.flatMap folded = [] ∨ part.flatMap folded = ['.']) :
    part = [] ∨ part = ['.'] := by
  rcases part with _ | ⟨c, part⟩
  · exact .inl rfl
  rcases shape : folded c with _ | ⟨d, rest⟩
  · exact absurd shape (folded_ne_nil c)
  rw [List.flatMap_cons, shape, List.cons_append] at same
  rcases same with same | same
  · cases same
  rcases List.cons.inj same with ⟨rfl, nothing⟩
  have dot : c = '.' :=
    eq_of_mem_folded (by decide) (by decide) (by decide +kernel) (by decide +kernel)
      (shape ▸ List.mem_cons_self)
  rcases part with _ | ⟨e, part⟩
  · exact .inr (by rw [dot])
  · have more : folded e = [] := by
      have blank := (List.append_eq_nil_iff.mp nothing).2
      rw [List.flatMap_cons] at blank
      exact (List.append_eq_nil_iff.mp blank).1
    exact absurd more (folded_ne_nil e)

theorem slash_not_mem_fileName (free : '/' ∉ mac) : '/' ∉ fileName mac := by
  rw [fileName_eq, List.mem_append, not_or]
  refine ⟨?_, by decide⟩
  intro member
  rcases List.mem_flatMap.mp member with ⟨c, inside, slash⟩
  exact free (eq_slash_of_mem_folded slash ▸ inside)

private theorem glue_fileName (front : List Text) (last : Text) :
    fileName (Text.glue '/' (front ++ [last])) =
      Text.glue '/' (front.map (·.flatMap folded) ++ [fileName last]) := by
  have slash : folded '/' = ['/'] := by decide +kernel
  rw [fileName_eq, fileName_eq, Text.glue_concat, Text.glue_concat]
  induction front with
  | nil => simp
  | cons part front induction => simpa [slash] using induction

theorem pieces_fileName (parts : Text.pieces '/' mac = front ++ [last]) :
    Text.pieces '/' (fileName mac) = front.map (·.flatMap folded) ++ [fileName last] := by
  have free : ∀ part ∈ front ++ [last], '/' ∉ part := by
    intro part member
    exact Text.not_mem_of_mem_pieces (parts ▸ member)
  have folds : ∀ part ∈ front.map (·.flatMap folded) ++ [fileName last], '/' ∉ part := by
    intro part member
    rcases List.mem_append.mp member with inside | ending
    · rcases List.mem_map.mp inside with ⟨source, known, rfl⟩
      intro slash
      rcases List.mem_flatMap.mp slash with ⟨c, within, found⟩
      exact free source (List.mem_append_left _ known) (eq_slash_of_mem_folded found ▸ within)
    · rw [List.mem_singleton.mp ending]
      exact slash_not_mem_fileName (free last (by simp))
  rw [← Text.glue_pieces '/' mac, parts, glue_fileName]
  rcases split : front.map (·.flatMap folded) ++ [fileName last] with _ | ⟨part, parts⟩
  · simp at split
  · exact Text.pieces_glue (split ▸ folds)

/-! ## Names in the directory -/

/-- An address with nothing but single dots before its last slash. -/
def Direct (mac : Text) : Prop :=
  Path.isAbsolute mac = false ∧ ∀ part ∈ (Text.pieces '/' mac).dropLast, part = [] ∨ part = ['.']

theorem direct_of_slash_not_mem (free : '/' ∉ mac) : Direct mac := by
  refine ⟨?_, ?_⟩
  · rcases mac with _ | ⟨c, mac⟩
    · rfl
    · have different : c ≠ '/' := by
        rintro rfl
        exact free List.mem_cons_self
      simpa [Path.isAbsolute] using different
  · rw [Text.pieces_of_not_mem free]
    intro part member
    cases member

theorem isAbsolute_fileName (mac : Text) :
    Path.isAbsolute (fileName mac) = Path.isAbsolute mac := by
  rw [fileName_eq]
  rcases mac with _ | ⟨c, mac⟩
  · rfl
  · rcases shape : folded c with _ | ⟨d, rest⟩
    · exact absurd shape (folded_ne_nil c)
    · have same : d = '/' ↔ c = '/' := by
        constructor
        · rintro rfl
          exact eq_slash_of_mem_folded (shape ▸ List.mem_cons_self)
        · rintro rfl
          have slash : folded '/' = ['/'] := by decide +kernel
          exact (List.cons.inj (shape.symm.trans slash)).1
      simp [Path.isAbsolute, shape, same]

theorem length_fileName (mac : Text) : 5 ≤ (fileName mac).length := by
  rw [fileName_eq, List.length_append]
  exact Nat.le_add_left 5 _

theorem fileName_ne_nil (mac : Text) : fileName mac ≠ [] :=
  List.ne_nil_of_length_pos (Nat.lt_of_lt_of_le (by decide) (length_fileName mac))

theorem getLast?_fileName (mac : Text) : (fileName mac).getLast? ≠ some '/' := by
  rw [fileName_eq, List.getLast?_append_of_ne_nil _ (by decide)]
  decide

def routes (front : List Text) : List Text :=
  (front.map (·.flatMap folded)).filter (!·.isEmpty)

theorem exists_of_mem_routes {route : Text} (member : route ∈ routes front) :
    route ≠ [] ∧ ∃ part ∈ front, part.flatMap folded = route := by
  rcases List.mem_filter.mp member with ⟨inside, filled⟩
  exact ⟨by simpa using filled, List.mem_map.mp inside⟩

theorem steps_fileName (parts : Text.pieces '/' mac = front ++ [last]) :
    Tree.steps (fileName mac) = routes front ++ [fileName last] := by
  rw [Tree.steps, if_neg (getLast?_fileName mac), pieces_fileName parts, List.filter_append]
  congr 1
  exact List.filter_cons_of_pos (by simpa using fileName_ne_nil last)

theorem names_fileName (direct : Direct mac) (parts : Text.pieces '/' mac = front ++ [last]) :
    Tree.Names (fileName mac) (fileName last) := by
  refine ⟨(isAbsolute_fileName mac).trans direct.1, ?_, fileName_ne_nil last, ?_, ?_⟩
  · refine ⟨_, ?_, steps_fileName parts⟩
    intro dot member
    rcases exists_of_mem_routes member with ⟨filled, part, known, rfl⟩
    rcases direct.2 part (by rw [parts, List.dropLast_concat]; exact known) with rfl | rfl
    · exact absurd rfl filled
    · decide +kernel
  all_goals
    intro same
    have long := length_fileName last
    rw [same] at long
    exact absurd long (by decide)

/-! ## Hardware addresses -/

def hexDigits : Text :=
  "0123456789abcdefABCDEF".toList

/-- A well-formed address: six groups of two hexadecimal digits with colons between them. -/
def IsMac (mac : Text) : Prop :=
  (Text.pieces ':' mac).length = 6 ∧
    ∀ group ∈ Text.pieces ':' mac, group.length = 2 ∧ group ⊆ hexDigits

instance (mac : Text) : Decidable (IsMac mac) :=
  inferInstanceAs (Decidable (_ ∧ _))

def Alike (mac other : Text) : Prop :=
  mac.map Char.toLower = other.map Char.toLower

instance (mac other : Text) : Decidable (Alike mac other) :=
  inferInstanceAs (Decidable (_ = _))

private theorem length_glue_of_uniform {mark : Char} {size : Nat} {parts : List Text}
    (filled : parts ≠ []) (uniform : ∀ part ∈ parts, part.length = size) :
    (Text.glue mark parts).length + 1 = (size + 1) * parts.length := by
  induction parts with
  | nil => exact absurd rfl filled
  | cons part parts induction =>
      rw [List.forall_mem_cons] at uniform
      rcases parts with _ | ⟨next, parts⟩
      · simp [Text.glue, uniform.1]
      · have later := induction (List.cons_ne_nil _ _) uniform.2
        have step : Text.glue mark (part :: next :: parts) =
            part ++ mark :: Text.glue mark (next :: parts) := rfl
        rw [step, List.length_append, List.length_cons, uniform.1, List.length_cons,
          Nat.mul_succ, ← later]
        omega

namespace IsMac

theorem mem_alphabet (isMac : IsMac mac) {c : Char} (member : c ∈ mac) : c ∈ ':' :: hexDigits := by
  rw [← Text.glue_pieces ':' mac] at member
  rcases Text.eq_or_mem_of_mem_glue member with rfl | ⟨group, inside, digit⟩
  · exact List.mem_cons_self
  · exact List.mem_cons_of_mem _ ((isMac.2 group inside).2 digit)

theorem length_eq (isMac : IsMac mac) : mac.length = 17 := by
  have groups : Text.pieces ':' mac ≠ [] := Text.split_ne_nil _ mac
  have sizes : (Text.glue ':' (Text.pieces ':' mac)).length + 1 =
      (2 + 1) * (Text.pieces ':' mac).length :=
    length_glue_of_uniform groups fun group inside => (isMac.2 group inside).1
  rw [Text.glue_pieces, isMac.1] at sizes
  exact Nat.succ.inj sizes

theorem not_isAllBlank (isMac : IsMac mac) : Text.isAllBlank mac = false := by
  have digits : (':' :: hexDigits).all (fun c => !Text.isBlank c) = true := by decide +kernel
  have filled : mac ≠ [] := List.ne_nil_of_length_pos (isMac.length_eq ▸ Nat.zero_lt_succ 16)
  rcases mac with _ | ⟨c, mac⟩
  · exact absurd rfl filled
  · have digit := List.all_eq_true.mp digits c (isMac.mem_alphabet List.mem_cons_self)
    rw [Bool.not_eq_true'] at digit
    rw [Text.isAllBlank, List.all_cons, digit, Bool.false_and]

theorem slash_not_mem (isMac : IsMac mac) : '/' ∉ mac := by
  intro member
  exact absurd (isMac.mem_alphabet member) (by decide)

theorem names (isMac : IsMac mac) : Tree.Names (fileName mac) (fileName mac) := by
  have parts : Text.pieces '/' mac = [] ++ [mac] := Text.pieces_of_not_mem isMac.slash_not_mem
  exact names_fileName (direct_of_slash_not_mem isMac.slash_not_mem) parts

end IsMac

private def shown (c : Char) : Char :=
  if c = ':' then '_' else c.toUpper

private theorem folded_eq_shown : ∀ c ∈ ':' :: hexDigits, folded c = [shown c] := by
  have all : (':' :: hexDigits).all (fun c => folded c = [shown c]) = true := by decide +kernel
  simpa only [List.all_eq_true, decide_eq_true_eq] using all

private theorem shown_eq_iff : ∀ c ∈ ':' :: hexDigits, ∀ d ∈ ':' :: hexDigits,
    shown c = shown d ↔ c.toLower = d.toLower := by
  have all : (':' :: hexDigits).all (fun c => (':' :: hexDigits).all fun d =>
      shown c = shown d ↔ c.toLower = d.toLower) = true := by decide +kernel
  simpa only [List.all_eq_true, decide_eq_true_eq] using all

theorem IsMac.fileName_eq (isMac : IsMac mac) : fileName mac = mac.map shown ++ suffix := by
  have same : mac.flatMap folded = mac.flatMap fun c => [shown c] :=
    List.flatMap_congr fun c member => folded_eq_shown c (isMac.mem_alphabet member)
  rw [Exclusions.fileName_eq, same, ← List.map_eq_flatMap]

theorem IsMac.single_of_mem (isMac : IsMac mac) {c : Char} (member : c ∈ fileName mac) :
    c ≠ '\x00' ∧ (String.utf8EncodeChar c).length = 1 := by
  have all : ((':' :: hexDigits).map shown ++ suffix).all (fun c =>
      c ≠ '\x00' ∧ (String.utf8EncodeChar c).length = 1) = true := by decide +kernel
  have known : c ∈ (':' :: hexDigits).map shown ++ suffix := by
    rw [isMac.fileName_eq] at member
    refine (List.mem_append.mp member).elim ?_ (List.mem_append_right _)
    intro inside
    rcases List.mem_map.mp inside with ⟨d, digit, rfl⟩
    exact List.mem_append_left _ (List.mem_map_of_mem (isMac.mem_alphabet digit))
  exact of_decide_eq_true (List.all_eq_true.mp all c known)

theorem IsMac.nul_not_mem (isMac : IsMac mac) : '\x00' ∉ fileName mac :=
  fun member => (isMac.single_of_mem member).1 rfl

theorem IsMac.length_encode (isMac : IsMac mac) : (Utf8.encode (fileName mac)).length = 22 := by
  have singles : ∀ c ∈ fileName mac, (String.utf8EncodeChar c).length = 1 :=
    fun c member => (isMac.single_of_mem member).2
  have bytes : (Utf8.encode (fileName mac)).length = (fileName mac).length := by
    rw [Utf8.encode, List.length_flatMap, List.map_congr_left singles]
    simp
  rw [bytes, isMac.fileName_eq, List.length_append, List.length_map, isMac.length_eq]
  rfl

private theorem map_shown_eq_iff {left right : Text} (leftKnown : ∀ c ∈ left, c ∈ ':' :: hexDigits)
    (rightKnown : ∀ d ∈ right, d ∈ ':' :: hexDigits) :
    left.map shown = right.map shown ↔ left.map Char.toLower = right.map Char.toLower := by
  induction left generalizing right with
  | nil => rw [List.map_nil, List.map_nil, List.nil_eq, List.nil_eq, List.map_eq_nil_iff,
      List.map_eq_nil_iff]
  | cons c left induction =>
      rcases right with _ | ⟨d, right⟩
      · exact ⟨nofun, nofun⟩
      · rw [List.forall_mem_cons] at leftKnown rightKnown
        rw [List.map_cons, List.map_cons, List.map_cons, List.map_cons, List.cons.injEq,
          List.cons.injEq, shown_eq_iff c leftKnown.1 d rightKnown.1,
          induction leftKnown.2 rightKnown.2]

theorem fileName_eq_iff (isMac : IsMac mac) (otherMac : IsMac other) :
    fileName mac = fileName other ↔ Alike mac other := by
  rw [isMac.fileName_eq, otherMac.fileName_eq, List.append_left_inj]
  exact map_shown_eq_iff (fun _ => isMac.mem_alphabet) (fun _ => otherMac.mem_alphabet)

end Exclusions
end NetAdmin
