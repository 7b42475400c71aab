import NetAdmin.Proofs.Route.Record
import NetAdmin.Proofs.Route.Script
/-!
Reading a record of changes back, as a script or by cutting every line into words. That gives the
command lines of the applied changes exactly if all their arguments are words for the reader: an
argument that is empty or holds a blank is written as it is, and is not read back as one argument
(`replayed_performEach_iff`).
-/

namespace NetAdmin

/-- The command lines of a record: its lines, cut into words. -/
def replayed (record : Text) : List CommandLine :=
  (Text.lines record).map Text.words

def Change.IsRecorded (change : Change) : Prop :=
  change.kind ≠ .removeFirewallRule ∧ change.recording = .taken

instance (change : Change) : Decidable change.IsRecorded :=
  inferInstanceAs (Decidable (_ ∧ _))

def ChangeStatus.givesZero : Except Error ChangeStatus → Bool
  | .ok status => status.code == 0
  | .error _ => false

variable {σ : Type} (host : Host σ)

def Host.appliedLines (changes : List Change) (outcomes : List (Except Error ChangeStatus)) :
    List CommandLine :=
  ((changes.zip outcomes).filter fun made => ChangeStatus.givesZero made.2).map fun made =>
    made.1.kind.start host ++ made.1.arguments

/-! ## Lines of words -/

def CommandLine.written (line : CommandLine) : Text :=
  [' '].intercalate line ++ ['\n']

theorem flatMap_written_eq (lines : List CommandLine) :
    lines.flatMap CommandLine.written = Script.written id lines := by
  rw [Script.written, List.flatMap_def, List.flatMap_def]
  congr 1
  apply List.map_congr_left
  intro line _
  rw [CommandLine.written, List.map_id, Text.glue_eq_intercalate]

theorem replayed_written {lines : List CommandLine}
    (separate : ∀ line ∈ lines, ∀ word ∈ line, word.IsWord) :
    replayed (lines.flatMap CommandLine.written) = lines := by
  have ended : lines.flatMap CommandLine.written =
      ((lines.map (Text.glue ' ')).map (· ++ ['\n'])).flatten := by
    rw [List.map_map, List.flatMap_def]
    congr 1
    apply List.map_congr_left
    intro line _
    rw [CommandLine.written, ← Text.glue_eq_intercalate]
    rfl
  have plain : ∀ text ∈ lines.map (Text.glue ' '),
      '\n' ∉ text ∧ text.getLast? ≠ some '\r' := by
    intro text member
    rcases List.mem_map.mp member with ⟨line, inside, rfl⟩
    refine ⟨Text.not_mem_glue (separate line inside) rfl (by decide), ?_⟩
    intro last
    exact Text.not_mem_glue (separate line inside) rfl (by decide) (List.mem_of_getLast? last)
  rw [replayed, ended, Text.lines_flatten plain, List.map_map]
  refine (List.map_congr_left ?_).trans (List.map_id lines)
  intro line inside
  exact Text.words_glue (separate line inside)

theorem replayed_written_iff (lines : List CommandLine) :
    replayed (lines.flatMap CommandLine.written) = lines ↔
      ∀ line ∈ lines, ∀ word ∈ line, word.IsWord := by
  refine ⟨?_, replayed_written⟩
  intro same line member word inside
  rw [← same] at member
  rcases List.mem_map.mp member with ⟨text, -, rfl⟩
  exact Text.free_of_mem_words inside

/-! ## Records -/

theorem ChangeStep.record_of_isRecorded {step : ChangeStep} (recorded : step.change.IsRecorded) :
    step.record host =
      if ChangeStatus.givesZero step.outcome then (step.line host).written else [] := by
  rw [record, recorded.2]
  cases step.outcome with
  | error error => rfl
  | ok status => simp [ChangeStatus.givesZero, recorded.1, CommandLine.written]

theorem flatMap_record_eq {steps : List ChangeStep}
    (recorded : ∀ step ∈ steps, step.change.IsRecorded) :
    steps.flatMap (ChangeStep.record host) =
      (host.appliedLines (steps.map (·.change)) (steps.map (·.outcome))).flatMap
        CommandLine.written := by
  induction steps with
  | nil => rfl
  | cons step steps induction =>
      rw [List.forall_mem_cons] at recorded
      have others := induction recorded.2
      rw [Host.appliedLines] at others
      rw [List.flatMap_cons, others, step.record_of_isRecorded host recorded.1, Host.appliedLines,
        List.map_cons, List.map_cons, List.zip_cons_cons, List.filter_cons]
      cases ChangeStatus.givesZero step.outcome with
      | false => rfl
      | true => rfl

theorem Host.ne_nil_of_mem_appliedLines {changes : List Change}
    {outcomes : List (Except Error ChangeStatus)} :
    ∀ line ∈ host.appliedLines changes outcomes, line ≠ [] := by
  intro line member
  rcases List.mem_map.mp member with ⟨⟨⟨kind, arguments, recording⟩, outcome⟩, -, rfl⟩
  cases kind <;> exact List.cons_ne_nil _ _

/-- Whatever the runner answers, the record of a run of additions reads back as the command
lines of those that gave zero exactly if none of these lines has an empty word or a word with
a blank in it, or with quoting if the reader undoes that. -/
theorem replayed_performEach_iff {changes : List Change}
    (recorded : ∀ change ∈ changes, change.IsRecorded) (before : Session σ) :
    let done := host.performEach changes [] before
    let lines := host.appliedLines changes done.1
    (Script.read? done.2.1 = some lines ↔
        ∀ line ∈ lines, ∀ word ∈ line, Script.IsPlainWord word) ∧
      (replayed done.2.1 = lines ↔ ∀ line ∈ lines, ∀ word ∈ line, word.IsWord) := by
  rcases host.exists_steps changes [] before with ⟨steps, after, rfl, performs, -, -⟩
  have recordedSteps : ∀ step ∈ steps, step.change.IsRecorded := by
    intro step member
    exact recorded step.change (List.mem_map_of_mem member)
  rw [performs, List.nil_append, flatMap_record_eq host recordedSteps]
  refine ⟨?_, replayed_written_iff _⟩
  rw [flatMap_written_eq]
  exact Script.read?_bare_iff host.ne_nil_of_mem_appliedLines

theorem replayed_performEach_iff_failed :
    let host : Host Unit := ⟨.standard, .scripted
      [("/usr/sbin/ip rule add from 10.0.0.9".toList, .leaves ⟨some 2, [], "no\n".toList⟩)]⟩
    let changes : List Change := [
      ⟨.addRoute, ["10.1.0.0/16".toList, "dev".toList, "eth0".toList], .taken⟩,
      ⟨.addRule, ["from".toList, "10.0.0.9".toList], .taken⟩,
      ⟨.addFirewallRule, ["-A".toList, "INPUT".toList], .taken⟩]
    let lines : List CommandLine := [["/usr/sbin/ip".toList, "route".toList, "add".toList,
        "10.1.0.0/16".toList, "dev".toList, "eth0".toList],
      ["/usr/sbin/iptables".toList, "-A".toList, "INPUT".toList]]
    let record := (host.performEach changes [] ⟨(), []⟩).2.1
    (∀ change ∈ changes, change.IsRecorded) ∧ Script.read? record = some lines ∧
      replayed record = lines := by
  intro host changes lines record
  have recorded : ∀ change ∈ changes, change.IsRecorded := by decide
  have applied : host.appliedLines changes (host.performEach changes [] ⟨(), []⟩).1 = lines := by
    decide +kernel
  have plain : ∀ line ∈ lines, ∀ word ∈ line, Script.IsPlainWord word := by
    rw [List.forall_mem_cons, List.forall_mem_singleton]
    exact ⟨by decide, by decide⟩
  have separate : ∀ line ∈ lines, ∀ word ∈ line, word.IsWord := by
    rw [List.forall_mem_cons, List.forall_mem_singleton]
    exact ⟨by decide +kernel, by decide +kernel⟩
  rcases replayed_performEach_iff host recorded ⟨(), []⟩ with ⟨script, words⟩
  rw [applied] at script words
  exact ⟨recorded, script.mpr plain, words.mpr separate⟩

/-- A comment of two words is one argument, and comes back as two. -/
theorem not_replayed_comment :
    let host : Host Unit := ⟨.standard, .scripted []⟩
    let changes : List Change := [⟨.addFirewallRule, ["-A".toList, "INPUT".toList,
      "--comment".toList, "allow ssh".toList], .taken⟩]
    let done := host.performEach changes [] ⟨(), []⟩
    let split : List CommandLine := [["/usr/sbin/iptables".toList, "-A".toList, "INPUT".toList,
      "--comment".toList, "allow".toList, "ssh".toList]]
    (∀ change ∈ changes, change.IsRecorded) ∧ done.1 = [.ok .applied] ∧
      Script.read? done.2.1 = some split ∧ replayed done.2.1 = split ∧
      host.appliedLines changes done.1 ≠ split := by
  decide +kernel

end NetAdmin
