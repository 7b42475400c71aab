import Mathlib.Data.List.Basic
import NetAdmin.Proofs.Command.Dialogue
import NetAdmin.Proofs.Text.Lines
import NetAdmin.Route.Flush
/-!
What flushes run and count. Deletions are run one after the other up to one that cannot be
run (`runs_deleteEach`). A flush takes them from the output of its listing, and every end
of a flush is one of `Flush.Ends`.
-/

namespace NetAdmin

variable {σ : Type} (host : Host σ)

inductive Flush
  | routes (device : Text)
  /-- Policy rules that look up a table. -/
  | tableRules (table : Text)
  /-- Policy rules that mention an address. -/
  | addressRules (address : Text)

namespace Flush

def perform : Flush → CommandM σ Nat
  | routes device => host.flushRoutes device
  | tableRules table => host.flushTableRules table
  | addressRules address => host.flushAddressRules address

def listing : Flush → CommandLine
  | routes device => [host.settings.ip, "route".toList, "show".toList, "dev".toList, device]
  | tableRules table => [host.settings.ip, "rule".toList, "show".toList, "lookup".toList, table]
  | addressRules _ => [host.settings.ip, "rule".toList, "list".toList]

/-- The deletions that a listing asks for: one for each of its selected lines, in their
order. -/
def deletions (listed : Text) : Flush → List CommandLine
  | routes _ =>
      ((Text.lines listed).filter fun line => !Text.isAllBlank line).map fun line =>
        [host.settings.ip, "route".toList, "del".toList] ++ Text.words line
  | tableRules _ =>
      ((Text.lines listed).filterMap ListedRule.ofLine?).map fun rule =>
        [host.settings.ip, "rule".toList, "del".toList] ++ rule.body
  | addressRules address =>
      (((Text.lines listed).filter fun line => address ∈ Text.words line).filterMap
        ListedRule.ofLine?).map fun rule =>
          [host.settings.ip, "rule".toList, "del".toList, "pref".toList,
            Decimal.write rule.priority]

example : (addressRules "10.0.0.2".toList).deletions (⟨.standard, .scripted []⟩ : Host Unit)
    "0:\tfrom all lookup local\n32765:\tfrom 10.0.0.2 lookup t1\n".toList =
      [["/usr/sbin/ip".toList, "rule".toList, "del".toList, "pref".toList, "32765".toList]] := by
  decide

end Flush

/-! ## Deletions -/

def Exchange.worked (exchange : Exchange) : Bool :=
  match exchange.result with
  | .ok output =>
      output.status = some 0 && output.stdout.all Text.isBlank && output.stderr.all Text.isBlank
  | .error _ => false

/-- How deletions end. If each can be run, each is run once, whatever came of the others,
and those that worked are counted. The first that cannot be run is the last one. -/
inductive DeletionsEnd (lines : List CommandLine) : List Exchange → Except Error Nat → Prop
  | finished {exchanges : List Exchange} (asked : exchanges.map Exchange.line = lines)
      (ran : ∀ exchange ∈ exchanges, exchange.result.isOk) :
      DeletionsEnd lines exchanges (.ok (exchanges.countP Exchange.worked))
  | stopped {done : List Exchange} {line : CommandLine} {error : Error} {rest : List CommandLine}
      (asked : lines = done.map Exchange.line ++ line :: rest)
      (ran : ∀ exchange ∈ done, exchange.result.isOk) :
      DeletionsEnd lines (done ++ [⟨line, .error error⟩]) (.error error)

theorem Exchange.worked_ok (line : CommandLine) (output : Output) :
    (Exchange.mk line (.ok output)).worked = output.silentSuccess := by
  simp [Exchange.worked, Output.silentSuccess, Output.success, Output.combined, Text.isAllBlank,
    Bool.and_assoc]

theorem DeletionsEnd.cons (line : CommandLine) (output : Output) {others : List CommandLine}
    {exchanges : List Exchange} {result : Except Error Nat}
    (ends : DeletionsEnd others exchanges result) :
    DeletionsEnd (line :: others) (⟨line, .ok output⟩ :: exchanges)
      (result.map fun count => if output.silentSuccess then count + 1 else count) := by
  cases ends with
  | finished asked ran =>
      have counted : (if output.silentSuccess then exchanges.countP Exchange.worked + 1
            else exchanges.countP Exchange.worked) =
          (⟨line, .ok output⟩ :: exchanges).countP Exchange.worked := by
        rw [List.countP_cons, Exchange.worked_ok]
        split <;> rfl
      rw [Except.map, counted]
      exact .finished (by rw [List.map_cons, asked]) (List.forall_mem_cons.mpr ⟨rfl, ran⟩)
  | @stopped done last error rest asked ran =>
      have askedAll : line :: others =
          (⟨line, .ok output⟩ :: done).map Exchange.line ++ last :: rest := by
        rw [asked]
        rfl
      exact .stopped askedAll (List.forall_mem_cons.mpr ⟨rfl, ran⟩)

namespace Host

theorem runs_deleteEach (lines : List CommandLine) (before : Session σ) :
    ∃ exchanges result after, Runs host (host.deleteEach lines) before exchanges result after ∧
      DeletionsEnd lines exchanges result := by
  -- Over all sessions: the runner may answer the others by what it did with the first.
  induction lines generalizing before with
  | nil => exact ⟨[], .ok 0, before, .pure 0 before, .finished rfl (by simp)⟩
  | cons line others induction =>
      rcases host.runs_run line before with ⟨answer, middle, runs⟩
      cases answer with
      | error error =>
          have asked : line :: others = [].map Exchange.line ++ line :: others := rfl
          exact ⟨_, _, middle, runs.bind_error, .stopped asked (by simp)⟩
      | ok output =>
          rcases induction middle with ⟨exchanges, result, after, rest, ends⟩
          have counted := rest.map fun count => if output.silentSuccess then count + 1 else count
          exact ⟨_, _, after, runs.bind counted, ends.cons line output⟩

theorem runs_listedLines (line : CommandLine) (before : Session σ) :
    ∃ answer after, Runs host (host.listedLines line) before [⟨line, answer⟩]
      (answer.map fun output =>
        if output.success then (Text.lines output.stdout).filter fun line => !Text.isAllBlank line
        else []) after := by
  rcases host.runs_run line before with ⟨answer, after, runs⟩
  refine ⟨answer, after, ?_, runs.dialogue⟩
  rw [listedLines, Computation.bind_apply, runs.ends]
  cases answer with
  | error error => rfl
  | ok output =>
      simp only [Except.map]
      split <;> rfl

end Host

/-! ## Selected lines -/

theorem ListedRule.ofLine?_of_isAllBlank {line : Text} (blank : Text.isAllBlank line = true) :
    ListedRule.ofLine? line = none := by
  rw [ListedRule.ofLine?, Text.trim_of_isAllBlank blank]
  rfl

theorem ListedRule.filterMap_ofLine?_filter (lines : List Text) :
    (lines.filter fun line => !Text.isAllBlank line).filterMap ListedRule.ofLine? =
      lines.filterMap ListedRule.ofLine? := by
  rw [List.filterMap_filter]
  apply List.filterMap_congr
  intro line _
  cases blank : Text.isAllBlank line with
  | false => rfl
  | true => exact (ListedRule.ofLine?_of_isAllBlank blank).symm

namespace Flush

def select (lines : List Text) : Flush → List CommandLine
  | routes _ => lines.map host.routeDeletion
  | tableRules _ => (lines.filterMap ListedRule.ofLine?).map host.ruleDeletion
  | addressRules address =>
      ((lines.filter fun line => (Text.words line).contains address).filterMap
        ListedRule.ofLine?).map host.priorityDeletion

theorem perform_eq (flush : Flush) :
    flush.perform host = host.listedLines (flush.listing host) >>= fun lines =>
      host.deleteEach (flush.select host lines) := by
  cases flush <;> rfl

theorem select_nil (flush : Flush) : flush.select host [] = [] := by
  cases flush <;> rfl

theorem select_lines (flush : Flush) (listed : Text) :
    flush.select host ((Text.lines listed).filter fun line => !Text.isAllBlank line) =
      flush.deletions host listed := by
  cases flush with
  | routes device => rfl
  | tableRules table =>
      rw [select, ListedRule.filterMap_ofLine?_filter]
      rfl
  | addressRules address =>
      -- Blank lines are taken out before those without the address; either order will do.
      rw [select, List.filter_comm, ListedRule.filterMap_ofLine?_filter, deletions]
      simp only [List.contains_eq_mem]
      rfl

inductive Ends (flush : Flush) : List Exchange → Except Error Nat → Prop
  /-- The listing cannot be run. -/
  | unlisted (error : Error) : Ends flush [⟨flush.listing host, .error error⟩] (.error error)
  /-- The listing is not successful, and nothing else is run. -/
  | nothing {output : Output} (failed : output.status ≠ some 0) :
      Ends flush [⟨flush.listing host, .ok output⟩] (.ok 0)
  /-- The listing is successful, and what it asks for is deleted. -/
  | deleted {output : Output} {exchanges : List Exchange} {result : Except Error Nat}
      (listed : output.status = some 0)
      (ends : DeletionsEnd (flush.deletions host output.stdout) exchanges result) :
      Ends flush (⟨flush.listing host, .ok output⟩ :: exchanges) result

end Flush

theorem Host.runs_flush (flush : Flush) (before : Session σ) :
    ∃ exchanges result after, host.Runs (flush.perform host) before exchanges result after ∧
      flush.Ends host exchanges result := by
  rcases host.runs_listedLines (flush.listing host) before with ⟨answer, middle, listing⟩
  rw [flush.perform_eq]
  cases answer with
  | error error => exact ⟨_, _, middle, listing.bind_error, .unlisted error⟩
  | ok output =>
      simp only [Except.map] at listing
      split at listing
      · next success =>
          rcases host.runs_deleteEach (flush.deletions host output.stdout) middle with
            ⟨exchanges, result, after, deletions, ends⟩
          rw [← flush.select_lines] at deletions
          have worked := of_decide_eq_true success
          exact ⟨_, result, after, listing.bind deletions, .deleted worked ends⟩
      · next failure =>
          have deletesNothing : Runs host (host.deleteEach (flush.select host [])) middle []
              (.ok 0) middle := by
            rw [flush.select_nil]
            exact .pure 0 middle
          have failed : output.status ≠ some 0 := fun zero => failure (decide_eq_true zero)
          exact ⟨_, .ok 0, middle, listing.bind deletesNothing, .nothing failed⟩

/-- Whatever its runner answers, a flush runs its listing, then each deletion that the
listing asks for, and gives the number of those that worked. -/
theorem flush_ends (flush : Flush) (before : Session σ) :
    ∃ exchanges result after, host.Runs (flush.perform host) before exchanges result after ∧
      after.calls = before.calls ++ exchanges.map Exchange.line ∧
      flush.Ends host exchanges result := by
  rcases host.runs_flush flush before with ⟨exchanges, result, after, runs, ends⟩
  exact ⟨exchanges, result, after, runs, runs.dialogue.calls, ends⟩

end NetAdmin
