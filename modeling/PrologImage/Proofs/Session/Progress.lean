import PrologImage.Session

/-!
Contract: how a session advances from one process to the next.

Owns: the outcome that answers each process and the files that are there after a number of
processes, both read off the prepared outcomes; the relation between a session and a later one
that started some processes in between, and its composition; a small machine for examples.

Does not own: which steps start processes (`Proofs.Session.Conduct`).
-/

namespace PrologImage

/-- The files after a process with this outcome has run. -/
def ProcessOutcome.applied (outcome : ProcessOutcome) (files : FileSystem) : FileSystem :=
  outcome.writes.foldl (fun files location => files.place location .file) files

namespace Session

/-- The outcome of the process that is started after a number of others. -/
def outcomeAt (session : Session) (index : Nat) : ProcessOutcome :=
  session.outcomes.getD index {}

/-- The files that prepared outcomes leave behind after a number of processes. -/
def filesAfter (files : FileSystem) (outcomes : List ProcessOutcome) : Nat → FileSystem
  | 0 => files
  | count + 1 => filesAfter ((outcomes.headD {}).applied files) outcomes.tail count

/-- The files that are there after a number of processes. -/
def filesAt (session : Session) (count : Nat) : FileSystem :=
  filesAfter session.files session.outcomes count

@[simp] theorem filesAt_zero (session : Session) : session.filesAt 0 = session.files := rfl

theorem headD_outcomes (session : Session) : session.outcomes.headD {} = session.outcomeAt 0 := by
  unfold outcomeAt
  cases session.outcomes <;> rfl

/-- A process ends as the next outcome says. -/
theorem run_outcome (process : StartedProcess) (session : Session) :
    (run process).outcome session =
      (.ok (session.outcomeAt 0).ending, session.start process) := by
  rw [← headD_outcomes]
  rfl

theorem filesAfter_add (files : FileSystem) (outcomes : List ProcessOutcome) (first second : Nat) :
    filesAfter files outcomes (first + second) =
      filesAfter (filesAfter files outcomes first) (outcomes.drop first) second := by
  induction first generalizing files outcomes with
  | zero => simp [filesAfter]
  | succ first inductionHypothesis =>
      have reorder : first + 1 + second = first + second + 1 := by omega
      rw [reorder, filesAfter, inductionHypothesis, filesAfter, List.drop_tail]

/-- The last process adds what it writes to the files before it. -/
theorem filesAt_succ (session : Session) (count : Nat) :
    session.filesAt (count + 1) = (session.outcomeAt count).applied (session.filesAt count) := by
  have head : (session.outcomes.drop count).headD {} = session.outcomeAt count := by
    unfold outcomeAt
    rw [List.headD_eq_head?_getD, List.head?_drop, List.getD_eq_getElem?_getD]
  unfold filesAt
  rw [filesAfter_add, filesAfter, filesAfter, head]

/-- One session comes after another one, with some processes started in between. -/
structure Advances (before after : Session) (processes : List StartedProcess) : Prop where
  started : after.started = before.started ++ processes
  outcomes : after.outcomes = before.outcomes.drop processes.length
  files : after.files = before.filesAt processes.length

namespace Advances

variable {before middle after : Session} {first second : List StartedProcess}

theorem refl (session : Session) : session.Advances session [] where
  started := (List.append_nil _).symm
  outcomes := rfl
  files := rfl

/-- Text and log records may be added without any process. -/
theorem of_same (started : after.started = before.started)
    (outcomes : after.outcomes = before.outcomes) (files : after.files = before.files) :
    before.Advances after [] where
  started := by rw [started, List.append_nil]
  outcomes := outcomes
  files := files

theorem outcomeAt_eq (advances : before.Advances after first) (index : Nat) :
    after.outcomeAt index = before.outcomeAt (first.length + index) := by
  unfold outcomeAt
  rw [advances.outcomes, List.getD_eq_getElem?_getD, List.getD_eq_getElem?_getD,
    List.getElem?_drop]

/-- Without a process in between, the same outcomes are still to come. -/
theorem outcomeAt_of_nil (advances : before.Advances after []) (index : Nat) :
    after.outcomeAt index = before.outcomeAt index := by
  rw [advances.outcomeAt_eq, List.length_nil, Nat.zero_add]

theorem filesAt_eq (advances : before.Advances after first) (count : Nat) :
    after.filesAt count = before.filesAt (first.length + count) := by
  unfold filesAt
  rw [advances.files, advances.outcomes, filesAfter_add]
  rfl

theorem trans (left : before.Advances middle first) (right : middle.Advances after second) :
    before.Advances after (first ++ second) where
  started := by rw [right.started, left.started, List.append_assoc]
  outcomes := by rw [right.outcomes, left.outcomes, List.drop_drop, List.length_append]
  files := by rw [right.files, left.filesAt_eq, List.length_append]

/-- Printing on the output starts nothing. -/
theorem writeOutput (advances : before.Advances after first) (text : String) :
    before.Advances (after.writeOutput text) first :=
  ⟨advances.started, advances.outcomes, advances.files⟩

theorem start (session : Session) (process : StartedProcess) :
    session.Advances (session.start process) [process] where
  started := rfl
  outcomes := List.drop_one.symm
  files := rfl

end Advances

/-- A session that comes after another one and has printed nothing on the output since. -/
structure Silent (before after : Session) (processes : List StartedProcess) : Prop
    extends before.Advances after processes where
  output : after.output = before.output

namespace Silent

variable {before middle after : Session} {first second : List StartedProcess}

theorem refl (session : Session) : session.Silent session [] where
  toAdvances := .refl session
  output := rfl

theorem trans (left : before.Silent middle first) (right : middle.Silent after second) :
    before.Silent after (first ++ second) where
  toAdvances := left.toAdvances.trans right.toAdvances
  output := right.output.trans left.output

theorem start (session : Session) (process : StartedProcess) :
    session.Silent (session.start process) [process] where
  toAdvances := .start session process
  output := rfl

theorem addRecord (session : Session) (level : LogLevel) (message : String) :
    session.Silent (session.addRecord level message) [] := by
  unfold Session.addRecord
  split
  · exact ⟨.of_same rfl rfl rfl, rfl⟩
  · exact .refl session

end Silent

end Session

/-! ## A sample machine -/

/-- A machine with an interpreter `s`, a source `a` and an older file `o` in one directory. -/
def sampleSite : Site where
  workingDirectory := ["w"]
  environment := []
  platform := { system := "Linux", release := "", machine := "", runtime := "3.11.2" }
  console := .plain

/-- The files of the sample machine. -/
def sampleFiles : FileSystem :=
  ⟨[([], .directory), (["w"], .directory), (["w", "a"], .file), (["w", "o"], .file),
    (["w", "s"], .executable)]⟩

end PrologImage
