import PrologImage.Proofs.Interpreter.Uses

/-!
Contract: the interpreter is searched for when it is first needed, and what is found is kept.

Owns: sequences of uses of a backend, with changes of the files in between; the command lines that
they make; and the theorem that all of these start with the same path, also when the files change.

Does not own: what a search finds (`Interpreter.Locate`), and the rest of a command line
(`Proofs.Interpreter.GoalReader`).

The induction is on the sequence, with the workbench left open. As long as no interpreter is kept, a
use that finds none or needs none may be dropped; the first that finds one settles all that follow.
-/

namespace PrologImage.Interpreter

variable (site : Site) (settings : Settings)

/-! ## Sequences of uses -/

/-- The workbench after a sequence of uses. -/
def Workbench.afterUses (uses : List Use) (workbench : Workbench) : Workbench :=
  uses.foldl (fun reached use => ((use.perform site settings).outcome reached).2) workbench

theorem Workbench.afterUses_cons (use : Use) (rest : List Use) (workbench : Workbench) :
    workbench.afterUses site settings (use :: rest) =
      ((use.perform site settings).outcome workbench).2.afterUses site settings rest :=
  rfl

/-- The command lines between two workbenches: one that is handed over, and those that were
started. -/
def commandLinesTo (before : Workbench) (outcome : Except Fault Yield × Workbench) :
    List (List String) :=
  (match outcome.1 with
    | .ok (.command arguments) => [arguments]
    | _ => []) ++
  (outcome.2.session.started.drop before.session.started.length).map (·.command)

/-- All command lines of a sequence of uses. -/
def commandLines : List Use → Workbench → List (List String)
  | [], _ => []
  | use :: rest, workbench =>
      let outcome := (use.perform site settings).outcome workbench
      commandLinesTo workbench outcome ++ commandLines rest outcome.2

theorem commandLinesTo_of_worksOn {use : Use} {program : Path} {before : Workbench}
    (worksOn : use.WorksOn site settings program before) :
    ∀ command ∈ commandLinesTo before ((use.perform site settings).outcome before),
      Heads program command := by
  obtain ⟨processes, started, _, run⟩ := worksOn.works.starts
  rw [commandLinesTo, List.forall_mem_append]
  constructor
  · intro command made
    split at made
    · next arguments handed =>
        rw [List.mem_singleton.mp made]
        exact worksOn.fits _ handed
    · cases made
  · rw [started, List.drop_left, List.forall_mem_map]
    exact fun process isStarted => (run process isStarted).2

theorem commandLinesTo_of_spares {before : Workbench} {outcome : Except Fault Yield × Workbench}
    (spares : Spares before outcome) : commandLinesTo before outcome = [] := by
  rw [commandLinesTo, spares.started, List.drop_length, List.map_nil, List.append_nil]
  split
  · next arguments handed => exact (spares.unnamed _ handed).elim
  · rfl

theorem started_afterSearch (before : Workbench) :
    (before.afterSearch site settings).session.started = before.session.started :=
  (before.silent_afterSearch site settings).started.trans (List.append_nil _)

/-- A use that fails to find an interpreter makes no command line. -/
theorem commandLinesTo_of_missing (before : Workbench) (fault : Fault) :
    commandLinesTo before (.error fault, before.afterSearch site settings) = [] := by
  rw [commandLinesTo, started_afterSearch, List.drop_length]
  rfl

/-- A search starts nothing, so what is made afterwards is all that is made. -/
theorem commandLinesTo_of_found {before : Workbench} {outcome : Except Fault Yield × Workbench} :
    commandLinesTo before outcome = commandLinesTo (before.afterSearch site settings) outcome := by
  rw [commandLinesTo, commandLinesTo, started_afterSearch]

/-- All processes and command lines of a sequence of uses have the same interpreter. -/
structure AllWith (uses : List Use) (program : Path) (before : Workbench) : Prop where
  starts : Starts settings program (uses.map Use.mostProcesses).sum before
    (before.afterUses site settings uses)
  heads : ∀ command ∈ commandLines site settings uses before, Heads program command

/-- Once an interpreter is kept, it is kept for good, and nothing is searched for again. -/
theorem kept_throughout (uses : List Use) {program : Path} {before : Workbench}
    (kept : before.executable = some program) :
    WorksWith settings program (uses.map Use.mostProcesses).sum before
        (before.afterUses site settings uses) ∧
      AllWith site settings uses program before := by
  induction uses generalizing before with
  | nil => exact ⟨.refl kept 0, .of_same rfl 0, by simp [commandLines]⟩
  | cons use rest inductionHypothesis =>
      have worksOn := use.worksOn_of_kept site settings kept
      obtain ⟨works, all⟩ := inductionHypothesis worksOn.works.kept
      refine ⟨worksOn.works.trans works, worksOn.works.starts.trans all.starts, ?_⟩
      exact List.forall_mem_append.mpr
        ⟨commandLinesTo_of_worksOn site settings worksOn, all.heads⟩

/-- The first use that needs the interpreter and finds one, after others that kept none. -/
structure FirstFind (uses : List Use) (program : Path) (before : Workbench) : Prop where
  fresh : before.executable = none
  turn : ∃ earlier use later, uses = earlier ++ use :: later ∧
    (before.afterUses site settings earlier).executable = none ∧
    use.Needs site (before.afterUses site settings earlier).session.files ∧
    (before.afterUses site settings earlier).interpreter site settings = .ok program ∧
    commandLines site settings earlier before = []

/-- What a sequence of uses has done about the interpreter: either none is kept and none was
needed with success, or there is one, which was given or found first, and all is done with it. -/
def Settled (uses : List Use) (before : Workbench) : Prop :=
  match (before.afterUses site settings uses).executable with
  | none =>
      (before.afterUses site settings uses).session.started = before.session.started ∧
        commandLines site settings uses before = []
  | some program =>
      (before.executable = some program ∨ FirstFind site settings uses program before) ∧
        AllWith site settings uses program before

theorem settled_of_kept (uses : List Use) {program : Path} {before : Workbench}
    (kept : before.executable = some program) : Settled site settings uses before := by
  obtain ⟨works, all⟩ := kept_throughout site settings uses kept
  rw [Settled, works.kept]
  exact ⟨.inl kept, all⟩

/-- A use that leaves no interpreter behind and makes no command line is as good as none. -/
theorem settled_cons_of_nothing {use : Use} {rest : List Use} {before after : Workbench}
    (performed : ((use.perform site settings).outcome before).2 = after)
    (fresh : before.executable = none) (nothing : after.executable = none)
    (started : after.session.started = before.session.started)
    (unmade : commandLinesTo before ((use.perform site settings).outcome before) = [])
    (settled : Settled site settings rest after) :
    Settled site settings (use :: rest) before := by
  have reached (uses : List Use) : before.afterUses site settings (use :: uses) =
      after.afterUses site settings uses := by
    rw [Workbench.afterUses_cons, performed]
  have lines (uses : List Use) : commandLines site settings (use :: uses) before =
      commandLines site settings uses after := by
    rw [commandLines, unmade, List.nil_append, performed]
  unfold Settled at settled ⊢
  rw [reached rest]
  generalize (after.afterUses site settings rest).executable = kept at settled ⊢
  rcases kept with _ | program
  · exact ⟨settled.1.trans started, (lines rest).trans settled.2⟩
  · obtain ⟨given | ⟨_, earlier, finder, later, split, found⟩, all⟩ := settled
    · rw [nothing] at given
      cases given
    · refine ⟨.inr ⟨fresh, use :: earlier, finder, later, congrArg (use :: ·) split, ?_⟩, ?_, ?_⟩
      · rw [lines, reached]
        exact found
      · rw [reached]
        exact (Starts.of_same started use.mostProcesses).trans all.starts
      · rw [lines]
        exact all.heads

section Found

variable {use : Use} {before : Workbench} {program : Path} (fresh : before.executable = none)
  (needs : use.Needs site before.session.files)
  (found : before.interpreter site settings = .ok program) (rest : List Use)

include fresh needs found

/-- A sequence that begins with a search goes on as if what it found had been kept before. -/
theorem afterUses_cons_of_found :
    before.afterUses site settings (use :: rest) =
      (before.afterSearch site settings).afterUses site settings (use :: rest) := by
  obtain ⟨performed, _⟩ := (use.course site settings before).found fresh needs program found
  rw [Workbench.afterUses_cons, performed, Workbench.afterUses_cons]

/-- A use that finds an interpreter settles the whole sequence. -/
theorem settled_cons_of_found : Settled site settings (use :: rest) before := by
  obtain ⟨performed, _⟩ := (use.course site settings before).found fresh needs program found
  have reached := afterUses_cons_of_found site settings fresh needs found rest
  have lines : commandLines site settings (use :: rest) before =
      commandLines site settings (use :: rest) (before.afterSearch site settings) := by
    rw [commandLines, commandLines, ← performed, commandLinesTo_of_found site settings]
  obtain ⟨works, all⟩ :=
    kept_throughout site settings (use :: rest) (Workbench.executable_afterSearch found)
  rw [Settled, reached, works.kept]
  refine ⟨.inr ⟨fresh, [], use, rest, rfl, fresh, needs, found, rfl⟩, ?_, ?_⟩
  · rw [reached, ← Nat.zero_add (List.sum _)]
    exact (Starts.of_same (started_afterSearch site settings before) 0).trans all.starts
  · rw [lines]
    exact all.heads

end Found

theorem settled (uses : List Use) (before : Workbench) : Settled site settings uses before := by
  induction uses generalizing before with
  | nil =>
      cases kept : before.executable with
      | none => simp [Settled, Workbench.afterUses, kept, commandLines]
      | some program => exact settled_of_kept site settings [] kept
  | cons use rest inductionHypothesis =>
      cases kept : before.executable with
      | some program => exact settled_of_kept site settings (use :: rest) kept
      | none =>
          have course := use.course site settings before
          by_cases needs : use.Needs site before.session.files
          · cases found : before.interpreter site settings with
            | error fault =>
                obtain ⟨failed, nothing⟩ := course.missing kept needs fault found
                refine settled_cons_of_nothing site settings (congrArg Prod.snd failed) kept
                  nothing (started_afterSearch site settings before) ?_ (inductionHypothesis _)
                rw [failed]
                exact commandLinesTo_of_missing site settings before fault
            | ok program => exact settled_cons_of_found site settings kept needs found rest
          · have spares := course.spared needs
            exact settled_cons_of_nothing site settings rfl kept (spares.executable.trans kept)
              spares.started (commandLinesTo_of_spares spares) (inductionHypothesis _)

/-- The interpreter is searched for when it is first needed, and what is found is kept.

At every point of a sequence of uses, whatever the next use is, it does one of these: it works with
the interpreter that is kept, needs none, fails to find one and keeps nothing, or finds one and
works with that. An interpreter that is kept at the start is kept to the end without a search. And
at the end either nothing was started and no command line was made, or there is one interpreter,
given at the start or found by the first use that got to need it with success, that all command
lines start with and all processes run, for the time that is set, however the files change. -/
theorem interpreter_is_found_once_and_kept (uses : List Use) (before : Workbench) :
    (∀ use : Use, use.Course site settings (before.afterUses site settings uses)) ∧
    (∀ program, before.executable = some program →
      WorksWith settings program (uses.map Use.mostProcesses).sum before
        (before.afterUses site settings uses)) ∧
    Settled site settings uses before :=
  ⟨fun use => use.course site settings _,
    fun _ kept => (kept_throughout site settings uses kept).1, settled site settings uses before⟩

/-! ## An interpreter that comes and goes -/

/-- The settings of a backend that looks for an interpreter `i` in the working directory. -/
def awaiting : Settings := { explicit := some "./i" }

/-- The files of the sample machine while this interpreter is there. -/
def attendedFiles : FileSystem := sampleFiles.place ["w", "i"] .executable

theorem nameSought_awaiting : nameSought sampleSite awaiting.explicit = "./i" := rfl

theorem interpreter_awaiting_of_absent {workbench : Workbench}
    (fresh : workbench.executable = none) (absent : workbench.session.files = sampleFiles) :
    workbench.interpreter sampleSite awaiting =
      .error (.reported (notInstalled (installCommands "Linux"))) := by
  have nowhere : find? sampleSite sampleFiles "./i" = none := by cbv
  simp only [Workbench.interpreter, fresh, absent, nameSought_awaiting, nowhere]
  rfl

theorem interpreter_awaiting_of_present {workbench : Workbench}
    (fresh : workbench.executable = none) (present : workbench.session.files = attendedFiles) :
    workbench.interpreter sampleSite awaiting = .ok (Path.ofText "/w/i") := by
  have there : find? sampleSite attendedFiles "./i" = some "./i" := by cbv
  have place : attendedFiles.resolve sampleSite.workingDirectory (Path.ofText "./i") =
      .ok (Path.ofText "/w/i") := by cbv
  simp only [Workbench.interpreter, fresh, present, nameSought_awaiting, there, place]
  rfl

/-- The interpreter comes, is used, and goes again. -/
def passingUses : List Use :=
  [.changeFiles (·.place ["w", "i"] .executable), .consult [] false,
    .changeFiles (·.remove ["w", "i"]), .consultCommand [] true]

/-- Where the interpreter is missing at first, a use fails; once it came, all command lines are its
own, also after it is gone. One that was given is kept although it is nowhere. -/
theorem interpreter_is_found_once_and_kept_in_passing :
    let fresh : Workbench := ⟨{ files := sampleFiles }, none⟩
    let given : Workbench := ⟨{ files := sampleFiles }, some (Path.ofText "/x")⟩
    let uses := Use.executable :: passingUses
    ((Use.executable.perform sampleSite awaiting).outcome fresh).1 =
      .error (.reported (notInstalled (installCommands "Linux"))) ∧
    (fresh.afterUses sampleSite awaiting uses).executable = some (Path.ofText "/w/i") ∧
    (∀ command ∈ commandLines sampleSite awaiting uses fresh,
      Heads (Path.ofText "/w/i") command) ∧
    WorksWith awaiting (Path.ofText "/x") 1 given (given.afterUses sampleSite awaiting uses) := by
  intro fresh given uses
  obtain ⟨failed, nothing⟩ := (Use.executable.course sampleSite awaiting fresh).missing rfl trivial
    _ (interpreter_awaiting_of_absent rfl rfl)
  have files := (fresh.silent_afterSearch sampleSite awaiting).files
  -- After the search that fails, the interpreter is put where it was looked for.
  let attended : Workbench :=
    ((Use.changeFiles (·.place ["w", "i"] .executable)).perform sampleSite awaiting).outcome
      (fresh.afterSearch sampleSite awaiting) |>.2
  have present : attended.session.files = attendedFiles :=
    congrArg (FileSystem.place · ["w", "i"] .executable) files
  have none : attended.executable = none := nothing
  have found := interpreter_awaiting_of_present none present
  have needs : (Use.consult [] false).Needs sampleSite attended.session.files := by
    simp [Use.Needs]
  have reached : fresh.afterUses sampleSite awaiting uses =
      attended.afterUses sampleSite awaiting passingUses.tail := by
    rw [Workbench.afterUses_cons, failed, passingUses, Workbench.afterUses_cons, List.tail_cons]
  have kept : (fresh.afterUses sampleSite awaiting uses).executable =
      some (Path.ofText "/w/i") := by
    rw [reached, passingUses, List.tail_cons,
      afterUses_cons_of_found sampleSite awaiting none needs found]
    exact (kept_throughout sampleSite awaiting _ (Workbench.executable_afterSearch found)).1.kept
  obtain ⟨_, _, settled⟩ := interpreter_is_found_once_and_kept sampleSite awaiting uses fresh
  rw [Settled, kept] at settled
  obtain ⟨_, works, _⟩ := interpreter_is_found_once_and_kept sampleSite awaiting uses given
  exact ⟨congrArg Prod.fst failed, kept, settled.2.heads, works _ rfl⟩

end PrologImage.Interpreter
