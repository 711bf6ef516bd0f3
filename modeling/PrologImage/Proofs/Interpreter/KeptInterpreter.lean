import PrologImage.Proofs.Interpreter.BadSource

/-!
Contract: what the parts of a backend do where an interpreter is kept.

Owns: the searches that a log tells; the relation between a workbench and a later one that kept its
interpreter; and, for each part of a backend, that it works with the kept interpreter and does not
ask where one could be found.

Does not own: what happens where none is kept yet (`Proofs.Interpreter.Uses`).
-/

namespace PrologImage

/-! ## Searches in the log -/

namespace LogRecord

/-- A record that tells of a search for the interpreter. -/
def tellsSearch (record : LogRecord) : Bool :=
  "Resolved interpreter ".toList.isPrefixOf record.message.toList

theorem tellsSearch_append (level : LogLevel) (rest : String) :
    tellsSearch ⟨level, "Resolved interpreter " ++ rest⟩ = true := by
  rw [tellsSearch, List.isPrefixOf_iff_prefix, String.toList_append]
  generalize "Resolved interpreter ".toList = first
  exact List.prefix_append first rest.toList

/-- The second character tells the other records apart. -/
theorem tellsSearch_of_other {level : LogLevel} {message : String}
    (other : message.toList[1]? ≠ some 'e') : tellsSearch ⟨level, message⟩ = false := by
  rw [tellsSearch, Bool.eq_false_iff, Ne, List.isPrefixOf_iff_prefix]
  rintro ⟨rest, starts⟩
  rw [← starts] at other
  exact other rfl

end LogRecord

namespace Session

/-- The searches that the log of a session tells, in order. -/
def searches (session : Session) : List LogRecord :=
  session.log.filter (·.tellsSearch)

/-- A record, if it matters enough for the log. -/
def taken (session : Session) (record : LogRecord) : List LogRecord :=
  if session.threshold.rank ≤ record.level.rank then [record] else []

theorem log_addRecord (session : Session) (level : LogLevel) (message : String) :
    (session.addRecord level message).log = session.log ++ session.taken ⟨level, message⟩ := by
  unfold addRecord taken
  split
  · rfl
  · exact (List.append_nil _).symm

theorem searches_addRecord (session : Session) (level : LogLevel) (message : String) :
    (session.addRecord level message).searches =
      session.searches ++ (session.taken ⟨level, message⟩).filter (·.tellsSearch) := by
  rw [searches, log_addRecord, List.filter_append, searches]

theorem searches_addRecord_of_other (session : Session) {level : LogLevel} {message : String}
    (other : LogRecord.tellsSearch ⟨level, message⟩ = false) :
    (session.addRecord level message).searches = session.searches := by
  rw [searches_addRecord, taken]
  split <;> simp [other]

theorem searches_addRecord_of_search (session : Session) {level : LogLevel} {message : String}
    (search : LogRecord.tellsSearch ⟨level, message⟩ = true) :
    (session.addRecord level message).searches =
      session.searches ++ session.taken ⟨level, message⟩ := by
  rw [searches_addRecord, taken]
  split <;> simp [search]

end Session

namespace Interpreter

/-- The record of a search. -/
def searchRecord (site : Site) (settings : Settings) (files : FileSystem) : LogRecord :=
  ⟨.debug, searchMessage site settings.explicit files⟩

theorem searchMessage_eq (site : Site) (explicit : Option String) (files : FileSystem) :
    ∃ rest, searchMessage site explicit files = "Resolved interpreter " ++ rest := by
  have message (name found : String) : (s!"Resolved interpreter {name} to {found}" : String) =
      "Resolved interpreter " ++ (name ++ (" to " ++ found)) := by
    simp only [toString, String.append_assoc]
  exact ⟨_, message _ _⟩

theorem tellsSearch_searchRecord (site : Site) (settings : Settings) (files : FileSystem) :
    (searchRecord site settings files).tellsSearch = true := by
  obtain ⟨rest, message⟩ := searchMessage_eq site settings.explicit files
  rw [searchRecord, message]
  apply LogRecord.tellsSearch_append

/-- Where no interpreter is kept, asking for one searches once. -/
theorem Workbench.searches_afterSearch {site : Site} {settings : Settings} {workbench : Workbench}
    (fresh : workbench.executable = none) :
    (workbench.afterSearch site settings).session.searches =
      workbench.session.searches ++
        workbench.session.taken (searchRecord site settings workbench.session.files) := by
  simp only [afterSearch, fresh]
  exact Session.searches_addRecord_of_search _ (tellsSearch_searchRecord site settings _)

/-! ## Work with a kept interpreter -/

/-- A command line that starts with an interpreter. -/
def Heads (program : Path) (command : List String) : Prop :=
  command.head? = some program.text

/-- At most some number of processes were started since, and they run an interpreter for the time
that is set. -/
def Starts (settings : Settings) (program : Path) (most : Nat) (before after : Workbench) : Prop :=
  ∃ processes, after.session.started = before.session.started ++ processes ∧
    processes.length ≤ most ∧
    ∀ process ∈ processes, process.limit = settings.limit ∧ Heads program process.command

namespace Starts

variable {settings : Settings} {program : Path} {first second : Nat}
  {before middle after : Workbench}

theorem of_same (started : after.session.started = before.session.started) (most : Nat) :
    Starts settings program most before after :=
  ⟨[], by rw [started, List.append_nil], Nat.zero_le _, by simp⟩

theorem trans (left : Starts settings program first before middle)
    (right : Starts settings program second middle after) :
    Starts settings program (first + second) before after := by
  obtain ⟨earlier, earlierStarted, earlierFew, earlierRun⟩ := left
  obtain ⟨later, laterStarted, laterFew, laterRun⟩ := right
  refine ⟨earlier ++ later, ?_, ?_, ?_⟩
  · rw [laterStarted, earlierStarted, List.append_assoc]
  · rw [List.length_append]
    omega
  · exact List.forall_mem_append.mpr ⟨earlierRun, laterRun⟩

theorem weaken (starts : Starts settings program first before after) (fewer : first ≤ second) :
    Starts settings program second before after := by
  obtain ⟨processes, started, few, run⟩ := starts
  exact ⟨processes, started, few.trans fewer, run⟩

end Starts

/-- One workbench comes after another one, with the same interpreter all the way and without a
search. -/
structure WorksWith (settings : Settings) (program : Path) (most : Nat)
    (before after : Workbench) : Prop where
  kept : after.executable = some program
  searches : after.session.searches = before.session.searches
  starts : Starts settings program most before after

namespace WorksWith

variable {settings : Settings} {program : Path} {first second : Nat}
  {before middle after : Workbench}

theorem refl (kept : before.executable = some program) (most : Nat) :
    WorksWith settings program most before before :=
  ⟨kept, rfl, .of_same rfl most⟩

theorem trans (left : WorksWith settings program first before middle)
    (right : WorksWith settings program second middle after) :
    WorksWith settings program (first + second) before after :=
  ⟨right.kept, right.searches.trans left.searches, left.starts.trans right.starts⟩

theorem weaken (works : WorksWith settings program first before after) (fewer : first ≤ second) :
    WorksWith settings program second before after :=
  ⟨works.kept, works.searches, works.starts.weaken fewer⟩

end WorksWith

/-- A step that works with an interpreter wherever this one is kept, and what holds of the values
that it hands over. It never asks where the interpreter could be found: its twin, which would look
elsewhere, has the same outcome. -/
def Employs {α : Type} (settings : Settings) (program : Path) (most : Nat)
    (step twin : Step Workbench α) (Good : α → Prop) : Prop :=
  ∀ workbench, workbench.executable = some program →
    twin.outcome workbench = step.outcome workbench ∧
    WorksWith settings program most workbench (step.outcome workbench).2 ∧
    ∀ value, (step.outcome workbench).1 = .ok value → Good value

namespace Employs

variable {α β : Type} {settings : Settings} {program : Path} {first second most : Nat}
  {step twin : Step Workbench α} {Good : α → Prop} {Fine : β → Prop}

/-- A step that reads the workbench and leaves it as it is. -/
theorem of_reading {result : Workbench → Except Fault α}
    (reads : ∀ workbench, step.outcome workbench = (result workbench, workbench))
    (twinReads : ∀ workbench, twin.outcome workbench = (result workbench, workbench))
    (good : ∀ workbench value, result workbench = .ok value → Good value) :
    Employs settings program most step twin Good := by
  intro workbench kept
  rw [reads, twinReads]
  exact ⟨rfl, .refl kept most, good workbench⟩

theorem of_pure {value : α} (good : Good value) :
    Employs settings program most (pure value) (pure value) Good := by
  refine .of_reading (fun _ => rfl) (fun _ => rfl) ?_
  rintro _ _ ⟨⟩
  exact good

theorem of_throw (fault : Fault) :
    Employs settings program most (throw fault) (throw fault) Good := by
  refine .of_reading (fun _ => rfl) (fun _ => rfl) ?_
  rintro _ _ ⟨⟩

theorem of_ofForeign (result : Except ForeignError α) :
    Employs settings program most (Step.ofForeign result) (Step.ofForeign result) fun _ => True :=
  .of_reading (Step.outcome_ofForeign result) (Step.outcome_ofForeign result)
    fun _ _ _ => trivial

theorem of_steps {next twinNext : α → Step Workbench β}
    (left : Employs settings program first step twin Good)
    (right : ∀ value, Good value →
      Employs settings program second (next value) (twinNext value) Fine) :
    Employs settings program (first + second) (step >>= next) (twin >>= twinNext) Fine := by
  intro workbench kept
  obtain ⟨same, works, good⟩ := left workbench kept
  rw [Step.outcome_bind, Step.outcome_bind, same]
  rcases ended : step.outcome workbench with ⟨fault | value, middle⟩ <;> rw [ended] at works good
  · exact ⟨rfl, works.weaken (Nat.le_add_right _ _), by simp⟩
  · obtain ⟨sameLater, later, fine⟩ := right value (good value rfl) middle works.kept
    exact ⟨sameLater, works.trans later, fine⟩

/-- A step that starts nothing, and another one. -/
theorem of_bind {next twinNext : α → Step Workbench β}
    (left : Employs settings program 0 step twin Good)
    (right : ∀ value, Good value →
      Employs settings program most (next value) (twinNext value) Fine) :
    Employs settings program most (step >>= next) (twin >>= twinNext) Fine := by
  rw [← Nat.zero_add most]
  exact of_steps left right

/-- A step, and another one that starts nothing. -/
theorem of_bind_idle {next twinNext : α → Step Workbench β}
    (left : Employs settings program most step twin Good)
    (right : ∀ value, Good value →
      Employs settings program 0 (next value) (twinNext value) Fine) :
    Employs settings program most (step >>= next) (twin >>= twinNext) Fine :=
  of_steps left right

theorem of_map {change : α → β} (given : Employs settings program most step twin Good)
    (fine : ∀ value, Good value → Fine (change value)) :
    Employs settings program most (change <$> step) (change <$> twin) Fine := by
  intro workbench kept
  obtain ⟨same, works, good⟩ := given workbench kept
  rw [Step.outcome_map, Step.outcome_map, same]
  rcases ended : step.outcome workbench with ⟨fault | value, after⟩ <;> rw [ended] at works good
  · exact ⟨rfl, works, by simp⟩
  · refine ⟨rfl, works, ?_⟩
    rintro _ ⟨⟩
    exact fine value (good value rfl)

theorem of_debug {message : String} (other : LogRecord.tellsSearch ⟨.debug, message⟩ = false) :
    Employs settings program 0 (Workbench.ofSession (Session.debug message))
      (Workbench.ofSession (Session.debug message)) fun _ => True := by
  intro workbench kept
  have silent := Session.Silent.addRecord workbench.session .debug message
  have searches : (workbench.session.addRecord .debug message).searches =
      workbench.session.searches := workbench.session.searches_addRecord_of_other other
  exact ⟨rfl, ⟨kept, searches, .of_same (silent.started.trans (List.append_nil _)) 0⟩,
    fun _ _ => trivial⟩

theorem of_run {command : List String} (heads : Heads program command) :
    Employs settings program 1 (Workbench.ofSession (Session.run ⟨command, settings.limit⟩))
      (Workbench.ofSession (Session.run ⟨command, settings.limit⟩)) fun _ => True :=
  fun _ kept => ⟨rfl, ⟨kept, rfl, [⟨command, settings.limit⟩], rfl, le_rfl,
    List.forall_mem_singleton.mpr ⟨rfl, heads⟩⟩, fun _ _ => trivial⟩

end Employs

/-- Looks for the image unless there was an error. -/
def lookUnless (site : Site) (output : Path) :
    Option Diagnostic → Step Workbench (Option Diagnostic)
  | some diagnostic => return some diagnostic
  | none => lookForImage site output

theorem saveImage_outcome_bind (site : Site) (settings : Settings) (sources : List Path)
    (output : Path) (options : SaveOptions) (verbose : Bool) (workbench : Workbench) :
    (saveImage site settings sources output options verbose).outcome workbench =
      (Question.ask site settings { sources, image := some (output, options), verbose } >>=
        lookUnless site output).outcome workbench := by
  rw [saveImage_outcome_eq, Step.outcome_bind]
  rcases (Question.ask site settings
    { sources, image := some (output, options), verbose }).outcome workbench with
    ⟨fault | (_ | diagnostic), after⟩ <;> rfl

/-- Two backends in the same directory with the same limit, which may look for the interpreter in
different places. -/
structure Alike (site other : Site) (settings others : Settings) : Prop where
  directory : other.workingDirectory = site.workingDirectory
  limit : others.limit = settings.limit

section Kept

variable {site other : Site} {settings others : Settings} (program : Path)

theorem employs_executable :
    Employs settings program 0 (executable site settings) (executable other others)
      (· = program) := by
  intro workbench kept
  rw [executable_outcome, executable_outcome, Workbench.interpreter_of_kept kept,
    Workbench.interpreter_of_kept kept, Workbench.afterSearch_of_kept kept,
    Workbench.afterSearch_of_kept kept]
  refine ⟨rfl, .refl kept 0, ?_⟩
  rintro _ ⟨⟩
  rfl

variable (alike : Alike site other settings others)

include alike

theorem employs_resolved (path : Path) :
    Employs settings program 0 (resolved site path) (resolved other path) fun _ => True :=
  .of_reading (resolved_outcome site path)
    (fun workbench => by rw [resolved_outcome, alike.directory]) fun _ _ _ => trivial

theorem employs_resolvedAll (paths : List Path) :
    Employs settings program 0 (resolvedAll site paths) (resolvedAll other paths) fun _ => True :=
  .of_reading (resolvedAll_outcome site paths)
    (fun workbench => by rw [resolvedAll_outcome, alike.directory]) fun _ _ _ => trivial

theorem employs_checkSources (sources : List Path) :
    Employs settings program 0 (checkSources site sources) (checkSources other sources)
      fun _ => True :=
  .of_reading (Question.checkSources_outcome site sources)
    (fun workbench => by rw [Question.checkSources_outcome, alike.directory]) fun _ _ _ => trivial

theorem employs_lookUnless (output : Path) (diagnostic : Option Diagnostic) :
    Employs settings program 0 (lookUnless site output diagnostic)
      (lookUnless other output diagnostic) fun _ => True := by
  cases diagnostic with
  | some diagnostic => exact .of_pure trivial
  | none =>
      exact .of_reading (lookForImage_outcome site output)
        (fun workbench => by rw [lookUnless, lookForImage_outcome, alike.directory])
        fun _ _ _ => trivial

theorem employs_consultCommand (sources : List Path) (verbose : Bool) :
    Employs settings program 0 (consultCommand site settings sources verbose)
      (consultCommand other others sources verbose) (Heads program) := by
  refine .of_bind (employs_executable program) ?_
  rintro _ rfl
  refine .of_bind (employs_resolvedAll _ alike sources) ?_
  intro targets _
  exact .of_pure rfl

theorem employs_saveCommand (sources : List Path) (output : Path) (options : SaveOptions)
    (verbose : Bool) :
    Employs settings program 0 (saveCommand site settings sources output options verbose)
      (saveCommand other others sources output options verbose) (Heads program) := by
  refine .of_bind (employs_resolved program alike output) ?_
  intro image _
  refine .of_bind (employs_executable program) ?_
  rintro _ rfl
  refine .of_bind (employs_resolvedAll _ alike sources) ?_
  intro targets _
  exact .of_pure rfl

omit alike in
theorem employs_logCompletion (completion : Completion) :
    Employs settings program 0 (logCompletion completion) (logCompletion completion)
      fun _ => True := by
  refine .of_bind (.of_debug (LogRecord.tellsSearch_of_other ?_)) ?_
  · simp [toString]
  · intro _ _
    dsimp only
    split
    · refine .of_debug (LogRecord.tellsSearch_of_other ?_)
      simp
    · exact .of_pure trivial

/-- Running a command line starts one process. When that cannot be started, the interpreter that is
named in the complaint is the kept one. -/
theorem employs_runInterpreter {command : List String} (heads : Heads program command) :
    Employs settings program 1 (runInterpreter site settings command)
      (runInterpreter other others command) fun _ => True := by
  refine .of_bind
    (.of_debug (LogRecord.tellsSearch_of_other ?_)) fun _ _ => ?_
  · simp
  rw [alike.limit]
  refine .of_bind_idle (.of_run heads) ?_
  intro ending _
  cases ending with
  | completed completion =>
      exact .of_bind (employs_logCompletion program completion) fun _ _ =>
        .of_pure trivial
  | timedOut => exact .of_throw _
  | interrupted => exact .of_throw _
  | failed error =>
      cases error with
      | system error =>
          exact .of_bind (employs_executable program) fun _ _ => .of_throw _
      | _ => exact .of_throw _

theorem employs_command (question : Question) :
    Employs settings program 0 (question.command site settings)
      (question.command other others) (Heads program) := by
  unfold Question.command
  split
  · exact employs_consultCommand program alike _ _
  · exact employs_saveCommand program alike _ _ _ _

theorem employs_ask (question : Question) :
    Employs settings program 1 (question.ask site settings) (question.ask other others)
      fun _ => True := by
  refine .of_bind
    (employs_checkSources program alike question.sources) ?_
  rintro (_ | diagnostic) _
  · refine .of_bind (employs_command program alike question) ?_
    intro command heads
    exact .of_bind_idle (employs_runInterpreter program alike heads) fun _ _ =>
      .of_ofForeign _
  · exact .of_pure trivial

theorem employs_consult (sources : List Path) (verbose : Bool) :
    Employs settings program 1 (consult site settings sources verbose)
      (consult other others sources verbose) fun _ => True :=
  employs_ask program alike { sources, verbose }

theorem employs_saveImage (sources : List Path) (output : Path) (options : SaveOptions)
    (verbose : Bool) :
    Employs settings program 1 (saveImage site settings sources output options verbose)
      (saveImage other others sources output options verbose) fun _ => True := by
  have bound := Employs.of_bind_idle
    (employs_ask program alike { sources, image := some (output, options), verbose })
    fun diagnostic _ => employs_lookUnless program alike output diagnostic
  intro workbench kept
  rw [saveImage_outcome_bind, saveImage_outcome_bind]
  exact bound workbench kept

end Kept

end Interpreter

end PrologImage
