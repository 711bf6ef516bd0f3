import PrologImage.Proofs.FileSystem.PathText
import PrologImage.Proofs.Interpreter.Question

/-!
Contract: goals read back by the grammar of the interpreter give the paths they were made from.

Owns: a reader of quoted atoms and of the two goals, the round trip through it, that resolved paths
are absolute, and the theorem that the command lines encode their paths without loss.

Does not own: which paths a resolution leads to (`FileSystem.Resolve`).

Between quotes a backslash stands before a backslash or a quote, and two quotes stand for one. A
quote that is not followed by another one ends the atom.
-/

namespace PrologImage

namespace Interpreter

/-! ## Reading -/

/-- Puts a character in front of the text that was read. -/
def extendRead (character : Char) : List Char × List Char → List Char × List Char
  | (text, rest) => (character :: text, rest)

/-- Reads on after the opening quote of an atom: its text, and what follows the closing quote. -/
def readQuoted : List Char → Option (List Char × List Char)
  | [] => none
  | '\\' :: escaped :: rest =>
      if escaped = '\\' ∨ escaped = '\'' then (readQuoted rest).map (extendRead escaped) else none
  | '\'' :: '\'' :: rest => (readQuoted rest).map (extendRead '\'')
  | '\'' :: rest => some ([], rest)
  | character :: rest => (readQuoted rest).map (extendRead character)

/-- Reads a quoted atom: its text, and what follows it. -/
def readAtom : List Char → Option (String × List Char)
  | '\'' :: quoted => (readQuoted quoted).map fun (text, rest) => (String.ofList text, rest)
  | _ => none

private theorem length_of_extended {tail text rest : List Char} {character : Char}
    (shorter : ∀ {text rest}, readQuoted tail = some (text, rest) → rest.length < tail.length)
    (read : (readQuoted tail).map (extendRead character) = some (text, rest)) :
    rest.length < tail.length := by
  obtain ⟨⟨inner, left⟩, readTail, same⟩ := Option.map_eq_some_iff.mp read
  cases same
  exact shorter readTail

/-- A reading leaves less than it was given. -/
theorem length_of_readQuoted {input text rest : List Char}
    (read : readQuoted input = some (text, rest)) : rest.length < input.length := by
  fun_induction readQuoted input generalizing text rest with
  | case1 => cases read
  | case2 escaped tail _ inductionHypothesis =>
      have shorter := length_of_extended inductionHypothesis read
      simp only [List.length_cons]
      omega
  | case3 => cases read
  | case4 tail inductionHypothesis =>
      have shorter := length_of_extended inductionHypothesis read
      simp only [List.length_cons]
      omega
  | case5 =>
      cases read
      simp
  | case6 character tail _ _ _ inductionHypothesis =>
      have shorter := length_of_extended inductionHypothesis read
      simp only [List.length_cons]
      omega

theorem length_of_readAtom {input rest : List Char} {atom : String}
    (read : readAtom input = some (atom, rest)) : rest.length < input.length := by
  unfold readAtom at read
  split at read
  · obtain ⟨⟨text, left⟩, readTail, same⟩ := Option.map_eq_some_iff.mp read
    cases same
    have shorter := length_of_readQuoted readTail
    simp only [List.length_cons]
    omega
  · cases read

/-- Reads one or more quoted atoms separated by commas. -/
def readAtoms (input : List Char) : Option (List String × List Char) :=
  match _read : readAtom input with
  | none => none
  | some (atom, ',' :: rest) => (readAtoms rest).map fun (atoms, left) => (atom :: atoms, left)
  | some (atom, rest) => some ([atom], rest)
termination_by input.length
decreasing_by
  have shorter := length_of_readAtom _read
  simp only [List.length_cons] at shorter
  omega

/-- Reads a list of quoted atoms up to its closing bracket. -/
def readAtomList : List Char → Option (List String × List Char)
  | ']' :: rest => some ([], rest)
  | input => do
      let (atoms, rest) ← readAtoms input
      match rest with
      | ']' :: rest => some (atoms, rest)
      | _ => none

/-- Reads a goal that loads sources: their names. All of the goal has to be read. -/
def readConsultGoal (goal : String) : Option (List String) := do
  let listed ← goal.toList.dropPrefix? "consult([".toList
  let (atoms, rest) ← readAtomList listed
  if rest = [')'] then some atoms else none

/-- What stands after the place of an image in a goal with the usual options. -/
def usualOptions : String := ", [goal(true), toplevel(prolog), stand_alone(false)])"

/-- Reads a goal that saves an image with the usual options: the name of its place. All of the goal
has to be read. -/
def readSaveGoal (goal : String) : Option String := do
  let place ← goal.toList.dropPrefix? "qsave_program(".toList
  let (atom, rest) ← readAtom place
  if rest = usualOptions.toList then some atom else none

/-! ## Reading what was written -/

/-- A quoted text ends at its closing quote, whatever it holds and whatever follows, unless another
quote follows. -/
theorem readQuoted_atomCharacters (text : List Char) {rest : List Char}
    (ends : rest.head? ≠ some '\'') :
    readQuoted (text.flatMap atomCharacter ++ '\'' :: rest) = some (text, rest) := by
  induction text with
  | nil =>
      rcases rest with _ | ⟨next, rest⟩
      · rfl
      · have different : next ≠ '\'' := by simpa using ends
        simp [readQuoted, different]
  | cons character others inductionHypothesis =>
      rw [List.flatMap_cons, List.append_assoc]
      by_cases escaped : character = '\\' ∨ character = '\''
      · simp only [atomCharacter, escaped, if_true, List.cons_append, List.nil_append, readQuoted]
        rw [inductionHypothesis]
        rfl
      · obtain ⟨noBackslash, noQuote⟩ := not_or.mp escaped
        simp only [atomCharacter, escaped, if_false, List.cons_append, List.nil_append]
        rw [readQuoted, inductionHypothesis]
        · rfl
        · intro _ _ same
          exact absurd same noBackslash
        · intro _ same
          exact absurd same noQuote
        · exact noQuote

/-- The characters of a written atom. -/
theorem toList_quoteAtom (text : String) :
    (quoteAtom text).toList = '\'' :: text.toList.flatMap atomCharacter ++ ['\''] := by
  rw [quoteAtom, String.toList_ofList]

theorem readAtom_quoteAtom (text : String) {rest : List Char} (ends : rest.head? ≠ some '\'') :
    readAtom ((quoteAtom text).toList ++ rest) = some (text, rest) := by
  rw [toList_quoteAtom, List.cons_append, List.cons_append, List.append_assoc,
    List.singleton_append, readAtom, readQuoted_atomCharacters _ ends]
  simp

theorem readAtoms_of_last {input rest : List Char} {atom : String}
    (read : readAtom input = some (atom, rest)) (noComma : rest.head? ≠ some ',') :
    readAtoms input = some ([atom], rest) := by
  rw [readAtoms]
  split
  · rename_i refused
    rw [read] at refused
    cases refused
  · rename_i continued
    rw [read] at continued
    cases continued
    simp at noComma
  · rename_i ended
    rw [read] at ended
    cases ended
    rfl

theorem readAtoms_of_comma {input rest : List Char} {atom : String}
    (read : readAtom input = some (atom, ',' :: rest)) :
    readAtoms input = (readAtoms rest).map fun (atoms, left) => (atom :: atoms, left) := by
  rw [readAtoms]
  split
  · rename_i refused
    rw [read] at refused
    cases refused
  · rename_i continued
    rw [read] at continued
    cases continued
    rfl
  · rename_i noComma ended
    rw [read] at ended
    cases ended
    exact absurd rfl (noComma rest)

/-- Written atoms with commas between them are read up to whatever follows, unless it goes on with
a quote or a comma. -/
theorem readAtoms_intercalate (first : String) (others : List String) {rest : List Char}
    (noQuote : rest.head? ≠ some '\'') (noComma : rest.head? ≠ some ',') :
    readAtoms ((String.intercalate "," ((first :: others).map quoteAtom)).toList ++ rest) =
      some (first :: others, rest) := by
  induction others generalizing first with
  | nil => exact readAtoms_of_last (readAtom_quoteAtom first noQuote) noComma
  | cons second others inductionHypothesis =>
      have written : (String.intercalate "," ((first :: second :: others).map quoteAtom)).toList ++
          rest = (quoteAtom first).toList ++
            ',' :: ((String.intercalate "," ((second :: others).map quoteAtom)).toList ++ rest) := by
        simp [String.toList_intercalate]
      rw [written, readAtoms_of_comma (readAtom_quoteAtom first (by simp)), inductionHypothesis]
      rfl

/-- The first written atom starts with its quote. -/
theorem head?_intercalate (first : String) (others : List String) (rest : List Char) :
    ((String.intercalate "," ((first :: others).map quoteAtom)).toList ++ rest).head? =
      some '\'' := by
  rw [String.toList_intercalate]
  cases others <;> simp [toList_quoteAtom]

theorem readAtomList_intercalate (names : List String) (rest : List Char) :
    readAtomList ((String.intercalate "," (names.map quoteAtom)).toList ++ ']' :: rest) =
      some (names, rest) := by
  cases names with
  | nil => rfl
  | cons first others =>
      have starts := head?_intercalate first others (']' :: rest)
      have read : readAtoms _ = some (first :: others, ']' :: rest) :=
        readAtoms_intercalate first others (by simp) (by simp)
      unfold readAtomList
      split
      · rename_i closed
        rw [closed] at starts
        simp at starts
      · rw [read]
        rfl

theorem read_consultGoal (targets : List Path) :
    readConsultGoal (consultGoal targets) = some (targets.map Path.text) := by
  have names : targets.map pathAtom = (targets.map Path.text).map quoteAtom := by
    simp [pathAtom]
  have written : (consultGoal targets).toList = "consult([".toList ++
      ((String.intercalate "," ((targets.map Path.text).map quoteAtom)).toList ++
        ']' :: [')']) := by
    rw [consultGoal, names]
    simp
  rw [readConsultGoal, written, List.dropPrefix?_append_of_beq _ (beq_self_eq_true _),
    Option.bind_eq_bind, Option.bind_some, readAtomList_intercalate, Option.bind_eq_bind,
    Option.bind_some]
  exact if_pos rfl

theorem saveGoal_usual (image : Path) :
    saveGoal image {} = "qsave_program(" ++ (quoteAtom image.text ++ usualOptions) := by
  have usual : usualOptions = ", [goal(" ++ ("true" ++ ("), toplevel(" ++ ("prolog" ++
      ("), stand_alone(" ++ ("false" ++ ")])"))))) := by decide +kernel
  rw [usual]
  unfold saveGoal pathAtom
  simp only [Bool.false_eq_true, if_false, String.append_assoc]

theorem read_saveGoal (image : Path) : readSaveGoal (saveGoal image {}) = some image.text := by
  have noQuote : usualOptions.toList.head? ≠ some '\'' := by decide
  rw [readSaveGoal, saveGoal_usual, String.toList_append, String.toList_append,
    List.dropPrefix?_append_of_beq _ (beq_self_eq_true _), Option.bind_eq_bind, Option.bind_some,
    readAtom_quoteAtom _ noQuote, Option.bind_eq_bind, Option.bind_some]
  exact if_pos rfl

/-! ## Command lines -/

section Commands

variable {site : Site} {settings : Settings} {workbench : Workbench} {sources targets : List Path}
  {output image program : Path} {options : SaveOptions} {verbose : Bool}

theorem Question.preparation_to_load (found : workbench.interpreter site settings = .ok program)
    (resolved : List.Forall₂ (fun source target =>
      workbench.session.files.resolve site.workingDirectory source = .ok target)
      sources targets) :
    preparation site settings { sources, verbose } workbench =
      .ok ⟨program, [consultGoal targets]⟩ :=
  (preparation_eq_ok_iff _ _ _ _ _).mpr ⟨[], targets, rfl, found, resolved, rfl⟩

theorem Question.preparation_to_save (found : workbench.interpreter site settings = .ok program)
    (resolved : List.Forall₂ (fun source target =>
      workbench.session.files.resolve site.workingDirectory source = .ok target)
      sources targets)
    (place : workbench.session.files.resolve site.workingDirectory output = .ok image) :
    preparation site settings { sources, image := some (output, options), verbose } workbench =
      .ok ⟨program, [consultGoal targets, saveGoal image options]⟩ := by
  have places := (saveGoals_eq_ok_iff site workbench.session.files sources output options verbose
    [saveGoal image options]).mpr ⟨image, place, rfl⟩
  exact (preparation_eq_ok_iff _ _ _ _ _).mpr ⟨_, targets, places, found, resolved, rfl⟩

theorem consultCommand_of_resolved (found : workbench.interpreter site settings = .ok program)
    (resolved : List.Forall₂ (fun source target =>
      workbench.session.files.resolve site.workingDirectory source = .ok target)
      sources targets) :
    ((consultCommand site settings sources verbose).outcome workbench).1 =
      .ok (commandLine program verbose [consultGoal targets]) := by
  let question : Question := { sources, verbose }
  obtain ⟨after, built, _⟩ := question.command_outcome site settings workbench
  rw [Question.preparation_to_load found resolved] at built
  exact congrArg Prod.fst built

theorem saveCommand_of_resolved (found : workbench.interpreter site settings = .ok program)
    (resolved : List.Forall₂ (fun source target =>
      workbench.session.files.resolve site.workingDirectory source = .ok target)
      sources targets)
    (place : workbench.session.files.resolve site.workingDirectory output = .ok image) :
    ((saveCommand site settings sources output options verbose).outcome workbench).1 =
      .ok (commandLine program verbose [consultGoal targets, saveGoal image options]) := by
  let question : Question := { sources, image := some (output, options), verbose }
  obtain ⟨after, built, _⟩ := question.command_outcome site settings workbench
  rw [Question.preparation_to_save found resolved place] at built
  exact congrArg Prod.fst built

/-- The command lines of an interpreter that is there have a fixed shape, and their goals read back
as exactly the resolved paths, which are absolute: a path is neither lost nor changed, and nothing
in it ends its atom early, whatever characters are in its names. -/
theorem commands_encode_paths (verbose : Bool)
    (found : workbench.interpreter site settings = .ok program)
    (resolved : List.Forall₂ (fun source target =>
      workbench.session.files.resolve site.workingDirectory source = .ok target)
      sources targets) :
    (∃ goal,
      ((consultCommand site settings sources verbose).outcome workbench).1 =
        .ok ([program.text, "--on-error=halt"] ++ (if verbose then [] else ["-q"]) ++
          ["-g", goal, "-t", "halt"]) ∧
      readConsultGoal goal = some (targets.map Path.text)) ∧
    (∀ output image,
      workbench.session.files.resolve site.workingDirectory output = .ok image →
        ∃ goal saving,
          ((saveCommand site settings sources output {} verbose).outcome workbench).1 =
            .ok ([program.text, "--on-error=halt"] ++ (if verbose then [] else ["-q"]) ++
              ["-g", goal, "-g", saving, "-t", "halt"]) ∧
          readConsultGoal goal = some (targets.map Path.text) ∧
          readSaveGoal saving = some image.text ∧
          image.text.toList.head? = some '/') ∧
    ∀ target ∈ targets, target.text.toList.head? = some '/' := by
  refine ⟨⟨consultGoal targets, ?_, read_consultGoal targets⟩, ?_, ?_⟩
  · rw [consultCommand_of_resolved found resolved]
    simp [commandLine, leadingArguments]
  · intro output image place
    refine ⟨consultGoal targets, saveGoal image {}, ?_, read_consultGoal targets,
      read_saveGoal image, Path.head?_text (FileSystem.anchor_of_resolve place)⟩
    rw [saveCommand_of_resolved found resolved place]
    simp [commandLine, leadingArguments]
  · induction resolved with
    | nil => simp
    | cons isTarget _ inductionHypothesis =>
        exact List.forall_mem_cons.mpr
          ⟨Path.head?_text (FileSystem.anchor_of_resolve isTarget), inductionHypothesis⟩

end Commands

/-- On the sample machine, names that end in a quote, a bracket or an escape come back as they
are. -/
theorem commands_encode_odd_names :
    let workbench : Workbench := ⟨{ files := sampleFiles }, some (Path.ofText "/w/s")⟩
    let sources := [Path.ofText "\\'", Path.ofText "']"]
    (∃ goal,
      ((consultCommand sampleSite {} sources false).outcome workbench).1 =
        .ok ["/w/s", "--on-error=halt", "-q", "-g", goal, "-t", "halt"] ∧
      readConsultGoal goal = some ["/w/\\'", "/w/']"]) ∧
    ∃ goal saving,
      ((saveCommand sampleSite {} sources (Path.ofText "']") {} true).outcome workbench).1 =
        .ok ["/w/s", "--on-error=halt", "-g", goal, "-g", saving, "-t", "halt"] ∧
      readConsultGoal goal = some ["/w/\\'", "/w/']"] ∧
      readSaveGoal saving = some "/w/']" := by
  intro workbench sources
  have first : sampleFiles.resolve ["w"] (Path.ofText "\\'") = .ok (Path.ofText "/w/\\'") := by cbv
  have second : sampleFiles.resolve ["w"] (Path.ofText "']") = .ok (Path.ofText "/w/']") := by cbv
  have names : [Path.ofText "/w/\\'", Path.ofText "/w/']"].map Path.text =
      ["/w/\\'", "/w/']"] := by decide +kernel
  have program : (Path.ofText "/w/s").text = "/w/s" := by decide +kernel
  have image : (Path.ofText "/w/']").text = "/w/']" := by decide +kernel
  have found : workbench.interpreter sampleSite {} = .ok (Path.ofText "/w/s") := rfl
  have quiet := (commands_encode_paths false found
    (.cons first (.cons second .nil))).1
  have loud := (commands_encode_paths true found
    (.cons first (.cons second .nil))).2.1 _ _ second
  rw [names, program] at quiet loud
  rw [image] at loud
  obtain ⟨goal, saving, command, sourcesRead, placeRead, _⟩ := loud
  exact ⟨quiet, goal, saving, command, sourcesRead, placeRead⟩

end Interpreter

end PrologImage
