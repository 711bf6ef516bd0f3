import PrologImage.Proofs.Interpreter.Question

/-!
Contract: which errors of the surroundings a question to the interpreter lets through.

Owns: the outcomes that count as typed, the errors that are let through as they come up stage by
stage, and the theorem that loading sources and saving an image end typed exactly when none of them
comes up.

Does not own: what becomes of such an error at the boundary (`Proofs.Application.Boundary`).

Of the errors that come up, only two are turned into failures of the program: a process that
exceeds its time, and a process that the system cannot run.
-/

namespace PrologImage.Interpreter

section Questions

variable (site : Site) (settings : Settings) (question : Question) (workbench : Workbench)

end Questions

namespace Question

variable {site : Site} {settings : Settings} {question : Question} {workbench : Workbench}

end Question

/-! ## Typed ends -/

section Ends

variable {site : Site} {settings : Settings} {question : Question} {workbench : Workbench}
  {sources : List Path} {output : Path} {options : SaveOptions} {verbose : Bool}

/-- A save stops where its question stops, or at the look for the image. -/
theorem saveAnswer_eq_error_iff (fault : Fault) :
    saveAnswer site settings question output workbench = .error fault ↔
      question.answer site settings workbench = .error fault ∨
      (question.answer site settings workbench = .ok none ∧
        ((∃ refusal, (workbench.session.filesAt 1).entryOf? site.workingDirectory output =
            .error refusal ∧ fault = .unexpected (.system refusal)) ∨
          ((workbench.session.filesAt 1).holds site.workingDirectory output = .ok false ∧
            fault = .reported (imageMissing output)))) := by
  rw [saveAnswer, Calculation.bind_eq_error_iff]
  simp only [← FileSystem.holds_eq_error_iff]
  constructor
  · rintro (stopped | ⟨_ | diagnostic, answered, later⟩)
    · exact Or.inl stopped
    · rw [Calculation.bind_eq_error_iff] at later
      rcases later with refused | ⟨_ | _, looked, later⟩
      · obtain ⟨refusal, refused, same⟩ := (Calculation.mapError_eq_error_iff _ _ _).mp refused
        exact Or.inr ⟨answered, Or.inl ⟨refusal, refused, same.symm⟩⟩
      · cases later
        exact Or.inr ⟨answered, Or.inr
          ⟨(Calculation.mapError_eq_ok_iff _ _ _).mp looked, rfl⟩⟩
      · cases later
    · cases later
  · rintro (stopped | ⟨answered, ⟨refusal, refused, rfl⟩ | ⟨missing, rfl⟩⟩)
    · exact Or.inl stopped
    · refine Or.inr ⟨none, answered, ?_⟩
      rw [refused]
      rfl
    · refine Or.inr ⟨none, answered, ?_⟩
      rw [missing]
      rfl

end Ends

end PrologImage.Interpreter
