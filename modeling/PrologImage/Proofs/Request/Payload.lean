import PrologImage.Request

/-!
Contract: payloads up to the wish for verbose mode.

Owns: the division of an argument list that is put together around a separator, requests up to
verbosity, and that `-v` has no effect on how the other tokens of a payload are read.

Does not own: which tokens a switch governs (`Proofs.Request.Governed`).
-/

namespace PrologImage

/-- The first separator divides the arguments, so what follows it may hold further ones. -/
theorem splitArguments_append {options : List String} (free : separator ∉ options)
    (payload : List String) :
    splitArguments (options ++ separator :: payload) = (options, payload) := by
  induction options with
  | nil => simp [splitArguments]
  | cons option rest inductionHypothesis =>
      rw [List.mem_cons, not_or] at free
      have different : option ≠ separator := Ne.symm free.1
      simp [splitArguments, different, inductionHypothesis free.2]

namespace Request

/-- A request up to verbosity. -/
def withoutVerbosity (request : Request) : Request :=
  { request with verbose := false }

/-- Requests that are the same up to verbosity agree in all else. -/
theorem eq_of_withoutVerbosity {left right : Request}
    (same : left.withoutVerbosity = right.withoutVerbosity) :
    left = ⟨left.verbose, right.inputs, right.output⟩ := by
  obtain ⟨verbose, inputs, output⟩ := left
  obtain ⟨rfl, rfl⟩ : inputs = right.inputs ∧ output = right.output := by
    simpa [withoutVerbosity] using same
  rfl

theorem add_withoutVerbosity (request : Request) (switch : Option Switch) (token : String) :
    (request.add switch token).map withoutVerbosity =
      request.withoutVerbosity.add switch token := by
  rcases switch with _ | _ | _
  · rfl
  · rfl
  · obtain ⟨verbose, inputs, _ | output⟩ := request <;> rfl

/-- Up to verbosity, a payload is read as without its `-v` tokens. -/
theorem readTokens_withoutVerbosity (tokens : List String) (switch : Option Switch)
    (request : Request) :
    (readTokens switch request tokens).map withoutVerbosity =
      readTokens switch request.withoutVerbosity (tokens.filter (· ≠ "-v")) := by
  induction tokens generalizing switch request with
  | nil => rfl
  | cons token rest inductionHypothesis =>
      by_cases quiet : token = "-v"
      · have dropped : (token :: rest).filter (· ≠ "-v") = rest.filter (· ≠ "-v") := by
          simp [quiet]
        rw [dropped, readTokens, if_pos quiet]
        exact inductionHypothesis switch { request with verbose := true }
      · have kept : (token :: rest).filter (· ≠ "-v") = token :: rest.filter (· ≠ "-v") := by
          simp [quiet]
        rw [kept, readTokens, readTokens, if_neg quiet, if_neg quiet]
        cases Switch.ofToken? token with
        | some governing => exact inductionHypothesis (some governing) request
        | none =>
            dsimp only
            rw [← add_withoutVerbosity]
            cases request.add switch token with
            | error error => rfl
            | ok extended => exact inductionHypothesis switch extended

/-- Payloads that are equal without their `-v` tokens make the same request up to verbosity. -/
theorem ofArguments_withoutVerbosity {options left right : List String}
    (free : separator ∉ options)
    (same : left.filter (· ≠ "-v") = right.filter (· ≠ "-v")) :
    (ofArguments (options ++ separator :: left)).map withoutVerbosity =
      (ofArguments (options ++ separator :: right)).map withoutVerbosity := by
  unfold ofArguments
  rw [splitArguments_append free, splitArguments_append free, readTokens_withoutVerbosity,
    readTokens_withoutVerbosity, same]

end Request

end PrologImage
