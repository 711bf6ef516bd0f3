import PrologImage.Proofs.Request.Governed

/-!
Contract: the grammar of payloads, in terms of the tokens themselves.

Owns: which token governs another one, said by dividing a payload at both, readings of a payload in
two parts, and the theorem that an argument list is read as the grammar says and in no other way.

Does not own: how a request is spelled (`Proofs.Request.Spelling`).
-/

namespace PrologImage

/-! ## Switches -/

/-- How a switch that governs is written. -/
def Switch.token : Switch → String
  | .inputs => "-c"
  | .output => "-o"

theorem Switch.ofToken?_eq_some_iff {token : String} {switch : Switch} :
    Switch.ofToken? token = some switch ↔ token = switch.token := by
  unfold Switch.ofToken?
  split_ifs with isInputs isOutput
  · cases switch <;> simp [isInputs, Switch.token]
  · cases switch <;> simp [isOutput, Switch.token]
  · cases switch <;> simp [isInputs, isOutput, Switch.token]

theorem Switch.ofToken?_eq_none_iff {token : String} :
    Switch.ofToken? token = none ↔ token ≠ "-c" ∧ token ≠ "-o" := by
  unfold Switch.ofToken?
  split_ifs with isInputs isOutput
  · simp [isInputs]
  · simp [isOutput]
  · simp [isInputs, isOutput]

theorem Switch.after_append (tokens later : List String) :
    Switch.after (tokens ++ later) = (Switch.after later).or (Switch.after tokens) := by
  rw [Switch.after, List.filterMap_append, List.getLast?_append]
  rfl

/-- No switch governs what follows tokens without one. -/
theorem Switch.after_eq_none_iff {tokens : List String} :
    Switch.after tokens = none ↔ "-c" ∉ tokens ∧ "-o" ∉ tokens := by
  rw [Switch.after, List.getLast?_eq_none_iff, List.filterMap_eq_nil_iff]
  simp only [Switch.ofToken?_eq_none_iff]
  constructor
  · intro none
    exact ⟨fun isThere => (none _ isThere).1 rfl, fun isThere => (none _ isThere).2 rfl⟩
  · intro absent token member
    exact ⟨fun isInputs => absent.1 (isInputs ▸ member), fun isOutput => absent.2 (isOutput ▸ member)⟩

/-- What follows some tokens is governed by a switch among them with no other one after it. -/
theorem Switch.after_eq_some_iff {tokens : List String} {switch : Switch} :
    Switch.after tokens = some switch ↔
      ∃ earlier later, tokens = earlier ++ switch.token :: later ∧
        "-c" ∉ later ∧ "-o" ∉ later := by
  constructor
  · intro governing
    obtain ⟨front, split⟩ := List.getLast?_eq_some_iff.mp governing
    obtain ⟨earlier, rest, rfl, -, atEnd⟩ := List.filterMap_eq_append_iff.mp split
    obtain ⟨between, token, later, rfl, -, isSwitch, none⟩ := List.filterMap_eq_cons_iff.mp atEnd
    rw [Switch.ofToken?_eq_some_iff.mp isSwitch]
    have absent : Switch.after later = .none := by rw [Switch.after, none, List.getLast?_nil]
    exact ⟨earlier ++ between, later, by simp, Switch.after_eq_none_iff.mp absent⟩
  · rintro ⟨earlier, later, rfl, absent⟩
    rw [Switch.after_append, Switch.after_cons, Switch.after_eq_none_iff.mpr absent,
      Switch.ofToken?_eq_some_iff.mpr rfl]
    rfl

namespace Request

/-! ## Governed tokens -/

theorem isPlainToken_iff {token : String} :
    IsPlainToken token ↔ token ∉ ["-v", "-c", "-o"] := by
  simp [IsPlainToken, Switch.ofToken?_eq_none_iff]

/-- A switch governs a token that is not one of the three with a meaning of their own, and before
which it is the last of the two that govern. -/
theorem governs_iff {switch : Switch} {before : List String} {token : String} :
    Governs switch before token ↔
      token ∉ ["-v", "-c", "-o"] ∧
      ∃ earlier later, before = earlier ++ switch.token :: later ∧
        "-c" ∉ later ∧ "-o" ∉ later := by
  rw [Governs, isPlainToken_iff, Switch.after_eq_some_iff]

/-! ## Payloads in two parts -/

/-- The tokens after the first separator. -/
def payloadOf (arguments : List String) : List String :=
  (arguments.dropWhile (· ≠ separator)).tail

theorem snd_splitArguments (arguments : List String) :
    (splitArguments arguments).2 = payloadOf arguments := by
  induction arguments with
  | nil => rfl
  | cons argument rest inductionHypothesis =>
      by_cases isSeparator : argument = separator
      · simp [splitArguments, payloadOf, isSeparator]
      · simpa [splitArguments, payloadOf, isSeparator] using inductionHypothesis

/-- The rest of a payload is read under the switch that the tokens before it leave. -/
theorem readTokens_append_tokens (switch : Option Switch) (request : Request)
    (tokens later : List String) :
    readTokens switch request (tokens ++ later) =
      readTokens switch request tokens >>= fun extended =>
        readTokens ((Switch.after tokens).or switch) extended later := by
  induction later using List.reverseRecOn with
  | nil =>
      rw [List.append_nil]
      exact (bind_pure _).symm
  | append_singleton later token inductionHypothesis =>
      rw [← List.append_assoc, readTokens_append, inductionHypothesis, bind_assoc]
      congr 1
      funext extended
      rw [readTokens_append, Switch.after_append, Option.or_assoc]

theorem readTokens_plain (switch : Option Switch) (request : Request) {token : String}
    (plain : IsPlainToken token) (rest : List String) :
    readTokens switch request (token :: rest) =
      request.add switch token >>= fun extended => readTokens switch extended rest := by
  rw [readTokens, if_neg plain.1, plain.2]

/-- A plain token before the first switch is passed over. -/
theorem readTokens_stray {before : List String} {token : String} (plain : IsPlainToken token)
    (ungoverned : Switch.after before = none) (after : List String) :
    readTokens none {} (before ++ token :: after) = readTokens none {} (before ++ after) := by
  rw [readTokens_append_tokens, readTokens_append_tokens, ungoverned]
  congr 1
  funext extended
  exact readTokens_plain none extended plain after

/-! ## The grammar -/

theorem reading_of_few_outputs {payload : List String}
    (few : (tokensUnder .output payload).length < 2) :
    reading payload = .ok {
      verbose := decide ("-v" ∈ payload)
      inputs := (tokensUnder .inputs payload).map Path.ofText
      output := (tokensUnder .output payload).head?.map Path.ofText } := by
  unfold reading
  cases outputs : tokensUnder .output payload with
  | nil => rfl
  | cons output others =>
      rw [outputs, List.length_cons] at few
      have alone : others = [] := List.length_eq_zero_iff.mp (by omega)
      rw [alone]
      rfl

/-- An argument list is read as the grammar says. A token of its payload is governed by the last of
the two switches before it, if it has no meaning of its own. Two outputs are refused, wherever they
stand; otherwise the request has the governed tokens, each as often as it stands there. Arguments
before the first separator and tokens that nothing governs make no difference. -/
theorem ofArguments_meets_grammar (arguments : List String) :
    (∀ switch before token, Governs switch before token ↔
      token ∉ ["-v", "-c", "-o"] ∧
      ∃ earlier later, before = earlier ++ switch.token :: later ∧
        "-c" ∉ later ∧ "-o" ∉ later) ∧
    (ofArguments arguments = .error .secondOutput ↔
      2 ≤ (tokensUnder .output (payloadOf arguments)).length) ∧
    ((tokensUnder .output (payloadOf arguments)).length < 2 →
      ofArguments arguments = .ok {
        verbose := decide ("-v" ∈ payloadOf arguments)
        inputs := (tokensUnder .inputs (payloadOf arguments)).map Path.ofText
        output := (tokensUnder .output (payloadOf arguments)).head?.map Path.ofText }) ∧
    ofArguments arguments = ofArguments (separator :: payloadOf arguments) ∧
    ∀ before token after, payloadOf arguments = before ++ token :: after →
      token ∉ ["-v", "-c", "-o"] → "-c" ∉ before → "-o" ∉ before →
      ofArguments arguments = ofArguments (separator :: (before ++ after)) := by
  have read : ofArguments arguments = reading (payloadOf arguments) := by
    rw [ofArguments_eq_reading, snd_splitArguments]
  have readAlone : ∀ payload, ofArguments (separator :: payload) = reading payload :=
    fun payload => ofArguments_eq_reading (separator :: payload)
  refine ⟨fun _ _ _ => governs_iff, ?_, ?_, ?_, ?_⟩
  · rw [read]
    exact reading_eq_error_iff _
  · intro few
    rw [read]
    exact reading_of_few_outputs few
  · rw [read, readAlone]
  · intro before token after split notSwitch noInputs noOutput
    have plain := isPlainToken_iff.mpr notSwitch
    have ungoverned := Switch.after_eq_none_iff.mpr ⟨noInputs, noOutput⟩
    rw [read, readAlone, split, ← readTokens_eq_reading, ← readTokens_eq_reading]
    exact readTokens_stray plain ungoverned after

/-- A stray token, a second separator as an input, and an input given twice. -/
theorem ofArguments_of_sample :
    ofArguments ["-o", "x", "--", "stray", "-c", "--", "-v", "a", "-o", "n", "-c", "a"] = .ok {
      verbose := true
      inputs := [Path.ofText "--", Path.ofText "a", Path.ofText "a"]
      output := some (Path.ofText "n") } := by
  obtain ⟨-, -, accepted, -, -⟩ := ofArguments_meets_grammar
    ["-o", "x", "--", "stray", "-c", "--", "-v", "a", "-o", "n", "-c", "a"]
  exact accepted (by decide)

end Request

end PrologImage
