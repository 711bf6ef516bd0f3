import Mathlib.Data.List.Basic
import Mathlib.Data.List.Induction
import Mathlib.Tactic.SplitIfs
import PrologImage.Request

/-!
Contract: the request that a payload makes, read off its tokens by their places.

Owns: the plain tokens that a switch governs, and that reading a payload from left to right gives
the request with exactly these, or is refused when there are two for the output.

Does not own: the division of an argument list (`Proofs.Request.Payload`).

What comes before a token decides what governs it, so a payload is taken apart at its end.
-/

namespace PrologImage

/-- The switch that governs what follows some tokens: the last one among them. -/
def Switch.after (tokens : List String) : Option Switch :=
  (tokens.filterMap Switch.ofToken?).getLast?

theorem Switch.after_cons (token : String) (rest : List String) :
    Switch.after (token :: rest) = (Switch.after rest).or (Switch.ofToken? token) := by
  unfold Switch.after
  cases governing : Switch.ofToken? token with
  | none => simp [governing]
  | some switch =>
      rw [List.filterMap_cons_some governing, List.getLast?_cons]
      cases (rest.filterMap Switch.ofToken?).getLast? <;> rfl

namespace Request

/-! ## Governed tokens -/

/-- A token that is no switch of any kind. -/
def IsPlainToken (token : String) : Prop :=
  token ≠ "-v" ∧ Switch.ofToken? token = none

instance (token : String) : Decidable (IsPlainToken token) := by
  unfold IsPlainToken
  infer_instance

/-- A plain token after some others is governed by a switch. -/
def Governs (switch : Switch) (before : List String) (token : String) : Prop :=
  IsPlainToken token ∧ Switch.after before = some switch

instance (switch : Switch) (before : List String) (token : String) :
    Decidable (Governs switch before token) := by
  unfold Governs
  infer_instance

/-- The plain tokens of a payload that a switch governs, in order. -/
def tokensUnder (switch : Switch) (payload : List String) : List String :=
  payload.zipIdx.filterMap fun (token, index) =>
    if Governs switch (payload.take index) token then some token else none

/-- Tokens are governed by what comes before them, whatever follows. -/
theorem tokensUnder_append (switch : Switch) (payload : List String) (token : String) :
    tokensUnder switch (payload ++ [token]) =
      tokensUnder switch payload ++ if Governs switch payload token then [token] else [] := by
  have earlier : payload.zipIdx.filterMap (fun (other, index) =>
      if Governs switch ((payload ++ [token]).take index) other then some other else none) =
        tokensUnder switch payload := by
    apply List.filterMap_congr
    rintro ⟨other, index⟩ member
    have inRange : index < payload.length := by
      have bound := List.snd_lt_of_mem_zipIdx member
      omega
    dsimp only
    rw [List.take_append_of_le_length (Nat.le_of_lt inRange)]
  rw [tokensUnder, List.zipIdx_append, List.filterMap_append, earlier]
  congr 1
  by_cases governed : Governs switch payload token <;> simp [governed]

theorem tokensUnder_append_of_governs {switch : Switch} {payload : List String} {token : String}
    (governs : Governs switch payload token) :
    tokensUnder switch (payload ++ [token]) = tokensUnder switch payload ++ [token] := by
  rw [tokensUnder_append, if_pos governs]

theorem tokensUnder_append_of_not_governs {switch : Switch} {payload : List String}
    {token : String} (ungoverned : ¬ Governs switch payload token) :
    tokensUnder switch (payload ++ [token]) = tokensUnder switch payload := by
  rw [tokensUnder_append, if_neg ungoverned, List.append_nil]

/-! ## The reading -/

/-- The request for verbosity, inputs and outputs, of which there may be one at most. -/
def ofParts (verbose : Bool) (inputs outputs : List String) : Except RequestError Request :=
  match outputs with
  | [] => .ok ⟨verbose, inputs.map Path.ofText, none⟩
  | [output] => .ok ⟨verbose, inputs.map Path.ofText, some (Path.ofText output)⟩
  | _ :: _ :: _ => .error .secondOutput

/-- The request with the tokens that the switches of a payload govern. -/
def reading (payload : List String) : Except RequestError Request :=
  ofParts (decide ("-v" ∈ payload)) (tokensUnder .inputs payload) (tokensUnder .output payload)

/-! ## One more token -/

/-- What one token does to a request. -/
def readToken (switch : Option Switch) (request : Request) (token : String) :
    Except RequestError Request :=
  if token = "-v" then .ok { request with verbose := true }
  else if Switch.ofToken? token = none then request.add switch token
  else .ok request

theorem readTokens_append (switch : Option Switch) (request : Request) (tokens : List String)
    (token : String) :
    readTokens switch request (tokens ++ [token]) =
      readTokens switch request tokens >>= fun extended =>
        extended.readToken ((Switch.after tokens).or switch) token := by
  induction tokens generalizing switch request with
  | nil =>
      show readTokens switch request [token] = request.readToken switch token
      unfold readToken
      rw [readTokens]
      cases Switch.ofToken? token with
      | none =>
          dsimp only
          rw [if_pos rfl]
          cases request.add switch token <;> rfl
      | some governing => rfl
  | cons first rest inductionHypothesis =>
      rw [List.cons_append, readTokens, readTokens, Switch.after_cons]
      by_cases verbose : first = "-v"
      · have noSwitch : Switch.ofToken? "-v" = none := by decide
        rw [if_pos verbose, if_pos verbose, inductionHypothesis, verbose, noSwitch, Option.or_none]
      · rw [if_neg verbose, if_neg verbose]
        cases Switch.ofToken? first with
        | some governing =>
            dsimp only
            rw [inductionHypothesis, Option.or_assoc, Option.some_or]
        | none =>
            dsimp only
            rw [Option.or_none]
            cases request.add switch first with
            | error error => rfl
            | ok extended => exact inductionHypothesis switch extended

theorem ofParts_verbose (verbose : Bool) (inputs outputs : List String) :
    ofParts true inputs outputs =
      ofParts verbose inputs outputs >>= fun request => .ok { request with verbose := true } := by
  rcases outputs with _ | ⟨output, _ | ⟨next, others⟩⟩ <;> rfl

theorem ofParts_input (verbose : Bool) (inputs outputs : List String) (token : String) :
    ofParts verbose (inputs ++ [token]) outputs =
      ofParts verbose inputs outputs >>= fun request => request.add (some .inputs) token := by
  unfold ofParts
  rw [List.map_append]
  rcases outputs with _ | ⟨output, _ | ⟨next, others⟩⟩ <;> rfl

theorem ofParts_output (verbose : Bool) (inputs outputs : List String) (token : String) :
    ofParts verbose inputs (outputs ++ [token]) =
      ofParts verbose inputs outputs >>= fun request => request.add (some .output) token := by
  rcases outputs with _ | ⟨output, _ | ⟨next, others⟩⟩ <;> rfl

theorem reading_append_verbose (payload : List String) :
    reading (payload ++ ["-v"]) =
      reading payload >>= fun request => .ok { request with verbose := true } := by
  have ungoverned : ∀ switch, ¬ Governs switch payload "-v" := fun _ governs => governs.1.1 rfl
  have asked : decide ("-v" ∈ payload ++ ["-v"]) = true := by simp
  rw [reading, asked, tokensUnder_append_of_not_governs (ungoverned _),
    tokensUnder_append_of_not_governs (ungoverned _)]
  exact ofParts_verbose _ _ _

theorem reading_append_ungoverned {payload : List String} {token : String}
    (quiet : token ≠ "-v") (ungoverned : ∀ switch, ¬ Governs switch payload token) :
    reading (payload ++ [token]) = reading payload := by
  rw [reading, reading, tokensUnder_append_of_not_governs (ungoverned _),
    tokensUnder_append_of_not_governs (ungoverned _)]
  simp [Ne.symm quiet]

theorem reading_append_governed {switch : Switch} {payload : List String} {token : String}
    (governs : Governs switch payload token) :
    reading (payload ++ [token]) =
      reading payload >>= fun request => request.add (some switch) token := by
  have quiet : "-v" ≠ token := Ne.symm governs.1.1
  have kept : decide ("-v" ∈ payload ++ [token]) = decide ("-v" ∈ payload) := by simp [quiet]
  have elsewhere : ∀ other, other ≠ switch → ¬ Governs other payload token := by
    intro other different governsToo
    exact different (Option.some.inj (governsToo.2.symm.trans governs.2))
  unfold reading
  rw [kept]
  cases switch with
  | inputs =>
      rw [tokensUnder_append_of_governs governs,
        tokensUnder_append_of_not_governs (elsewhere .output (by decide))]
      exact ofParts_input _ _ _ token
  | output =>
      rw [tokensUnder_append_of_governs governs,
        tokensUnder_append_of_not_governs (elsewhere .inputs (by decide))]
      exact ofParts_output _ _ _ token

theorem reading_append (payload : List String) (token : String) :
    reading (payload ++ [token]) =
      reading payload >>= fun request => request.readToken (Switch.after payload) token := by
  unfold readToken
  split_ifs with verbose plain
  · rw [verbose]
    exact reading_append_verbose payload
  · cases governing : Switch.after payload with
    | none =>
        have ungoverned : ∀ switch, ¬ Governs switch payload token := by
          intro switch governs
          cases governing.symm.trans governs.2
        rw [reading_append_ungoverned verbose ungoverned]
        exact (bind_pure _).symm
    | some switch => exact reading_append_governed ⟨⟨verbose, plain⟩, governing⟩
  · rw [reading_append_ungoverned verbose fun _ governs => plain governs.1.2]
    exact (bind_pure _).symm

/-- Reading a payload from left to right gives the request with the governed tokens. -/
theorem readTokens_eq_reading (payload : List String) :
    readTokens none {} payload = reading payload := by
  induction payload using List.reverseRecOn with
  | nil => rfl
  | append_singleton payload token inductionHypothesis =>
      rw [readTokens_append, inductionHypothesis, Option.or_none, reading_append]

/-- The request of an argument list is the reading of its payload. -/
theorem ofArguments_eq_reading (arguments : List String) :
    ofArguments arguments = reading (splitArguments arguments).2 :=
  readTokens_eq_reading _

/-! ## What is refused, and what has no output -/

theorem reading_eq_error_iff (payload : List String) :
    reading payload = .error .secondOutput ↔ 2 ≤ (tokensUnder .output payload).length := by
  unfold reading ofParts
  split
  · rename_i none
    simp [none]
  · rename_i one
    simp [one]
  · rename_i several
    simp [several]

example : reading ["-o", "-v", "n", "-c", "b", "-o", "m"] = .error .secondOutput := rfl

theorem reading_without_output_iff (payload : List String) :
    (∃ request, reading payload = .ok request ∧ request.output = none) ↔
      tokensUnder .output payload = [] := by
  unfold reading ofParts
  split
  · rename_i none
    simp [none]
  · rename_i one
    simp [one]
  · rename_i several
    simp [several]

end Request

end PrologImage
