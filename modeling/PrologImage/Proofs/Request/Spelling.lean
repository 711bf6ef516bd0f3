import PrologImage.Proofs.FileSystem.PathText
import PrologImage.Proofs.Request.Grammar
import PrologImage.Proofs.Request.Payload

/-!
Contract: payloads written for a request, and their way back.

Owns: a spelling of path texts that no switch has, the payload for a request, and the theorem that
this payload is read as the request, so that every request can be made.

Does not own: how payloads of any other form are read (`Proofs.Request.Grammar`).

A text that does not start with a slash is written with a dot and a slash before it. Both name no
step of a path, so the path is the same, and neither can start a switch.
-/

namespace PrologImage

namespace Request

/-! ## Spelled texts -/

/-- A path text as it is written in a payload. -/
def escaped (text : String) : String :=
  if text.toList.head? = some '/' then text else "./" ++ text

theorem isPlainToken_escaped (text : String) : IsPlainToken (escaped text) := by
  have start : (escaped text).toList.head? = some '/' ∨
      (escaped text).toList.head? = some '.' := by
    unfold escaped
    split_ifs with slash
    · exact Or.inl slash
    · exact Or.inr (by simp)
  rw [isPlainToken_iff]
  intro member
  have isSwitch : escaped text = "-v" ∨ escaped text = "-c" ∨ escaped text = "-o" := by
    simpa using member
  rcases isSwitch with same | same | same <;> simp [same] at start

theorem ofText_escaped (text : String) : Path.ofText (escaped text) = Path.ofText text := by
  unfold escaped
  split_ifs with slash
  · rfl
  · have characters : ("./" ++ text).toList = ['.'] ++ '/' :: text.toList := by simp
    apply Path.eq_of_parts
    · have relative := Anchor.ofText_append .relative slash
      show Anchor.ofText ("./" ++ text).toList = Anchor.ofText text.toList
      rw [characters]
      exact relative.symm
    · have idle : steps (namesOf ['.']) = [] := by decide
      rw [Path.parts_ofText, Path.parts_ofText, characters, namesOf_append, steps_append, idle,
        List.nil_append]

theorem map_ofText_escaped (texts : List String) :
    (texts.map escaped).map Path.ofText = texts.map Path.ofText := by
  rw [List.map_map]
  exact List.map_congr_left fun text _ => ofText_escaped text

/-! ## Spelled requests -/

/-- The tokens for an output, if there is one. -/
def outputTokens : Option String → List String
  | none => []
  | some output => ["-o", escaped output]

/-- The payload that asks for some inputs and an output. -/
def spelled (verbose : Bool) (inputs : List String) (output : Option String) : List String :=
  (if verbose then ["-v"] else []) ++ ["-c"] ++ inputs.map escaped ++ outputTokens output

/-- The payload for a request. -/
def payload (request : Request) : List String :=
  spelled request.verbose (request.inputs.map Path.text) (request.output.map Path.text)

/-- Plain tokens after the switch for inputs are inputs. -/
theorem readTokens_inputs (request : Request) {tokens : List String}
    (plain : ∀ token ∈ tokens, IsPlainToken token) (rest : List String) :
    readTokens (some .inputs) request (tokens ++ rest) =
      readTokens (some .inputs)
        { request with inputs := request.inputs ++ tokens.map Path.ofText } rest := by
  induction tokens generalizing request with
  | nil => simp
  | cons token tokens inductionHypothesis =>
      have later := inductionHypothesis
        { request with inputs := request.inputs ++ [Path.ofText token] }
        fun other member => plain other (List.mem_cons_of_mem _ member)
      rw [List.cons_append, readTokens_plain _ _ (plain token List.mem_cons_self)]
      show readTokens (some .inputs) _ (tokens ++ rest) = _
      rw [later, List.map_cons, List.append_assoc, List.singleton_append]

theorem readTokens_outputTokens (verbose : Bool) (inputs : List Path) (output : Option String) :
    readTokens (some .inputs) ⟨verbose, inputs, none⟩ (outputTokens output) =
      .ok ⟨verbose, inputs, output.map Path.ofText⟩ := by
  cases output with
  | none => rfl
  | some output =>
      show readTokens (some .output) ⟨verbose, inputs, none⟩ [escaped output] = _
      rw [readTokens_plain _ _ (isPlainToken_escaped output), Option.map_some,
        ← ofText_escaped output]
      rfl

theorem readTokens_spelled (verbose : Bool) (inputs : List String) (output : Option String) :
    readTokens none {} (spelled verbose inputs output) =
      .ok ⟨verbose, inputs.map Path.ofText, output.map Path.ofText⟩ := by
  have plain : ∀ token ∈ inputs.map escaped, IsPlainToken token := by
    intro token member
    obtain ⟨text, -, rfl⟩ := List.mem_map.mp member
    exact isPlainToken_escaped text
  have started : readTokens none {} (spelled verbose inputs output) =
      readTokens (some .inputs) ⟨verbose, [], none⟩
        (inputs.map escaped ++ outputTokens output) := by
    cases verbose <;> rfl
  rw [started, readTokens_inputs _ plain, map_ofText_escaped, List.nil_append]
  exact readTokens_outputTokens verbose _ output

/-- Whatever stands before the separator, any verbosity, any texts of inputs and any text of an
output can be asked for: their payload is read as the request for the paths of these texts. So every
request has a payload that makes it. -/
theorem ofArguments_spelled {options : List String} (free : separator ∉ options) :
    (∀ (verbose : Bool) (inputs : List String) (output : Option String),
      ofArguments (options ++ separator :: spelled verbose inputs output) =
        .ok ⟨verbose, inputs.map Path.ofText, output.map Path.ofText⟩) ∧
    ∀ request : Request, ofArguments (options ++ separator :: request.payload) = .ok request := by
  have read : ∀ (verbose : Bool) (inputs : List String) (output : Option String),
      ofArguments (options ++ separator :: spelled verbose inputs output) =
        .ok ⟨verbose, inputs.map Path.ofText, output.map Path.ofText⟩ := by
    intro verbose inputs output
    rw [ofArguments, splitArguments_append free]
    exact readTokens_spelled verbose inputs output
  refine ⟨read, fun request => ?_⟩
  have inputs : (request.inputs.map Path.text).map Path.ofText = request.inputs := by
    rw [List.map_map]
    exact (List.map_congr_left fun path _ => path.ofText_text).trans (List.map_id' _)
  have output : (request.output.map Path.text).map Path.ofText = request.output := by
    cases request.output with
    | none => rfl
    | some path => exact congrArg some path.ofText_text
  rw [payload, read, inputs, output]

/-- Texts that are switches, the separator, nothing, or two words. -/
theorem ofArguments_spelled_switches :
    separator ∉ ["-o", "precompile"] ∧
    ofArguments ["-o", "precompile", "--", "-v", "-c", "./-v", "./-c", "./--", "./", "./a b",
      "//x/./y/", "-o", "./-o"] =
      .ok ⟨true, ["-v", "-c", "--", "", "a b", "//x/./y/"].map Path.ofText,
        some (Path.ofText "-o")⟩ := by
  have free : separator ∉ ["-o", "precompile"] := by decide
  have payload : spelled true ["-v", "-c", "--", "", "a b", "//x/./y/"] (some "-o") =
      ["-v", "-c", "./-v", "./-c", "./--", "./", "./a b", "//x/./y/", "-o", "./-o"] := by decide
  have read := (ofArguments_spelled free).1 true ["-v", "-c", "--", "", "a b", "//x/./y/"]
    (some "-o")
  rw [payload] at read
  exact ⟨free, read⟩

end Request

end PrologImage
