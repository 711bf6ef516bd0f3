import PrologImage.FileSystem.Resolve
import PrologImage.Proofs.Calculation

/-!
Contract: path texts and the names in them.

Owns: the fields of a text put together from fields, the names that follow an anchor, the names that
lead anywhere, names that lead down and dots, the anchor of a text, that a path is what its text is
read as, the path of a location, and that a resolved path is absolute.

Does not own: what the names lead to (`Proofs.FileSystem.Passage`).
-/

namespace PrologImage

/-! ## Fields -/

namespace Text

theorem fields_ne_nil (separator : Char) (text : List Char) : fields separator text ≠ [] := by
  cases text with
  | nil => simp [fields]
  | cons character rest =>
      unfold fields
      split
      · simp
      · cases fields separator rest <;> simp [extendFirst]

/-- A separator ends the fields before it and starts the fields after it. -/
theorem fields_append (separator : Char) (text rest : List Char) :
    fields separator (text ++ separator :: rest) =
      fields separator text ++ fields separator rest := by
  induction text with
  | nil => simp [fields]
  | cons character text inductionHypothesis =>
      rw [List.cons_append, fields, fields, inductionHypothesis]
      by_cases isSeparator : character = separator
      · simp [isSeparator]
      · obtain ⟨first, others, split⟩ :=
          List.exists_cons_of_ne_nil (fields_ne_nil separator text)
        simp [isSeparator, split, extendFirst]

theorem fields_of_not_mem {separator : Char} {text : List Char} (absent : separator ∉ text) :
    fields separator text = [text] := by
  induction text with
  | nil => rfl
  | cons character text inductionHypothesis =>
      rw [List.mem_cons, not_or] at absent
      rw [fields, if_neg (Ne.symm absent.1), inductionHypothesis absent.2]
      rfl

theorem not_mem_of_mem_fields {separator : Char} {text field : List Char}
    (member : field ∈ fields separator text) : separator ∉ field := by
  induction text generalizing field with
  | nil =>
      simp only [fields, List.mem_singleton] at member
      simp [member]
  | cons character text inductionHypothesis =>
      rw [fields] at member
      split at member
      · rcases List.mem_cons.mp member with rfl | later
        · simp
        · exact inductionHypothesis later
      · rename_i notSeparator
        obtain ⟨first, others, split⟩ :=
          List.exists_cons_of_ne_nil (fields_ne_nil separator text)
        rw [split] at inductionHypothesis member
        rcases List.mem_cons.mp member with rfl | later
        · rw [List.mem_cons, not_or]
          exact ⟨Ne.symm notSeparator, inductionHypothesis List.mem_cons_self⟩
        · exact inductionHypothesis (List.mem_cons_of_mem _ later)

end Text

/-! ## Absolute texts -/

theorem Anchor.ofText_ne_relative {text : List Char} (slash : text.head? = some '/') :
    Anchor.ofText text ≠ .relative := by
  obtain ⟨rest, rfl⟩ := List.head?_eq_some_iff.mp slash
  unfold Anchor.ofText
  rw [List.takeWhile_cons_of_pos (by simp), List.length_cons]
  split
  · omega
  · simp
  · simp

/-- The anchor of a text is the one that it starts with, when no slash comes after that. -/
theorem Anchor.ofText_append (anchor : Anchor) {rest : List Char}
    (noSlash : rest.head? ≠ some '/') : Anchor.ofText (anchor.text.toList ++ rest) = anchor := by
  have onlyOwn : rest.takeWhile (· = '/') = [] := by
    cases rest with
    | nil => rfl
    | cons first others => exact List.takeWhile_cons_of_neg (by simpa using noSlash)
  cases anchor <;> simp [Anchor.ofText, Anchor.text, onlyOwn]

theorem Path.head?_text {path : Path} (absolute : path.anchor ≠ .relative) :
    path.text.toList.head? = some '/' := by
  unfold Path.text
  rw [if_neg (fun both => absolute both.1), String.toList_append]
  cases anchor : path.anchor with
  | relative => exact absurd anchor absolute
  | root => simp [Anchor.text]
  | doubleRoot => simp [Anchor.text]

/-- The absolute form of a route is absolute. -/
theorem Route.anchor_absolute_ne_relative (base : Location) (route : Route) :
    (route.absolute base).anchor ≠ .relative := by
  unfold Route.absolute
  split
  · apply Anchor.ofText_ne_relative
    simp [Location.text]
  · rename_i anchored
    apply Anchor.ofText_ne_relative
    cases anchor : route.anchor with
    | relative => exact absurd anchor anchored
    | root => simp [Anchor.text]
    | doubleRoot => simp [Anchor.text]

/-! ## Names -/

/-- The names of a path text, empty ones among them. -/
def namesOf (text : List Char) : List String :=
  (Text.fields '/' text).map String.ofList

theorem not_mem_of_mem_namesOf {text : List Char} {name : String} (member : name ∈ namesOf text) :
    '/' ∉ name.toList := by
  obtain ⟨field, isField, rfl⟩ := List.mem_map.mp member
  rw [String.toList_ofList]
  exact Text.not_mem_of_mem_fields isField

theorem namesOf_append (text rest : List Char) :
    namesOf (text ++ '/' :: rest) = namesOf text ++ namesOf rest := by
  simp only [namesOf, Text.fields_append, List.map_append]

/-- Names that are written with slashes between them read back as they are. -/
theorem namesOf_intercalate {names : List String} (present : names ≠ [])
    (slashFree : ∀ name ∈ names, '/' ∉ name.toList) :
    namesOf (String.intercalate "/" names).toList = names := by
  induction names with
  | nil => exact absurd rfl present
  | cons name rest inductionHypothesis =>
      obtain ⟨ofName, ofRest⟩ := List.forall_mem_cons.mp slashFree
      have single : namesOf name.toList = [name] := by
        rw [namesOf, Text.fields_of_not_mem ofName, List.map_singleton, String.ofList_toList]
      by_cases last : rest = []
      · rw [last, String.intercalate_singleton, single]
      · rw [String.intercalate_cons_of_ne_nil last, String.toList_append, String.toList_append,
          List.append_assoc]
        change namesOf (name.toList ++ '/' :: (String.intercalate "/" rest).toList) = _
        rw [namesOf_append, single, inductionHypothesis last ofRest, List.singleton_append]

/-- The names after an anchor, with an empty name for each of its slashes before them. -/
theorem namesOf_anchored (anchor : Anchor) {names : List String} (present : names ≠ [])
    (slashFree : ∀ name ∈ names, '/' ∉ name.toList) :
    ∃ slashes, (∀ name ∈ slashes, name = "") ∧
      namesOf (anchor.text ++ String.intercalate "/" names).toList = slashes ++ names := by
  have read := namesOf_intercalate present slashFree
  cases anchor with
  | relative => exact ⟨[], by simp, by simpa [Anchor.text] using read⟩
  | root =>
      refine ⟨[""], by simp, ?_⟩
      rw [String.toList_append]
      change "" :: namesOf (String.intercalate "/" names).toList = _
      rw [read]
      rfl
  | doubleRoot =>
      refine ⟨["", ""], by simp, ?_⟩
      rw [String.toList_append]
      change "" :: "" :: namesOf (String.intercalate "/" names).toList = _
      rw [read]
      rfl

/-- Only a text with an anchor starts with a slash. -/
theorem head?_anchored (anchor : Anchor) {names : List String} (present : names ≠ [])
    (proper : ∀ name ∈ names, name ≠ "" ∧ '/' ∉ name.toList) :
    (anchor.text ++ String.intercalate "/" names).toList.head? = some '/' ↔
      anchor ≠ .relative := by
  cases anchor with
  | relative =>
      have read := namesOf_intercalate present fun name member => (proper name member).2
      rw [Anchor.text, String.empty_append]
      refine iff_of_false (fun slash => ?_) (by simp)
      obtain ⟨rest, split⟩ := List.head?_eq_some_iff.mp slash
      rw [split] at read
      have first : "" ∈ names := by
        rw [← read]
        exact List.mem_cons_self
      exact (proper "" first).1 rfl
  | root | doubleRoot => simp [Anchor.text]

/-- Names that are written with slashes between them do not start with one. -/
theorem head?_intercalate_ne_slash {names : List String}
    (proper : ∀ name ∈ names, name ≠ "" ∧ '/' ∉ name.toList) :
    (String.intercalate "/" names).toList.head? ≠ some '/' := by
  by_cases empty : names = []
  · simp [empty]
  · have anchored := head?_anchored .relative empty proper
    rw [Anchor.text, String.empty_append] at anchored
    exact fun slash => anchored.mp slash rfl

/-- The names of a path text are the parts of the path, after some that name no step. -/
theorem Path.namesOf_text (path : Path) :
    ∃ idle, (∀ name ∈ idle, name = "" ∨ name = ".") ∧
      namesOf path.text.toList = idle ++ path.parts := by
  unfold Path.text
  by_cases empty : path.parts = []
  · rw [empty]
    cases path.anchor with
    | relative => exact ⟨["."], by simp, by decide⟩
    | root => exact ⟨["", ""], by simp, by decide⟩
    | doubleRoot => exact ⟨["", "", ""], by simp, by decide⟩
  · rw [if_neg (fun both => empty both.2)]
    obtain ⟨slashes, allEmpty, read⟩ := namesOf_anchored path.anchor empty
      (fun part member => (path.proper part member).2.2)
    exact ⟨slashes, fun name member => Or.inl (allEmpty name member), read⟩

theorem Path.text_ne_empty (path : Path) : path.text ≠ "" := by
  intro empty
  obtain ⟨idle, _, read⟩ := path.namesOf_text
  rw [empty] at read
  have onlyEmpty : ∀ name ∈ idle ++ path.parts, name = "" := by
    rw [← read]
    decide
  have noParts : path.parts = [] := by
    apply List.eq_nil_iff_forall_not_mem.mpr
    intro part member
    exact (path.proper part member).1 (onlyEmpty part (List.mem_append_right _ member))
  rw [Path.text, noParts] at empty
  cases anchor : path.anchor <;> simp [anchor, Anchor.text] at empty

/-- Only an absolute path text starts with a slash. -/
theorem Path.head?_text_iff (path : Path) :
    path.text.toList.head? = some '/' ↔ path.anchor ≠ .relative := by
  refine ⟨fun slash relative => ?_, Path.head?_text⟩
  rw [Path.text, relative] at slash
  by_cases empty : path.parts = []
  · simp [empty] at slash
  · rw [if_neg (fun both => empty both.2), head?_anchored .relative empty] at slash
    · exact slash rfl
    · exact fun part member => ⟨(path.proper part member).1, (path.proper part member).2.2⟩

/-- The names of a path that lead anywhere: not those that stay where they are. -/
def steps (names : List String) : List String :=
  names.filter fun name => name ≠ "" && name ≠ "."

@[simp] theorem steps_append (names others : List String) :
    steps (names ++ others) = steps names ++ steps others :=
  List.filter_append ..

theorem steps_of_idle {names : List String} (allIdle : ∀ name ∈ names, name = "" ∨ name = ".") :
    steps names = [] := by
  rw [steps, List.filter_eq_nil_iff]
  intro name member
  rcases allIdle name member with rfl | rfl <;> decide

/-- The steps of a path text are the parts of the path. -/
theorem Path.steps_namesOf_text (path : Path) : steps (namesOf path.text.toList) = path.parts := by
  obtain ⟨idle, allIdle, read⟩ := path.namesOf_text
  rw [read, steps_append, steps_of_idle allIdle, List.nil_append, steps, List.filter_eq_self]
  intro part member
  simpa using ⟨(path.proper part member).1, (path.proper part member).2.1⟩

/-- The parts of a path that is read from a text are the steps of the text. -/
theorem Path.parts_ofText (text : String) :
    (Path.ofText text).parts = steps (namesOf text.toList) := by
  have parts : (Path.ofText text).parts =
      (namesOf text.toList).filter (decide <| IsPathPart ·) := rfl
  rw [parts, steps]
  apply List.filter_congr
  intro name member
  simp [IsPathPart, not_mem_of_mem_namesOf member]

theorem Path.eq_of_parts {left right : Path} (anchor : left.anchor = right.anchor)
    (parts : left.parts = right.parts) : left = right := by
  cases left
  cases right
  simp_all

/-- A path is what its text is read as. -/
theorem Path.ofText_text (path : Path) : Path.ofText path.text = path := by
  apply Path.eq_of_parts
  · show Anchor.ofText path.text.toList = path.anchor
    by_cases here : path.anchor = .relative ∧ path.parts = []
    · rw [Path.text, if_pos here, here.1]
      decide
    · have noSlash := head?_intercalate_ne_slash fun part member =>
        ⟨(path.proper part member).1, (path.proper part member).2.2⟩
      rw [Path.text, if_neg here, String.toList_append]
      exact Anchor.ofText_append path.anchor noSlash
  · rw [Path.parts_ofText, Path.steps_namesOf_text]

theorem Path.head?_text_ofText (text : String) :
    (Path.ofText text).text.toList.head? = some '/' ↔ text.toList.head? = some '/' := by
  rw [Path.head?_text_iff]
  refine ⟨fun anchored => ?_, Anchor.ofText_ne_relative⟩
  by_contra noSlash
  exact anchored (Anchor.ofText_append .relative noSlash)

namespace FileSystem

theorem getLast?_namesOf_of_trailing {text : List Char} (trailing : text.getLast? = some '/') :
    (namesOf text).getLast? = some "" := by
  obtain ⟨front, rfl⟩ := List.getLast?_eq_some_iff.mp trailing
  rw [namesOf_append, List.getLast?_append]
  rfl

/-- The names of a walk are those of the text that are not empty; an empty one at the end stays for
a trailing slash. -/
theorem walkNames_cases (text : List Char) :
    walkNames text = (namesOf text).filter (· ≠ "") ∨
      (namesOf text).getLast? = some "" ∧
        walkNames text = (namesOf text).filter (· ≠ "") ++ [""] := by
  have named : ((Text.fields '/' text).filter (· ≠ [])).map String.ofList =
      (namesOf text).filter (· ≠ "") := by
    rw [namesOf, List.filter_map]
    congr 1
    apply List.filter_congr
    intro field _
    simp [Function.comp]
  unfold walkNames
  rw [named]
  split
  · rename_i trailing
    exact Or.inr ⟨getLast?_namesOf_of_trailing trailing, rfl⟩
  · exact Or.inl (List.append_nil _)

theorem steps_walkNames (text : List Char) : steps (walkNames text) = steps (namesOf text) := by
  have kept : steps ((namesOf text).filter (· ≠ "")) = steps (namesOf text) := by
    rw [steps, steps, List.filter_filter]
    apply List.filter_congr
    intro name _
    by_cases empty : name = "" <;> simp [empty]
  rcases walkNames_cases text with plain | ⟨_, withSlash⟩
  · rw [plain, kept]
  · have noStep : steps [""] = [] := by decide
    rw [withSlash, steps_append, kept, noStep, List.append_nil]

theorem slashFree_walkNames {text : List Char} : ∀ name ∈ walkNames text, '/' ∉ name.toList := by
  intro name member
  have ofNames : ∀ name ∈ (namesOf text).filter (· ≠ ""), '/' ∉ name.toList :=
    fun name member => not_mem_of_mem_namesOf (List.mem_of_mem_filter member)
  rcases walkNames_cases text with plain | ⟨_, withSlash⟩
  · rw [plain] at member
    exact ofNames name member
  · rw [withSlash] at member
    rcases List.mem_append.mp member with earlier | last
    · exact ofNames name earlier
    · rw [List.mem_singleton.mp last]
      simp

/-- Names after an anchor are walked as they are. -/
theorem walkNames_anchored (anchor : Anchor) {names : List String} (present : names ≠ [])
    (proper : ∀ name ∈ names, name ≠ "" ∧ '/' ∉ name.toList) :
    walkNames (anchor.text ++ String.intercalate "/" names).toList = names := by
  obtain ⟨slashes, allEmpty, read⟩ := namesOf_anchored anchor present
    (fun name member => (proper name member).2)
  rcases walkNames_cases (anchor.text ++ String.intercalate "/" names).toList with
    walked | ⟨trailing, _⟩
  · rw [walked, read, List.filter_append, List.filter_eq_nil_iff.mpr (by simpa using allEmpty),
      List.nil_append,
      List.filter_eq_self.mpr (by simpa using fun name member => (proper name member).1)]
  · rw [read, List.getLast?_append_of_ne_nil _ present] at trailing
    exact absurd rfl (proper "" (List.mem_of_getLast? trailing)).1

end FileSystem

/-! ## Steps up and down -/

/-- A name that stays at a location or goes up from it. -/
def IsDot (name : String) : Prop :=
  name = "" ∨ name = "." ∨ name = ".."

instance (name : String) : Decidable (IsDot name) := by
  unfold IsDot
  infer_instance

/-- A name that leads one level down. -/
def IsName (name : String) : Prop :=
  ¬ IsDot name ∧ '/' ∉ name.toList

instance (name : String) : Decidable (IsName name) := by
  unfold IsName
  infer_instance

theorem IsName.ne {name : String} (isName : IsName name) :
    name ≠ "" ∧ name ≠ "." ∧ name ≠ ".." := by
  simpa [IsDot] using isName.1

theorem IsName.isPathPart {name : String} (isName : IsName name) : IsPathPart name :=
  ⟨isName.ne.1, isName.ne.2.1, isName.2⟩

theorem isName_of_slashFree {name : String} (notIdle : ¬ (name = "" ∨ name = "."))
    (notUp : name ≠ "..") (slashFree : '/' ∉ name.toList) : IsName name :=
  ⟨fun isDot => isDot.elim (notIdle ∘ Or.inl) fun later =>
    later.elim (notIdle ∘ Or.inr) notUp, slashFree⟩

/-- A location made of names is the path with these parts. -/
theorem Path.ofText_text_location {location : Location} (proper : ∀ name ∈ location, IsName name) :
    (Path.ofText location.text).parts = location := by
  have parts : (Path.ofText location.text).parts =
      (namesOf location.text.toList).filter (decide <| IsPathPart ·) := rfl
  by_cases atRoot : location = []
  · rw [atRoot]
    decide
  · obtain ⟨slashes, allEmpty, read⟩ := namesOf_anchored .root atRoot
      (fun name member => (proper name member).2)
    have noPart : slashes.filter (decide <| IsPathPart ·) = [] := by
      rw [List.filter_eq_nil_iff]
      intro name member
      rw [allEmpty name member]
      decide
    have allParts : location.filter (decide <| IsPathPart ·) = location := by
      rw [List.filter_eq_self]
      intro name member
      simpa using (proper name member).isPathPart
    have text : location.text = Anchor.root.text ++ String.intercalate "/" location := rfl
    rw [parts, text, read, List.filter_append, noPart, allParts, List.nil_append]

/-- A location made of names is written as the path with these parts is. -/
theorem Path.text_ofText_location {location : Location} (proper : ∀ name ∈ location, IsName name) :
    (Path.ofText location.text).text = location.text := by
  have anchor : (Path.ofText location.text).anchor = .root := by
    have noSlash := head?_intercalate_ne_slash fun name member =>
      ⟨(proper name member).ne.1, (proper name member).2⟩
    have written : location.text.toList =
        Anchor.root.text.toList ++ (String.intercalate "/" location).toList := by
      simp [Location.text, Anchor.text]
    show Anchor.ofText location.text.toList = .root
    rw [written]
    exact Anchor.ofText_append .root noSlash
  rw [Path.text, anchor, Path.ofText_text_location proper, if_neg (by simp)]
  rfl

/-! ## Resolved paths -/

/-- Where the names of a text are followed from that is read at a route. -/
def Route.startOf (route : Route) (text : List Char) : Route :=
  if text.head? = some '/' then ⟨.root, []⟩ else route

namespace FileSystem

variable {files : FileSystem} {base : Location} {path target : Path}

theorem resolve_eq_ok_iff :
    files.resolve base path = .ok target ↔
      ∃ resolution,
        files.follow base linkDepth [] (Route.startOf ⟨.relative, []⟩ path.text.toList)
          (namesOf path.text.toList) = .ok resolution ∧
        resolution.route.absolute base = target ∧
        files.locate base true target.text ≠ .error .tooManyLinks := by
  unfold resolve Route.startOf namesOf
  dsimp only
  rcases files.follow base linkDepth []
      (if path.text.toList.head? = some '/' then ⟨.root, []⟩ else ⟨.relative, []⟩)
      ((Text.fields '/' path.text.toList).map String.ofList) with error | resolution
  · simp
  · dsimp only
    split
    · rename_i loops
      simp only [Except.ok.injEq, reduceCtorEq, false_iff]
      rintro ⟨_, rfl, rfl, noLoop⟩
      exact noLoop loops
    · rename_i noLoop
      simp only [Except.ok.injEq]
      constructor
      · rintro rfl
        exact ⟨resolution, rfl, rfl, noLoop⟩
      · rintro ⟨_, rfl, same, _⟩
        exact same

theorem anchor_of_resolve (resolved : files.resolve base path = .ok target) :
    target.anchor ≠ .relative := by
  obtain ⟨resolution, _, rfl, _⟩ := resolve_eq_ok_iff.mp resolved
  exact Route.anchor_absolute_ne_relative base resolution.route

end FileSystem

end PrologImage
