import PrologImage.Proofs.FileSystem.Following
import PrologImage.Proofs.FileSystem.Journey

/-!
Contract: the resolved form of a path that leads to something is where that is.

Owns: the texts that a resolution looks up, what it knows about the links that it has met, the
theorem that it gets to where a walk goes, and the physical form of a path.

Does not own: paths that lead nowhere (`Proofs.FileSystem.Agreement`).

A walk goes along the names of a link's target each time it meets the link, a resolution only the
first time. Both get to the same location, since the way over a link is always the same. The
resolution never meets a link inside that link: the way over it would be longer than itself.
-/

namespace PrologImage

/-- A character that is neither in the anchor nor in a name is not in the text of a route. -/
theorem Route.not_mem_text {route : Route} {character : Char} (different : character ≠ '/')
    (absent : ∀ name ∈ route.names, character ∉ name.toList) :
    character ∉ route.text.toList := by
  have notInAnchor : character ∉ route.anchor.text.toList := by
    cases route.anchor <;> simp [Anchor.text, different]
  have notInNames : ∀ names : List String, (∀ name ∈ names, character ∉ name.toList) →
      character ∉ (String.intercalate "/" names).toList := by
    intro names
    induction names with
    | nil => simp
    | cons name rest inductionHypothesis =>
        intro absent
        obtain ⟨notInName, notInRest⟩ := List.forall_mem_cons.mp absent
        by_cases last : rest = []
        · simpa [last] using notInName
        · rw [String.intercalate_cons_of_ne_nil last, String.toList_append, String.toList_append,
            List.mem_append, List.mem_append, not_or, not_or]
          exact ⟨⟨notInName, by simpa using different⟩, inductionHypothesis notInRest⟩
  rw [Route.text, String.toList_append, List.mem_append, not_or]
  exact ⟨notInAnchor, notInNames route.names absent⟩

namespace FileSystem

variable {files : FileSystem} {base place reached : Location} {route next : Route}
  {name target : String} {names rest : List String} {depth count longer : Nat} {entry : Entry}
  {met later : MetLinks}

/-! ## Texts that are looked up -/

/-- The texts that following names from a route looks up, in order. -/
def lookups (files : FileSystem) (base : Location) (depth : Nat) (met : MetLinks) (route : Route) :
    List String → List String
  | [] => []
  | name :: rest =>
      if name = "" ∨ name = "." then files.lookups base depth met route rest
      else if name = ".." then files.lookups base depth met route.parent rest
      else
        (route.child name).text ::
          match files.linkTarget? base (route.child name) with
          | .error _ => []
          | .ok none => files.lookups base depth met (route.child name) rest
          | .ok (some target) =>
              match met.lookup (route.child name) with
              | some (some resolved) => files.lookups base depth met resolved rest
              | some none => []
              | none =>
                  match depth with
                  | 0 => []
                  | depth + 1 =>
                      let start := route.startOf target.toList
                      let inside := (route.child name, none) :: met
                      files.lookups base depth inside start (namesOf target.toList) ++
                        match files.follow base depth inside start (namesOf target.toList) with
                        | .error _ => []
                        | .ok inner =>
                            if inner.settled then
                              files.lookups base (depth + 1)
                                ((route.child name, some inner.route) :: inner.met) inner.route rest
                            else []
termination_by names => (depth, names.length)

/-- Every text that a resolution looks up is one that the system takes. -/
def LooksUpShort (files : FileSystem) (base : Location) (path : Path) : Prop :=
  ∀ text ∈ files.lookups base linkDepth [] (Route.startOf ⟨.relative, []⟩ path.text.toList)
    (namesOf path.text.toList), text.utf8ByteSize < pathLimit

theorem lookups_idle (idle : name = "" ∨ name = ".") :
    files.lookups base depth met route (name :: rest) =
      files.lookups base depth met route rest := by
  rw [lookups, if_pos idle]

theorem lookups_up :
    files.lookups base depth met route (".." :: rest) =
      files.lookups base depth met route.parent rest := by
  rw [lookups]
  simp

theorem mem_lookups_child (isName : IsName name) :
    (route.child name).text ∈ files.lookups base depth met route (name :: rest) := by
  obtain ⟨notEmpty, notDot, notUp⟩ := isName.ne
  rw [lookups]
  simp [notEmpty, notDot, notUp]

theorem lookups_child (isName : IsName name)
    (noLink : files.linkTarget? base (route.child name) = .ok none) :
    files.lookups base depth met route (name :: rest) =
      (route.child name).text :: files.lookups base depth met (route.child name) rest := by
  obtain ⟨notEmpty, notDot, notUp⟩ := isName.ne
  rw [lookups]
  simp [notEmpty, notDot, notUp, noLink]

theorem lookups_met {resolved : Route} (isName : IsName name)
    (isLink : files.linkTarget? base (route.child name) = .ok (some target))
    (known : met.lookup (route.child name) = some (some resolved)) :
    files.lookups base depth met route (name :: rest) =
      (route.child name).text :: files.lookups base depth met resolved rest := by
  obtain ⟨notEmpty, notDot, notUp⟩ := isName.ne
  rw [lookups]
  simp [notEmpty, notDot, notUp, isLink, known]

theorem lookups_link {inner : Resolution} (isName : IsName name)
    (isLink : files.linkTarget? base (route.child name) = .ok (some target))
    (fresh : met.lookup (route.child name) = none)
    (followed : files.follow base depth ((route.child name, none) :: met)
      (route.startOf target.toList) (namesOf target.toList) = .ok inner)
    (settled : inner.settled = true) :
    files.lookups base (depth + 1) met route (name :: rest) =
      (route.child name).text ::
        (files.lookups base depth ((route.child name, none) :: met)
            (route.startOf target.toList) (namesOf target.toList) ++
          files.lookups base (depth + 1) ((route.child name, some inner.route) :: inner.met)
            inner.route rest) := by
  obtain ⟨notEmpty, notDot, notUp⟩ := isName.ne
  rw [lookups]
  simp [notEmpty, notDot, notUp, isLink, fresh, followed, settled]

/-- The texts for the target of a link that was not met before are looked up in any case. -/
theorem mem_lookups_inside {text : String} (isName : IsName name)
    (isLink : files.linkTarget? base (route.child name) = .ok (some target))
    (fresh : met.lookup (route.child name) = none)
    (member : text ∈ files.lookups base depth ((route.child name, none) :: met)
      (route.startOf target.toList) (namesOf target.toList)) :
    text ∈ files.lookups base (depth + 1) met route (name :: rest) := by
  obtain ⟨notEmpty, notDot, notUp⟩ := isName.ne
  rw [lookups]
  simp [notEmpty, notDot, notUp, isLink, fresh, member]

/-! ## Looking up what is there -/

/-- No name on the machine holds the character that ends a text for the system. -/
def NulFree (files : FileSystem) : Prop :=
  ∀ location entry, files.entry? location = some entry → ∀ name ∈ location, '\x00' ∉ name.toList

theorem NulFree.of_entries
    (noNul : ∀ held ∈ files.entries, ∀ name ∈ held.1, '\x00' ∉ name.toList) : files.NulFree := by
  intro location entry present
  unfold entry? at present
  rw [List.lookup_eq_some_iff] at present
  obtain ⟨before, after, split, _⟩ := present
  exact noNul (location, entry) (by simp [split])

namespace Denotes

variable (denotes : files.Denotes base route place) (nulFree : files.NulFree)
  (directory : files.entry? place = some .directory) (isName : IsName name)
  (short : name.utf8ByteSize ≤ nameLimit)
  (shortText : (route.child name).text.utf8ByteSize < pathLimit)

include denotes nulFree directory isName short shortText

/-- The text of a name below a route is looked up to where the name leads, be it a link or not. -/
theorem locate_child (present : files.entry? (place ++ [name]) = some entry) :
    files.locate base false (route.child name).text = .ok (place ++ [name]) := by
  have noNul : '\x00' ∉ (route.child name).text.toList := by
    refine Route.not_mem_text (by decide) (List.forall_mem_append.mpr ⟨?_, ?_⟩)
    · refine denotes.forall_mem_names (by decide) fun _ _ _ _ held => ?_
      exact nulFree _ _ held _ (by simp)
    · exact List.forall_mem_singleton.mpr (nulFree _ _ present _ (by simp))
  have walked : files.walk false linkLimit place [name] = .ok (place ++ [name]) := by
    by_cases isLink : ∃ target, entry = .link target
    · obtain ⟨target, rfl⟩ := isLink
      exact walk_last_link directory isName short present
    · rw [walk_past directory isName short present (not_exists.mp isLink), walk]
  have asChild : route.extend [name] = route.child name := by
    rw [← Route.child_extend, Route.extend_nil]
  rw [← asChild] at noNul shortText ⊢
  refine (denotes.locate_extend (List.cons_ne_nil name []) ?_).mpr ⟨noNul, shortText, walked⟩
  exact List.forall_mem_singleton.mpr isName

theorem linkTarget_of_link (isLink : files.entry? (place ++ [name]) = some (.link target)) :
    files.linkTarget? base (route.child name) = .ok (some target) :=
  (linkTarget?_eq_some_iff _ _ _ _).mpr
    ⟨_, denotes.locate_child nulFree directory isName short shortText isLink, isLink⟩

theorem linkTarget_of_past (present : files.entry? (place ++ [name]) = some entry)
    (notLink : ∀ target, entry ≠ .link target) :
    files.linkTarget? base (route.child name) = .ok none := by
  unfold linkTarget?
  rw [denotes.locate_child nulFree directory isName short shortText present]
  dsimp only
  rw [present]
  cases entry with
  | link target => exact absurd rfl (notLink target)
  | _ => rfl

end Denotes

theorem Denotes.startOf (denotes : files.Denotes base route place) (text : List Char) :
    files.Denotes base (route.startOf text) (walkStart place text) := by
  unfold Route.startOf walkStart
  split
  · exact .root
  · exact denotes

/-! ## What a resolution knows -/

/-- A link below a location that a route denotes, and the way over it. -/
def LinkAt (files : FileSystem) (base : Location) (link : Route) (count : Nat)
    (reached : Location) : Prop :=
  ∃ route name place, link = route.child name ∧ files.Denotes base route place ∧
    files.Goes count place [name] reached

/-- The way over a link does not depend on how the link was come by. -/
theorem LinkAt.goes (linkAt : files.LinkAt base (route.child name) count reached)
    (denotes : files.Denotes base route place) : files.Goes count place [name] reached := by
  obtain ⟨other, otherName, otherPlace, same, otherDenotes, goes⟩ := linkAt
  obtain ⟨rfl, rfl⟩ := Route.child_inj same
  obtain rfl := denotes.unique otherDenotes
  exact goes

/-- What a link was resolved to denotes where the way over it ends. -/
def Recalls (files : FileSystem) (base : Location) (met : MetLinks) : Prop :=
  ∀ link resolved, met.lookup link = some (some resolved) →
    ∃ count reached, files.LinkAt base link count reached ∧ files.Denotes base resolved reached

/-- The way over a link that is being resolved has more links on it than there are still to come. -/
def Awaits (files : FileSystem) (base : Location) (met : MetLinks) (count : Nat) : Prop :=
  ∀ link, met.lookup link = some none →
    ∃ longer reached, files.LinkAt base link longer reached ∧ count < longer

theorem Awaits.of_opensNone {fewer : Nat} (awaits : files.Awaits base met count)
    (opensNone : OpensNone later met) (fewerLeft : fewer ≤ count) :
    files.Awaits base later fewer := by
  intro link isPending
  obtain ⟨longer, reached, linkAt, more⟩ := awaits link (opensNone link isPending)
  exact ⟨longer, reached, linkAt, Nat.lt_of_le_of_lt fewerLeft more⟩

section Link

variable {middle : Location} {inner : Nat}

/-- A link is not met inside itself. -/
theorem Awaits.lookup_ne_pending (awaits : files.Awaits base met count)
    (denotes : files.Denotes base route place) (across : files.Goes longer place [name] middle)
    (within : longer ≤ count) : met.lookup (route.child name) ≠ some none := by
  intro isPending
  obtain ⟨other, reached, linkAt, more⟩ := awaits _ isPending
  obtain ⟨rfl, _⟩ := across.unique (linkAt.goes denotes)
  omega

theorem Recalls.denotes (recalls : files.Recalls base met)
    (denotes : files.Denotes base route place) (across : files.Goes longer place [name] middle)
    (known : met.lookup (route.child name) = some (some next)) :
    files.Denotes base next middle := by
  obtain ⟨other, reached, linkAt, denotesReached⟩ := recalls _ _ known
  obtain ⟨_, rfl⟩ := across.unique (linkAt.goes denotes)
  exact denotesReached

theorem Recalls.enter (recalls : files.Recalls base met) (link : Route) :
    files.Recalls base ((link, none) :: met) :=
  resolves_enter recalls

theorem Awaits.enter (awaits : files.Awaits base met count)
    (denotes : files.Denotes base route place) (across : files.Goes longer place [name] middle)
    (fewer : inner < longer) (within : inner ≤ count) :
    files.Awaits base ((route.child name, none) :: met) inner :=
  pending_enter ⟨longer, middle, ⟨route, name, place, rfl, denotes, across⟩, fewer⟩
    (awaits.of_opensNone (fun _ => id) within)

theorem Recalls.leave (recalls : files.Recalls base later)
    (denotes : files.Denotes base route place) (across : files.Goes longer place [name] middle)
    (denotesMiddle : files.Denotes base next middle) :
    files.Recalls base ((route.child name, some next) :: later) :=
  resolves_leave
    ⟨longer, middle, ⟨route, name, place, rfl, denotes, across⟩, denotesMiddle⟩ recalls

end Link

/-! ## The way of a resolution -/

/-- Following names gets to where the way along them ends. -/
theorem Goes.follow (goes : files.Goes count place names reached) (nulFree : files.NulFree)
    (denotes : files.Denotes base route place) (enough : count ≤ depth)
    (recalls : files.Recalls base met) (awaits : files.Awaits base met count)
    (short : ∀ text ∈ files.lookups base depth met route names, text.utf8ByteSize < pathLimit) :
    ∃ next later, files.follow base depth met route names = .ok ⟨next, true, later⟩ ∧
      files.Denotes base next reached ∧ files.Recalls base later ∧ OpensNone later met := by
  induction goes generalizing depth met route with
  | arrived =>
      refine ⟨route, met, ?_, denotes, recalls, fun _ => id⟩
      rw [FileSystem.follow]
  | idle isIdle _ inductionHypothesis =>
      rw [lookups_idle isIdle] at short
      rw [follow_idle isIdle]
      exact inductionHypothesis denotes enough recalls awaits short
  | up directory _ inductionHypothesis =>
      rw [lookups_up] at short
      rw [follow_up]
      exact inductionHypothesis (denotes.parent directory) enough recalls awaits short
  | down directory isName shortName present notLink _ inductionHypothesis =>
      have noLink := denotes.linkTarget_of_past nulFree directory isName shortName
        (short _ (mem_lookups_child isName)) present notLink
      rw [lookups_child isName noLink] at short
      rw [follow_child isName noLink]
      exact inductionHypothesis (denotes.down directory isName shortName present notLink) enough
        recalls awaits (List.forall_mem_cons.mp short).2
  | @link inner outer place middle reached name target rest directory isName shortName present
      inside onward innerHypothesis outerHypothesis =>
      have isLink := denotes.linkTarget_of_link nulFree directory isName shortName
        (short _ (mem_lookups_child isName)) present
      have across : files.Goes (inner + 0 + 1) place [name] middle :=
        .link directory isName shortName present inside .arrived
      cases known : met.lookup (route.child name) with
      | some outcome =>
          cases outcome with
          | some resolved =>
              rw [lookups_met isName isLink known] at short
              rw [follow_met isName isLink known]
              exact outerHypothesis (recalls.denotes denotes across known) (by omega) recalls
                (awaits.of_opensNone (fun _ => id) (by omega)) (List.forall_mem_cons.mp short).2
          | none => exact absurd known (awaits.lookup_ne_pending denotes across (by omega))
      | none =>
          obtain ⟨fewer, rfl⟩ : ∃ fewer, depth = fewer + 1 := ⟨depth - 1, by omega⟩
          obtain ⟨resolved, between, followed, denotesMiddle, recallsBetween, opensInside⟩ :=
            innerHypothesis (denotes.startOf target.toList) (by omega)
              (recalls.enter (route.child name))
              (awaits.enter denotes across (Nat.lt_succ_self _) (by omega))
              fun text member => short text (mem_lookups_inside isName isLink known member)
          have opensBetween : OpensNone ((route.child name, some resolved) :: between) met :=
            opensInside.leave
          rw [lookups_link isName isLink known followed rfl] at short
          rw [follow_link isName isLink known followed rfl]
          obtain ⟨next, later, ended, denotesReached, recallsLater, opensLater⟩ :=
            outerHypothesis denotesMiddle (by omega)
              (recallsBetween.leave denotes across denotesMiddle)
              (awaits.of_opensNone opensBetween (by omega))
              fun text member => short text
                (List.mem_cons_of_mem _ (List.mem_append_right _ member))
          exact ⟨next, later, ended, denotesReached, recallsLater,
            fun link isPending => opensBetween link (opensLater link isPending)⟩

/-! ## Physical forms -/

/-- The path is the place of what a text leads to: it is written as this location, each part of it
is a name, and there is no link on the way to it. -/
structure IsPhysicalForm (files : FileSystem) (base : Location) (text : String) (target : Path) :
    Prop where
  located : files.locate base true text = .ok target.parts
  written : target.text = Location.text target.parts
  named : ∀ part ∈ target.parts, IsName part
  noLink : ∀ front, front <+: target.parts → ∀ link, files.entry? front ≠ some (.link link)

/-- The lookup of a physical location does not run out of links. -/
theorem IsPhysical.locate_text_ne_tooManyLinks (physical : files.IsPhysical place)
    (noLink : ∀ target, files.entry? place ≠ some (.link target)) :
    files.locate base true place.text ≠ .error .tooManyLinks := by
  have start : walkStart base place.text.toList = [] := by simp [walkStart, Location.text]
  apply locate_ne_tooManyLinks
  rw [start]
  by_cases atRoot : place = []
  · have names : walkNames (Location.text []).toList = [""] := by decide
    rw [atRoot, names, walk]
    cases allowed : files.allow [] "" with
    | error error =>
        intro out
        cases out
        exact allow_ne_tooManyLinks allowed
    | ok _ =>
        rw [walk]
        simp
  · have names : walkNames place.text.toList = place :=
      walkNames_anchored .root atRoot fun name member =>
        ⟨(physical.named name member).ne.1, (physical.named name member).2⟩
    rw [names]
    exact walk_ne_tooManyLinks physical.named fun front beginning target =>
      physical.noLink (noLink target) beginning

theorem IsPhysical.isPhysicalForm {text : String} (physical : files.IsPhysical place)
    (noLink : ∀ target, files.entry? place ≠ some (.link target))
    (located : files.locate base true text = .ok place) :
    files.IsPhysicalForm base text (Path.ofText place.text) := by
  have parts := Path.ofText_text_location physical.named
  refine ⟨?_, ?_, ?_, ?_⟩
  · rw [parts, located]
  · rw [parts, Path.text_ofText_location physical.named]
  · rw [parts]
    exact physical.named
  · intro front beginning link
    rw [parts] at beginning
    exact physical.noLink (noLink link) beginning

/-- A path whose steps are those of a text that leads to something resolves to its place. -/
theorem resolve_of_located {text : String} {path : Path} (physical : files.IsPhysical base)
    (nulFree : files.NulFree) (located : files.locate base true text = .ok place)
    (noLink : ∀ target, files.entry? place ≠ some (.link target))
    (sameStart : path.text.toList.head? = some '/' ↔ text.toList.head? = some '/')
    (sameSteps : steps (namesOf path.text.toList) = steps (namesOf text.toList))
    (short : files.LooksUpShort base path) :
    ∃ target, files.resolve base path = .ok target ∧ files.IsPhysicalForm base text target := by
  obtain ⟨_, _, _, walked⟩ := (locate_eq_ok_iff _ _ _ _ _).mp located
  obtain ⟨count, atMost, goesText⟩ := goes_of_walk slashFree_walkNames walked
  have start : walkStart base text.toList = walkStart base path.text.toList := by
    simp only [walkStart, sameStart]
  rw [start] at goesText
  have goes : files.Goes count (walkStart base path.text.toList) (namesOf path.text.toList) place :=
    goesText.of_steps_eq ((steps_walkNames _).trans sameSteps.symm)
  have physicalPlace : files.IsPhysical place := goes.isPhysical (physical.atStart _)
  have enough : count ≤ linkDepth := atMost.trans (by decide)
  have recalls : files.Recalls base [] := by simp [Recalls]
  have awaits : files.Awaits base [] count := by simp [Awaits]
  obtain ⟨next, later, followed, denotes, _⟩ :=
    goes.follow nulFree (Denotes.base.startOf path.text.toList) enough recalls awaits short
  have ofOrigin : ∀ name ∈ next.origin base, IsName name := by
    unfold Route.origin
    split
    · exact physical.named
    · simp
  have absolute : (next.extend []).absolute base = Path.ofText (Location.text (place ++ [])) :=
    denotes.absolute_extend ofOrigin (by simp)
  rw [Route.extend_nil, List.append_nil] at absolute
  refine ⟨Path.ofText place.text, ?_, physicalPlace.isPhysicalForm noLink located⟩
  refine resolve_eq_ok_iff.mpr ⟨⟨next, true, later⟩, followed, absolute, ?_⟩
  rw [Path.text_ofText_location physicalPlace.named]
  exact physicalPlace.locate_text_ne_tooManyLinks noLink

end FileSystem

end PrologImage
