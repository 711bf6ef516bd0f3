import PrologImage.Proofs.FileSystem.Passage

/-!
Contract: where the routes of a resolution lead.

Owns: routes that denote a location, which may be a file; routes that stand at one, from where names
can be looked up; the lookup of names below such a route; and routes that have gone further, to
where no link is seen any more.

Does not own: how a resolution gets from one route to the next (`Proofs.FileSystem.Following`).

A route is looked up as a text each time. A text that is too long is not looked up at all, so the
names below it count as no links even where links are; a walk meets them, and so it does after the
resolution.
-/

namespace PrologImage

namespace Route

/-- The location that the names of a route are looked up from. -/
def origin (base : Location) (route : Route) : Location :=
  if route.anchor = .relative then base else []

/-- The route with more names after it. -/
def extend (route : Route) (more : List String) : Route :=
  { route with names := route.names ++ more }

variable {base : Location} {route other : Route} {name otherName : String} {more : List String}

@[simp] theorem extend_nil (route : Route) : route.extend [] = route := by
  simp [extend]

@[simp] theorem origin_child (base : Location) (route : Route) (name : String) :
    (route.child name).origin base = route.origin base := rfl

theorem child_extend (route : Route) (name : String) (more : List String) :
    (route.child name).extend more = route.extend (name :: more) := by
  simp [extend, child]

theorem extend_child (route : Route) (name : String) (more : List String) :
    (route.extend more).child name = route.extend (more ++ [name]) := by
  simp [extend, child]

theorem child_inj (same : route.child name = other.child otherName) :
    route = other ∧ name = otherName := by
  obtain ⟨anchor, names⟩ := route
  obtain ⟨otherAnchor, otherNames⟩ := other
  obtain ⟨rfl, rfl, rfl⟩ : anchor = otherAnchor ∧ names = otherNames ∧ name = otherName := by
    simpa [child] using same
  exact ⟨rfl, rfl⟩

/-- The text of a route goes on after a name that more names follow. -/
theorem text_extend_cons (present : more ≠ []) :
    (route.extend (name :: more)).text =
      (route.extend [name]).text ++ "/" ++ String.intercalate "/" more := by
  have split : String.intercalate "/" (route.names ++ [name] ++ more) =
      String.intercalate "/" (route.names ++ [name]) ++ "/" ++ String.intercalate "/" more :=
    String.intercalate_append_of_ne_nil (by simp) present
  simp only [text, extend, ← split, String.append_assoc, List.append_assoc,
    List.singleton_append]

/-- Above a name that is not a double dot is the route before it. -/
theorem parent_child_of_isName (isName : IsName name) : (route.child name).parent = route := by
  simp [parent, child, isName.ne.2.2]

theorem parent_child_up : (route.child "..").parent = (route.child "..").child ".." := by
  simp [parent, child]

theorem collapse_child_up (names : List String) :
    collapse (names ++ [".."]) = (collapse names).dropLast := by
  simp [collapse]

theorem collapse_child (isName : IsName name) (names : List String) :
    collapse (names ++ [name]) = collapse names ++ [name] := by
  obtain ⟨notEmpty, notDot, notUp⟩ := isName.ne
  simp [collapse, notEmpty, notDot, notUp]

theorem collapse_append {front back : List String} (proper : ∀ name ∈ back, IsName name) :
    collapse (front ++ back) = collapse front ++ back := by
  induction back using List.reverseRecOn with
  | nil => simp
  | append_singleton names name inductionHypothesis =>
      have ofLast : IsName name := proper name (by simp)
      have ofFront : ∀ name ∈ names, IsName name :=
        fun name member => proper name (List.mem_append_left _ member)
      rw [← List.append_assoc, collapse_child ofLast, inductionHypothesis ofFront,
        List.append_assoc]

end Route

namespace FileSystem

/-! ## Routes that name a location -/

/-- A route whose names lead to a location, up or down from one directory that can be entered to the
next, and not over a link. -/
inductive Denotes (files : FileSystem) (base : Location) : Route → Location → Prop
  | base : Denotes files base ⟨.relative, []⟩ base
  | root : Denotes files base ⟨.root, []⟩ []
  | up {route : Route} {place : Location} : Denotes files base route place →
      files.entry? place = some .directory →
      Denotes files base (route.child "..") place.dropLast
  | down {route : Route} {place : Location} {name : String} {entry : Entry} :
      Denotes files base route place → files.entry? place = some .directory → IsName name →
      name.utf8ByteSize ≤ nameLimit → files.entry? (place ++ [name]) = some entry →
      (∀ target, entry ≠ .link target) → Denotes files base (route.child name) (place ++ [name])

variable {files : FileSystem} {base place : Location} {route : Route} {name target : String}
  {more rest : List String} {followLast : Bool} {links : Nat} {reached : Location} {entry : Entry}

namespace Denotes

/-- One double dot leads to the parent of the route and up from the location. -/
theorem parent (denotes : files.Denotes base route place)
    (directory : files.entry? place = some .directory) :
    files.Denotes base route.parent place.dropLast := by
  cases denotes with
  | base => exact .up .base directory
  | root => exact .root
  | up above aboveDirectory =>
      rw [Route.parent_child_up]
      exact .up (.up above aboveDirectory) directory
  | down above _ isName _ _ _ =>
      rw [Route.parent_child_of_isName isName, List.dropLast_concat]
      exact above

theorem anchor_ne_doubleRoot (denotes : files.Denotes base route place) :
    route.anchor ≠ .doubleRoot := by
  induction denotes with
  | base | root => simp
  | up _ _ inductionHypothesis => exact inductionHypothesis
  | down _ _ _ _ _ _ inductionHypothesis => exact inductionHypothesis

/-- The names of a route are double dots and names that were looked up. -/
theorem forall_mem_names {property : String → Prop} (denotes : files.Denotes base route place)
    (ofUp : property "..")
    (ofName : ∀ place name entry, IsName name → files.entry? (place ++ [name]) = some entry →
      property name) :
    ∀ name ∈ route.names, property name := by
  induction denotes with
  | base | root => simp
  | up _ _ inductionHypothesis =>
      exact List.forall_mem_append.mpr ⟨inductionHypothesis, List.forall_mem_singleton.mpr ofUp⟩
  | down _ _ isName _ present _ inductionHypothesis =>
      exact List.forall_mem_append.mpr
        ⟨inductionHypothesis, List.forall_mem_singleton.mpr (ofName _ _ _ isName present)⟩

theorem isPathPart (denotes : files.Denotes base route place) :
    ∀ name ∈ route.names, IsPathPart name :=
  denotes.forall_mem_names (by decide) fun _ _ _ isName _ => isName.isPathPart

/-- The names of a route are walked to the location that it denotes. -/
theorem walk_names (denotes : files.Denotes base route place) (rest : List String) :
    files.walk followLast links (route.origin base) (route.names ++ rest) =
      files.walk followLast links place rest := by
  induction denotes generalizing rest with
  | base | root => rfl
  | up above directory inductionHypothesis =>
      rw [Route.origin_child, Route.child, List.append_assoc, inductionHypothesis,
        List.singleton_append, walk_up directory]
  | down above directory isName short present notLink inductionHypothesis =>
      rw [Route.origin_child, Route.child, List.append_assoc, inductionHypothesis,
        List.singleton_append, walk_past directory isName short present notLink]

/-- The location that a route denotes is determined by its names. -/
theorem unique (denotes : files.Denotes base route place)
    (again : files.Denotes base route reached) : place = reached := by
  have same : files.walk true 0 place [] = files.walk true 0 reached [] :=
    (denotes.walk_names []).symm.trans (again.walk_names [])
  rw [walk, walk] at same
  exact Except.ok.inj same

theorem collapse_names (denotes : files.Denotes base route place)
    (proper : ∀ name ∈ route.origin base, IsName name) :
    Route.collapse (route.origin base ++ route.names) = place := by
  induction denotes with
  | base =>
      have whole : Route.collapse ([] ++ base) = [] ++ base := Route.collapse_append proper
      simpa [Route.origin] using whole
  | root => rfl
  | up _ _ inductionHypothesis =>
      rw [Route.origin_child, Route.child, ← List.append_assoc, Route.collapse_child_up,
        inductionHypothesis proper]
  | down _ _ isName _ _ _ inductionHypothesis =>
      rw [Route.origin_child, Route.child, ← List.append_assoc, Route.collapse_child isName,
        inductionHypothesis proper]

/-- The text of a route with names after it is looked up as these names from the location that the
route denotes. -/
theorem locate_extend (denotes : files.Denotes base route place) (present : more ≠ [])
    (proper : ∀ name ∈ more, IsName name) :
    files.locate base followLast (route.extend more).text = .ok reached ↔
      '\x00' ∉ (route.extend more).text.toList ∧
      (route.extend more).text.utf8ByteSize < pathLimit ∧
      files.walk followLast linkLimit place more = .ok reached := by
  have properNames : ∀ name ∈ route.names ++ more, name ≠ "" ∧ '/' ∉ name.toList := by
    intro name member
    rcases List.mem_append.mp member with earlier | later
    · exact ⟨(denotes.isPathPart name earlier).1, (denotes.isPathPart name earlier).2.2⟩
    · exact ⟨(proper name later).isPathPart.1, (proper name later).2⟩
  have presentNames : route.names ++ more ≠ [] := List.append_ne_nil_of_right_ne_nil _ present
  have names : walkNames (route.extend more).text.toList = route.names ++ more :=
    walkNames_anchored route.anchor presentNames properNames
  have start : walkStart base (route.extend more).text.toList = route.origin base := by
    have absolute : (route.extend more).text.toList.head? = some '/' ↔ route.anchor ≠ .relative :=
      head?_anchored route.anchor presentNames properNames
    by_cases relative : route.anchor = .relative
    · rw [walkStart, if_neg (fun slash => absolute.mp slash relative), Route.origin,
        if_pos relative]
    · rw [walkStart, if_pos (absolute.mpr relative), Route.origin, if_neg relative]
  have notEmpty : (route.extend more).text ≠ "" := by
    intro empty
    rw [empty] at names
    exact presentNames names.symm
  rw [locate_eq_ok_iff, start, names, denotes.walk_names]
  simp [notEmpty]

/-- The absolute form of a route with names below it. -/
theorem absolute_extend (denotes : files.Denotes base route place)
    (ofOrigin : ∀ name ∈ route.origin base, IsName name) (proper : ∀ name ∈ more, IsName name) :
    (route.extend more).absolute base = Path.ofText (Location.text (place ++ more)) := by
  have collapsed : Route.collapse (route.origin base ++ route.names ++ more) = place ++ more := by
    rw [Route.collapse_append proper, denotes.collapse_names ofOrigin]
  rw [← collapsed, List.append_assoc]
  cases anchor : route.anchor with
  | relative => simp [Route.absolute, Route.extend, Route.origin, anchor]
  | root => simp [Route.absolute, Route.extend, Route.origin, anchor, Location.text, Anchor.text]
  | doubleRoot => exact absurd anchor denotes.anchor_ne_doubleRoot

end Denotes

/-! ## Routes that stand -/

/-- A route whose names lead to a location by directories that can be entered, up or down. -/
inductive Stands (files : FileSystem) (base : Location) : Route → Location → Prop
  | base : files.Enterable base → Stands files base ⟨.relative, []⟩ base
  | root : files.Enterable [] → Stands files base ⟨.root, []⟩ []
  | up {route : Route} {place : Location} : Stands files base route place →
      Stands files base (route.child "..") place.dropLast
  | down {route : Route} {place : Location} {name : String} : Stands files base route place →
      IsName name → name.utf8ByteSize ≤ nameLimit →
      files.entry? (place ++ [name]) = some .directory →
      Stands files base (route.child name) (place ++ [name])

namespace Stands

theorem enterable (stands : files.Stands base route place) : files.Enterable place := by
  induction stands with
  | base enterable => exact enterable
  | root enterable => exact enterable
  | up _ inductionHypothesis => exact inductionHypothesis.dropLast
  | down _ isName short directory inductionHypothesis =>
      exact inductionHypothesis.down isName short directory

/-- A standing route denotes the location where it stands. -/
theorem denotes (stands : files.Stands base route place) : files.Denotes base route place := by
  induction stands with
  | base _ => exact .base
  | root _ => exact .root
  | up above inductionHypothesis => exact .up inductionHypothesis above.enterable.directory
  | down above isName short directory inductionHypothesis =>
      exact .down inductionHypothesis above.enterable.directory isName short directory (by simp)

/-- One double dot leads to the parent of the route and up from the location. -/
theorem parent (stands : files.Stands base route place) :
    files.Stands base route.parent place.dropLast := by
  cases stands with
  | base enterable => exact .up (.base enterable)
  | root enterable => exact .root enterable
  | up above =>
      rw [Route.parent_child_up]
      exact .up (.up above)
  | down above isName _ _ =>
      rw [Route.parent_child_of_isName isName, List.dropLast_concat]
      exact above

theorem isName_origin (stands : files.Stands base route place) :
    ∀ name ∈ route.origin base, IsName name := by
  induction stands with
  | base enterable => exact fun _ => enterable.isName_of_mem
  | root _ => simp [Route.origin]
  | up _ inductionHypothesis => exact inductionHypothesis
  | down _ _ _ _ inductionHypothesis => exact inductionHypothesis

/-- The location where a route stands is determined by its names. -/
theorem unique (stands : files.Stands base route place)
    (again : files.Stands base route reached) : place = reached :=
  stands.denotes.unique again.denotes

/-- Names that lead down to a location that can be entered extend a standing route. -/
theorem extend (stands : files.Stands base route place)
    (enterable : files.Enterable (place ++ more)) :
    files.Stands base (route.extend more) (place ++ more) := by
  induction more using List.reverseRecOn with
  | nil => simpa using stands
  | append_singleton front name inductionHypothesis =>
      rw [← List.append_assoc] at enterable
      obtain ⟨above, isName, short, directory⟩ := enterable.of_append_singleton
      rw [← List.append_assoc, ← Route.extend_child]
      exact .down (inductionHypothesis above) isName short directory

theorem absolute_extend (stands : files.Stands base route place)
    (proper : ∀ name ∈ more, IsName name) :
    (route.extend more).absolute base = Path.ofText (Location.text (place ++ more)) :=
  stands.denotes.absolute_extend stands.isName_origin proper

/-- The text of a route with names after it is looked up as these names from where the route
stands. -/
theorem locate_extend (stands : files.Stands base route place) (present : more ≠ [])
    (proper : ∀ name ∈ more, IsName name) :
    files.locate base followLast (route.extend more).text = .ok reached ↔
      '\x00' ∉ (route.extend more).text.toList ∧
      (route.extend more).text.utf8ByteSize < pathLimit ∧
      files.walk followLast linkLimit place more = .ok reached :=
  stands.denotes.locate_extend present proper

end Stands

/-! ## Links -/

theorem linkTarget?_eq_some_iff (files : FileSystem) (base : Location) (route : Route)
    (target : String) :
    files.linkTarget? base route = .ok (some target) ↔
      ∃ reached, files.locate base false route.text = .ok reached ∧
        files.entry? reached = some (.link target) := by
  unfold linkTarget?
  cases files.locate base false route.text with
  | error error => cases error <;> simp
  | ok reached =>
      cases entry : files.entry? reached with
      | none => simp [entry]
      | some here => cases here <;> simp [entry]

namespace Stands

/-- A child of a standing route names a link only if one is there. -/
theorem link_of_linkTarget (stands : files.Stands base route place) (isName : IsName name)
    (isLink : files.linkTarget? base (route.child name) = .ok (some target)) :
    name.utf8ByteSize ≤ nameLimit ∧ files.entry? (place ++ [name]) = some (.link target) := by
  obtain ⟨reached, located, atReached⟩ := (linkTarget?_eq_some_iff _ _ _ _).mp isLink
  have onlyName : ∀ other ∈ [name], IsName other := by simpa using isName
  have walked := ((stands.locate_extend (List.cons_ne_nil name []) onlyName).mp located).2.2
  obtain ⟨_, short, entry, present, ⟨_, last⟩ | ⟨notLink, later⟩⟩ :=
    walk_name_eq_ok isName walked
  · rw [last ⟨rfl, rfl⟩] at atReached
    exact ⟨short, atReached⟩
  · rw [walk, Except.ok.injEq] at later
    rw [← later, present, Option.some.injEq] at atReached
    exact absurd atReached (notLink target)

/-- Nothing below a child that names no link is seen as a link, unless the child is a directory that
can be entered. -/
theorem linkTarget_below_ne_some (stands : files.Stands base route place) (isName : IsName name)
    (noLink : files.linkTarget? base (route.child name) = .ok none)
    (closed : ¬ (name.utf8ByteSize ≤ nameLimit ∧
      files.entry? (place ++ [name]) = some .directory))
    (present : more ≠ []) (proper : ∀ name ∈ more, IsName name) :
    files.linkTarget? base ((route.child name).extend more) ≠ .ok (some target) := by
  intro isLink
  obtain ⟨reached, located, _⟩ := (linkTarget?_eq_some_iff _ _ _ _).mp isLink
  rw [Route.child_extend] at located
  obtain ⟨noNul, shortText, walked⟩ :=
    (stands.locate_extend (by simp) (List.forall_mem_cons.mpr ⟨isName, proper⟩)).mp located
  obtain ⟨directory, short, entry, here, ⟨⟨other, rfl⟩, _⟩ | ⟨_, later⟩⟩ :=
    walk_name_eq_ok isName walked
  · -- The text of the child is a part of the longer one, so the child is looked up as well.
    have located : files.locate base false (route.extend [name]).text = .ok (place ++ [name]) := by
      rw [stands.locate_extend (by simp) (by simpa using isName)]
      rw [Route.text_extend_cons present] at noNul shortText
      refine ⟨?_, ?_, walk_last_link directory isName short here⟩
      · intro nul
        exact noNul (by simp [nul])
      · rw [String.utf8ByteSize_append, String.utf8ByteSize_append] at shortText
        omega
    have isOther : files.linkTarget? base (route.child name) = .ok (some other) :=
      (linkTarget?_eq_some_iff _ _ _ _).mpr ⟨_, located, here⟩
    rw [noLink] at isOther
    cases isOther
  · obtain ⟨first, others, rfl⟩ := List.exists_cons_of_ne_nil present
    have entered := (walk_name_eq_ok (proper first List.mem_cons_self) later).1
    exact closed ⟨short, entered⟩

end Stands

/-! ## Reached routes -/

variable {trail : List String}

/-- A route from where it stands to names below, under which no link is seen. -/
structure Reached (files : FileSystem) (base : Location) (route : Route) (place : Location)
    (trail : List String) : Prop where
  stands : ∃ start, files.Stands base start place ∧ route = start.extend trail
  proper : ∀ name ∈ trail, IsName name
  blocked : trail ≠ [] → ∀ more, more ≠ [] → (∀ name ∈ more, IsName name) →
    ∀ target, files.linkTarget? base (route.extend more) ≠ .ok (some target)

namespace Reached

theorem of_stands (stands : files.Stands base route place) : files.Reached base route place [] where
  stands := ⟨route, stands, route.extend_nil.symm⟩
  proper := by simp
  blocked := fun some => absurd rfl some

theorem enterable (reached : files.Reached base route place trail) : files.Enterable place := by
  obtain ⟨start, stands, _⟩ := reached.stands
  exact stands.enterable

/-- The absolute form of a route names the location that it leads to. -/
theorem parts_absolute (reached : files.Reached base route place trail) :
    (route.absolute base).parts = place ++ trail := by
  obtain ⟨start, stands, rfl⟩ := reached.stands
  have proper : ∀ name ∈ place ++ trail, IsName name := by
    intro name member
    rcases List.mem_append.mp member with above | below
    · exact stands.enterable.isName_of_mem above
    · exact reached.proper name below
  rw [stands.absolute_extend reached.proper, Path.ofText_text_location proper]

/-- A route to a location that can be entered stands there. -/
theorem stands_of_enterable (reached : files.Reached base route place trail)
    (enterable : files.Enterable (place ++ trail)) : files.Stands base route (place ++ trail) := by
  obtain ⟨start, stands, rfl⟩ := reached.stands
  exact stands.extend enterable

/-- A child at which no link is seen is reached. -/
theorem child (reached : files.Reached base route place trail) (isName : IsName name)
    (noLink : files.linkTarget? base (route.child name) = .ok none) :
    ∃ other others, files.Reached base (route.child name) other others ∧
      files.LeadsTo 0 place (trail ++ [name]) other others := by
  by_cases stays : trail = [] ∧ name.utf8ByteSize ≤ nameLimit ∧
      files.entry? (place ++ [name]) = some .directory
  · obtain ⟨rfl, short, directory⟩ := stays
    have stands := reached.stands_of_enterable (by simpa using reached.enterable)
    rw [List.append_nil] at stands
    refine ⟨place ++ [name], [], of_stands (stands.down isName short directory), .of_walk_eq ?_⟩
    intro links rest
    exact walk_down stands.enterable.directory isName short directory
  · refine ⟨place, trail ++ [name], ⟨?_, ?_, ?_⟩, .refl files place _⟩
    · obtain ⟨start, stands, rfl⟩ := reached.stands
      exact ⟨start, stands, start.extend_child name trail⟩
    · intro other member
      rcases List.mem_append.mp member with earlier | last
      · exact reached.proper other earlier
      · exact List.mem_singleton.mp last ▸ isName
    · intro _ more present proper target
      by_cases first : trail = []
      · have stands := reached.stands_of_enterable (by simpa [first] using reached.enterable)
        rw [first, List.append_nil] at stands
        refine stands.linkTarget_below_ne_some isName noLink ?_ present proper
        exact fun directory => stays ⟨first, directory⟩
      · rw [Route.child_extend]
        exact reached.blocked first _ (by simp) (List.forall_mem_cons.mpr ⟨isName, proper⟩) target

/-- A link is only seen from where a route stands. -/
theorem stands_of_link (reached : files.Reached base route place trail) (isName : IsName name)
    (isLink : files.linkTarget? base (route.child name) = .ok (some target)) :
    trail = [] ∧ files.Stands base route place := by
  have atEnd : trail = [] := by
    by_contra further
    exact reached.blocked further [name] (by simp) (by simpa using isName) target isLink
  refine ⟨atEnd, ?_⟩
  have stands := reached.stands_of_enterable (by simpa [atEnd] using reached.enterable)
  rwa [atEnd, List.append_nil] at stands

end Reached

end FileSystem

end PrologImage
