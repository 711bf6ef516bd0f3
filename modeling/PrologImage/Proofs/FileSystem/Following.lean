import PrologImage.Proofs.FileSystem.Standing

/-!
Contract: resolving a path name by name.

Owns: one equation for each step of a resolution, what is known of the links that it has met when
it goes into a link and comes back, names whose dots are all taken where a directory can be entered,
and straight texts, whose names are such names wherever a route stands.

Does not own: what the resolution says about walks (`Proofs.FileSystem.Agreement`).
-/

namespace PrologImage

namespace FileSystem

variable {files : FileSystem} {base place : Location} {route : Route} {name target : String}
  {names rest : List String} {depth : Nat} {met : MetLinks}

/-! ## Steps of a resolution -/

theorem follow_idle (idle : name = "" ∨ name = ".") :
    files.follow base depth met route (name :: rest) =
      files.follow base depth met route rest := by
  rw [follow, if_pos idle]

theorem follow_up :
    files.follow base depth met route (".." :: rest) =
      files.follow base depth met route.parent rest := by
  rw [follow]
  simp

theorem follow_child (isName : IsName name)
    (noLink : files.linkTarget? base (route.child name) = .ok none) :
    files.follow base depth met route (name :: rest) =
      files.follow base depth met (route.child name) rest := by
  obtain ⟨notEmpty, notDot, notUp⟩ := isName.ne
  rw [follow]
  simp [notEmpty, notDot, notUp, noLink]

theorem follow_met {resolved : Route} (isName : IsName name)
    (isLink : files.linkTarget? base (route.child name) = .ok (some target))
    (known : met.lookup (route.child name) = some (some resolved)) :
    files.follow base depth met route (name :: rest) =
      files.follow base depth met resolved rest := by
  obtain ⟨notEmpty, notDot, notUp⟩ := isName.ne
  rw [follow]
  simp [notEmpty, notDot, notUp, isLink, known]

theorem follow_link {inner : Resolution} (isName : IsName name)
    (isLink : files.linkTarget? base (route.child name) = .ok (some target))
    (fresh : met.lookup (route.child name) = none)
    (followed : files.follow base depth ((route.child name, none) :: met)
      (route.startOf target.toList) (namesOf target.toList) = .ok inner)
    (settled : inner.settled = true) :
    files.follow base (depth + 1) met route (name :: rest) =
      files.follow base (depth + 1) ((route.child name, some inner.route) :: inner.met)
        inner.route rest := by
  obtain ⟨notEmpty, notDot, notUp⟩ := isName.ne
  rw [Route.startOf, namesOf] at followed
  rw [follow]
  simp [notEmpty, notDot, notUp, isLink, fresh, followed, settled]

/-! ## Links that were met -/

/-- No link is being resolved that was not being resolved before. -/
def OpensNone (later met : MetLinks) : Prop :=
  ∀ link, later.lookup link = some none → met.lookup link = some none

section Met

variable {link next : Route} {later : MetLinks} {Resolves : Route → Route → Prop}
  {Pending : Route → Prop}

/-- Going into a link resolves none. -/
theorem resolves_enter
    (known : ∀ other resolved, met.lookup other = some (some resolved) → Resolves other resolved)
    (other resolved : Route)
    (isKnown : List.lookup other ((link, none) :: met) = some (some resolved)) :
    Resolves other resolved := by
  rw [List.lookup_cons] at isKnown
  split at isKnown
  · cases isKnown
  · exact known other resolved isKnown

/-- Going into a link makes it the only new one that is being resolved. -/
theorem pending_enter (here : Pending link)
    (known : ∀ other, met.lookup other = some none → Pending other) (other : Route)
    (isPending : List.lookup other ((link, none) :: met) = some none) : Pending other := by
  rw [List.lookup_cons] at isPending
  split at isPending
  · rename_i same
    rwa [beq_iff_eq.mp same]
  · exact known other isPending

/-- Coming back from a link makes it the only new one that is resolved. -/
theorem resolves_leave (here : Resolves link next)
    (known : ∀ other resolved, later.lookup other = some (some resolved) → Resolves other resolved)
    (other resolved : Route)
    (isKnown : List.lookup other ((link, some next) :: later) = some (some resolved)) :
    Resolves other resolved := by
  rw [List.lookup_cons] at isKnown
  split at isKnown
  · rename_i same
    obtain rfl := Option.some.inj (Option.some.inj isKnown)
    rwa [beq_iff_eq.mp same]
  · exact known other resolved isKnown

/-- Coming back from a link leaves those being resolved that were so before. -/
theorem OpensNone.leave (opensNone : OpensNone later ((link, none) :: met)) :
    OpensNone ((link, some next) :: later) met := by
  intro other isPending
  rw [List.lookup_cons] at isPending
  split at isPending
  · cases isPending
  · rename_i elsewhere
    simpa only [List.lookup_cons, elsewhere] using opensNone other isPending

end Met

/-! ## Dots on the way -/

/-- Each dot among names is taken where a directory can be entered. -/
def Grounded (files : FileSystem) (base : Location) (depth : Nat) (met : MetLinks) (route : Route)
    (names : List String) : Prop :=
  ∀ before dot after resolution, names = before ++ dot :: after → IsDot dot →
    files.follow base depth met route before = .ok resolution → resolution.settled = true →
    files.Enterable (resolution.route.absolute base).parts

theorem Grounded.head (grounded : files.Grounded base depth met route (name :: rest))
    (isDot : IsDot name) : files.Enterable (route.absolute base).parts := by
  refine grounded [] name rest ⟨route, true, met⟩ rfl isDot ?_ rfl
  rw [follow]

theorem Grounded.tail {later : Nat} {known : MetLinks} {next : Route}
    (grounded : files.Grounded base depth met route (name :: rest))
    (same : ∀ before, files.follow base depth met route (name :: before) =
      files.follow base later known next before) :
    files.Grounded base later known next rest := by
  intro before dot after resolution split isDot followed settled
  refine grounded (name :: before) dot after resolution ?_ isDot ?_ settled
  · rw [split, List.cons_append]
  · rw [same, followed]

/-- A path text in which only dots come before a dot. -/
def IsStraight (text : String) : Prop :=
  ∀ name ∈ (namesOf text.toList).dropWhile (IsDot ·), ¬ IsDot name

instance (text : String) : Decidable (IsStraight text) := by
  unfold IsStraight
  infer_instance

theorem Stands.startOf (stands : files.Stands base route place) (text : List Char) :
    files.Stands base (route.startOf text) (walkStart place text) := by
  unfold Route.startOf walkStart
  split
  · exact .root stands.enterable.isRoot
  · exact stands

def HasStraightLinks (files : FileSystem) : Prop :=
  ∀ location target, files.entry? location = some (.link target) → IsStraight target

/-- From a standing route dots lead to a standing route. -/
theorem Stands.follow_dots (stands : files.Stands base route place)
    (allDots : ∀ name ∈ names, IsDot name) :
    ∃ next other, files.Stands base next other ∧
      files.follow base depth met route names = .ok ⟨next, true, met⟩ := by
  induction names generalizing route place with
  | nil => exact ⟨route, place, stands, by rw [follow]⟩
  | cons name names inductionHypothesis =>
      obtain ⟨isDot, laterDots⟩ := List.forall_mem_cons.mp allDots
      rcases isDot with empty | dot | rfl
      · rw [follow_idle (Or.inl empty)]
        exact inductionHypothesis stands laterDots
      · rw [follow_idle (Or.inr dot)]
        exact inductionHypothesis stands laterDots
      · rw [follow_up]
        exact inductionHypothesis stands.parent laterDots

theorem before_dot_of_straight {before after : List String} {dot : String}
    (straight : ∀ name ∈ (before ++ dot :: after).dropWhile (IsDot ·), ¬ IsDot name)
    (isDot : IsDot dot) : ∀ name ∈ before, IsDot name := by
  induction before with
  | nil => simp
  | cons first before inductionHypothesis =>
      by_cases firstDot : IsDot first
      · rw [List.cons_append, List.dropWhile_cons_of_pos (by simpa using firstDot)] at straight
        exact List.forall_mem_cons.mpr ⟨firstDot, inductionHypothesis straight⟩
      · rw [List.cons_append, List.dropWhile_cons_of_neg (by simpa using firstDot)] at straight
        exact absurd isDot (straight dot (by simp))

/-- The names of a straight text are grounded wherever a route stands. -/
theorem Stands.grounded (stands : files.Stands base route place) (straight : IsStraight target) :
    files.Grounded base depth met route (namesOf target.toList) := by
  intro before dot after resolution split isDot followed settled
  have allDots : ∀ name ∈ before, IsDot name := by
    rw [IsStraight, split] at straight
    exact before_dot_of_straight straight isDot
  obtain ⟨next, other, standsNext, followedDots⟩ := stands.follow_dots allDots
  rw [followedDots] at followed
  obtain rfl := Except.ok.inj followed
  rw [(Reached.of_stands standsNext).parts_absolute, List.append_nil]
  exact standsNext.enterable

/-- A walk with no links left stops at a link. -/
theorem Stands.runsOut_at_link (stands : files.Stands base route place) (isName : IsName name)
    (isLink : files.linkTarget? base (route.child name) = .ok (some target)) :
    files.RunsOut 0 place (name :: rest) := by
  obtain ⟨short, present⟩ := stands.link_of_linkTarget isName isLink
  intro links atMost later
  obtain rfl : links = 0 := Nat.le_zero.mp atMost
  exact walk_link stands.enterable.directory isName short present

/-- A walk over a straight link goes on along all names of its target. -/
theorem Stands.leadsTo_link (straight : files.HasStraightLinks)
    (stands : files.Stands base route place) (isName : IsName name)
    (isLink : files.linkTarget? base (route.child name) = .ok (some target)) :
    IsStraight target ∧
      files.LeadsTo 1 place [name] (walkStart place target.toList) (namesOf target.toList) := by
  obtain ⟨short, present⟩ := stands.link_of_linkTarget isName isLink
  have isStraight : IsStraight target := straight _ _ present
  have read : namesOf target.toList =
      (namesOf target.toList).takeWhile (IsDot ·) ++
        (namesOf target.toList).dropWhile (IsDot ·) :=
    List.takeWhile_append_dropWhile.symm
  have allDots : ∀ name ∈ (namesOf target.toList).takeWhile (IsDot ·), IsDot name :=
    fun name member => by simpa using List.mem_takeWhile_imp member
  have proper : "" ∉ (namesOf target.toList).dropWhile (IsDot ·) :=
    fun member => isStraight "" member (Or.inl rfl)
  refine ⟨isStraight, fun links rest => ?_⟩
  rw [List.singleton_append, walk_link stands.enterable.directory isName short present]
  cases links with
  | zero => exact Or.inl rfl
  | succ fewer =>
      refine Or.inr ⟨fewer, le_refl _, ?_⟩
      change files.walk true fewer _ _ = _
      rw [(stands.enterable.atStart target.toList).walk_walkNames read allDots proper,
        ← List.append_assoc, ← read]

end FileSystem

end PrologImage
