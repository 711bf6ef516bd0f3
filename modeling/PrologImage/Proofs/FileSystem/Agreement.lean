import PrologImage.Proofs.FileSystem.Following

/-!
Contract: the resolved form of a path and the lookup of the path as it is written.

Owns: what a resolution in progress knows about the links that it has met, the theorem that a
resolution agrees with walks along the same names, and the paths that are looked up the way they
are resolved.

Does not own: which path is looked up after a save (`Proofs.Interpreter.WrittenImage`).

A resolution replaces a link by what its target resolves to, a walk by the names of the target. They
agree as long as each double dot is taken where the walk can stand: a resolution also takes it after
a name that leads nowhere, and a walk stops there.
-/

namespace PrologImage

namespace FileSystem

variable {files : FileSystem} {base place : Location} {route : Route} {name target : String}
  {names trail rest : List String} {depth : Nat} {met : MetLinks} {resolution : Resolution}

/-! ## What a resolution remembers -/

/-- A link that has been resolved leads where its resolution does. -/
def Remembers (files : FileSystem) (base : Location) (link resolved : Route) : Prop :=
  ∃ route name place other others, link = route.child name ∧ files.Stands base route place ∧
    files.Reached base resolved other others ∧ files.LeadsTo 0 place [name] other others

/-- A walk over a link that is being resolved comes to the names at hand with fewer links left. -/
def Pursues (files : FileSystem) (base : Location) (link : Route) (place : Location)
    (names : List String) : Prop :=
  ∃ route name start more, link = route.child name ∧ files.Stands base route start ∧
    files.LeadsTo 1 start [name] place (names ++ more)

/-- The links met so far are as a walk finds them that stands before the names at hand. -/
structure Sound (files : FileSystem) (base : Location) (met : MetLinks) (place : Location)
    (names : List String) : Prop where
  remembered : ∀ link resolved, met.lookup link = some (some resolved) →
    files.Remembers base link resolved
  pursued : ∀ link, met.lookup link = some none → files.Pursues base link place names

section Meeting

variable {other : Location} {others : List String} {resolved : Route}

theorem Pursues.of_leadsTo {link : Route} (pursues : files.Pursues base link place names)
    (leads : files.LeadsTo 0 place names other others) :
    files.Pursues base link other others := by
  obtain ⟨route, name, start, more, isChild, stands, pursued⟩ := pursues
  exact ⟨route, name, start, more, isChild, stands, pursued.trans (leads.append more)⟩

theorem Pursues.of_append {link : Route} (pursues : files.Pursues base link place (names ++ rest)) :
    files.Pursues base link place names := by
  obtain ⟨route, name, start, more, isChild, stands, pursued⟩ := pursues
  rw [List.append_assoc] at pursued
  exact ⟨route, name, start, rest ++ more, isChild, stands, pursued⟩

theorem Sound.of_leadsTo (sound : files.Sound base met place names)
    (leads : files.LeadsTo 0 place names other others) : files.Sound base met other others where
  remembered := sound.remembered
  pursued := fun link isPending => (sound.pursued link isPending).of_leadsTo leads

/-- A link met again while it is being resolved makes every walk over it run out of links. -/
theorem Sound.runsOut (sound : files.Sound base met place (name :: rest))
    (stands : files.Stands base route place)
    (again : met.lookup (route.child name) = some none) (limit : Nat) :
    files.RunsOut limit place (name :: rest) := by
  obtain ⟨before, same, start, more, isChild, standsBefore, pursued⟩ := sound.pursued _ again
  obtain ⟨rfl, rfl⟩ := Route.child_inj isChild
  obtain rfl := stands.unique standsBefore
  have loops : files.LeadsTo 1 place [name] place ([name] ++ (rest ++ more)) := pursued
  exact (loops.runsOut_of_loop Nat.one_pos limit).append rest

/-- A link met again after it was resolved leads where its resolution does. -/
theorem Sound.leadsTo_met (sound : files.Sound base met place names)
    (stands : files.Stands base route place)
    (known : met.lookup (route.child name) = some (some resolved)) :
    ∃ other others, files.Reached base resolved other others ∧
      files.LeadsTo 0 place [name] other others := by
  obtain ⟨before, same, start, other, others, isChild, standsBefore, reached, leads⟩ :=
    sound.remembered _ _ known
  obtain ⟨rfl, rfl⟩ := Route.child_inj isChild
  obtain rfl := stands.unique standsBefore
  exact ⟨other, others, reached, leads⟩

/-- Going into a link that was not met before. -/
theorem Sound.enter (sound : files.Sound base met place (name :: rest))
    (stands : files.Stands base route place) {start : Location} {inside : List String}
    (leads : files.LeadsTo 1 place [name] start inside) :
    files.Sound base ((route.child name, none) :: met) start inside where
  remembered := resolves_enter sound.remembered
  pursued := by
    have here : files.Pursues base (route.child name) start inside :=
      ⟨route, name, place, [], rfl, stands, by rwa [List.append_nil]⟩
    exact pending_enter here fun link isPending =>
      ((sound.pursued link isPending).of_leadsTo (leads.weaken.append rest)).of_append

/-- Coming back from a link that was not met before. -/
theorem Sound.leave {later : MetLinks} (sound : files.Sound base met place (name :: rest))
    (stands : files.Stands base route place) (reached : files.Reached base resolved other others)
    (leads : files.LeadsTo 0 place [name] other others)
    (remembered : ∀ link resolved, later.lookup link = some (some resolved) →
      files.Remembers base link resolved)
    (opensNone : OpensNone later ((route.child name, none) :: met)) :
    files.Sound base ((route.child name, some resolved) :: later) other (others ++ rest) where
  remembered :=
    resolves_leave ⟨route, name, place, other, others, rfl, stands, reached, leads⟩ remembered
  pursued := fun link isPending =>
    (sound.pursued link (opensNone.leave link isPending)).of_leadsTo (leads.append rest)

end Meeting

/-! ## The agreement -/

/-- A resolution that stands before names, all of which a walk can follow. -/
structure Poised (files : FileSystem) (base : Location) (depth : Nat) (met : MetLinks)
    (route : Route) (place : Location) (trail names : List String) : Prop where
  reached : files.Reached base route place trail
  slashFree : ∀ name ∈ names, '/' ∉ name.toList
  grounded : files.Grounded base depth met route names
  sound : files.Sound base met place (trail ++ names)

/-- What a resolution of names says about walks along them: if it is settled, they lead where it
does, and it has met no link that it is still resolving; if it is not, they run out of links. -/
inductive Agrees (files : FileSystem) (base : Location) (depth : Nat) (met : MetLinks)
    (place : Location) (names : List String) (resolution : Resolution) : Prop
  | settles (other : Location) (others : List String) : resolution.settled = true →
      files.Reached base resolution.route other others →
      files.LeadsTo 0 place names other others →
      (∀ link resolved, resolution.met.lookup link = some (some resolved) →
        files.Remembers base link resolved) →
      (∀ link, resolution.met.lookup link = some none → met.lookup link = some none) →
      Agrees files base depth met place names resolution
  | loops : resolution.settled = false → files.RunsOut depth place names →
      Agrees files base depth met place names resolution

section Steps

variable {other : Location} {others : List String} {next : Route} {known : MetLinks}

theorem Agrees.of_leadsTo (agrees : files.Agrees base depth known other others resolution)
    (leads : files.LeadsTo 0 place names other others) (opensNone : OpensNone known met) :
    files.Agrees base depth met place names resolution := by
  cases agrees with
  | settles last lasts settled reached later remembered fewer =>
      exact .settles last lasts settled reached (leads.trans later) remembered
        fun link isPending => opensNone link (fewer link isPending)
  | loops unsettled out => exact .loops unsettled (leads.runsOut out)

namespace Poised

theorem isName (poised : files.Poised base depth met route place trail (name :: rest))
    (notIdle : ¬ (name = "" ∨ name = ".")) (notUp : name ≠ "..") : IsName name :=
  isName_of_slashFree notIdle notUp (poised.slashFree name List.mem_cons_self)

/-- At a link a route stands, with no names left that lead to it. -/
theorem stands_at_link (poised : files.Poised base depth met route place trail (name :: rest))
    (notIdle : ¬ (name = "" ∨ name = ".")) (notUp : name ≠ "..")
    (isLink : files.linkTarget? base (route.child name) = .ok (some target)) :
    IsName name ∧ trail = [] ∧ files.Stands base route place := by
  have isName := poised.isName notIdle notUp
  exact ⟨isName, poised.reached.stands_of_link isName isLink⟩

/-- At a dot a route stands where its names lead. -/
theorem stands_at_dot (poised : files.Poised base depth met route place trail (name :: rest))
    (isDot : IsDot name) :
    files.Stands base route (place ++ trail) ∧
      files.LeadsTo 0 place (trail ++ name :: rest) (place ++ trail) (name :: rest) := by
  have enterable := poised.grounded.head isDot
  rw [poised.reached.parts_absolute] at enterable
  refine ⟨poised.reached.stands_of_enterable enterable, .of_walk_eq fun links later => ?_⟩
  rw [List.append_assoc]
  exact poised.reached.enterable.walk_append enterable _

/-- A step past one name that meets no new link. -/
theorem step (poised : files.Poised base depth met route place trail (name :: rest))
    (reached : files.Reached base next other others)
    (leads : files.LeadsTo 0 place (trail ++ name :: rest) other (others ++ rest))
    (same : ∀ before, files.follow base depth met route (name :: before) =
      files.follow base depth met next before) :
    files.Poised base depth met next other others rest where
  reached := reached
  slashFree := fun other member => poised.slashFree other (List.mem_cons_of_mem name member)
  grounded := poised.grounded.tail same
  sound := poised.sound.of_leadsTo leads

/-- A resolution agrees with walks when it does after a step past one name that meets no new
link. -/
theorem agrees_of_step (poised : files.Poised base depth met route place trail (name :: rest))
    (reached : files.Reached base next other others)
    (leads : files.LeadsTo 0 place (trail ++ name :: rest) other (others ++ rest))
    (same : ∀ before, files.follow base depth met route (name :: before) =
      files.follow base depth met next before)
    (onward : files.Poised base depth met next other others rest →
      files.Agrees base depth met other (others ++ rest) resolution) :
    files.Agrees base depth met place (trail ++ name :: rest) resolution :=
  (onward (poised.step reached leads same)).of_leadsTo leads fun _ => id

/-- A step into a link that was not met before. -/
theorem enter {later : Nat} (poised : files.Poised base depth met route place [] (name :: rest))
    (stands : files.Stands base route place) (isStraight : IsStraight target)
    (leads : files.LeadsTo 1 place [name] (walkStart place target.toList)
      (namesOf target.toList)) :
    files.Poised base later ((route.child name, none) :: met) (route.startOf target.toList)
      (walkStart place target.toList) [] (namesOf target.toList) where
  reached := .of_stands (stands.startOf target.toList)
  slashFree := fun _ => not_mem_of_mem_namesOf
  grounded := (stands.startOf target.toList).grounded isStraight
  sound := poised.sound.enter stands leads

/-- A resolution agrees with walks when it does after a link that was not met before and whose
target resolves. -/
theorem agrees_of_link {inner : Resolution}
    (poised : files.Poised base depth met route place [] (name :: rest))
    (stands : files.Stands base route place)
    (leads : files.LeadsTo 0 place [name] other others)
    (reached : files.Reached base inner.route other others)
    (remembered : ∀ link resolved, inner.met.lookup link = some (some resolved) →
      files.Remembers base link resolved)
    (opensNone : OpensNone inner.met ((route.child name, none) :: met))
    (same : ∀ before, files.follow base depth met route (name :: before) =
      files.follow base depth ((route.child name, some inner.route) :: inner.met) inner.route
        before)
    (onward : files.Poised base depth ((route.child name, some inner.route) :: inner.met)
        inner.route other others rest →
      files.Agrees base depth ((route.child name, some inner.route) :: inner.met) other
        (others ++ rest) resolution) :
    files.Agrees base depth met place (name :: rest) resolution := by
  have poisedAfter : files.Poised base depth
      ((route.child name, some inner.route) :: inner.met) inner.route other others rest :=
    { reached
      slashFree := fun later member => poised.slashFree later (List.mem_cons_of_mem name member)
      grounded := poised.grounded.tail same
      sound := poised.sound.leave stands reached leads remembered opensNone }
  exact (onward poisedAfter).of_leadsTo (leads.append rest) opensNone.leave

end Poised

end Steps

/-- A resolution agrees with walks along the same names. -/
theorem follow_agrees (straight : files.HasStraightLinks)
    (followed : files.follow base depth met route names = .ok resolution)
    (poised : files.Poised base depth met route place trail names) :
    files.Agrees base depth met place (trail ++ names) resolution := by
  fun_induction files.follow base depth met route names generalizing place trail resolution with
  | case1 depth met route =>
      obtain rfl := Except.ok.inj followed
      rw [List.append_nil]
      exact .settles place trail rfl poised.reached (.refl files place trail)
        poised.sound.remembered fun _ => id
  | case2 depth met route name rest idle inductionHypothesis =>
      have isDot : IsDot name := idle.elim Or.inl fun dot => Or.inr (Or.inl dot)
      obtain ⟨stands, descends⟩ := poised.stands_at_dot isDot
      have stays : files.LeadsTo 0 (place ++ trail) (name :: rest) (place ++ trail) rest :=
        .of_walk_eq fun _ _ => walk_idle stands.enterable.directory idle
      exact poised.agrees_of_step (.of_stands stands) (descends.trans stays)
        (fun _ => follow_idle idle) (inductionHypothesis followed)
  | case3 depth met route rest notIdle inductionHypothesis =>
      obtain ⟨stands, descends⟩ := poised.stands_at_dot (Or.inr (Or.inr rfl))
      have ascends : files.LeadsTo 0 (place ++ trail) (".." :: rest) (place ++ trail).dropLast
          rest := .of_walk_eq fun _ _ => walk_up stands.enterable.directory
      exact poised.agrees_of_step (.of_stands stands.parent) (descends.trans ascends)
        (fun _ => follow_up) (inductionHypothesis followed)
  | case4 => cases followed
  | case5 depth met route name rest notIdle notUp noLink inductionHypothesis =>
      have isName := poised.isName notIdle notUp
      obtain ⟨other, others, reachedChild, childLeads⟩ := poised.reached.child isName noLink
      have leads : files.LeadsTo 0 place (trail ++ name :: rest) other (others ++ rest) := by
        simpa only [List.append_assoc, List.singleton_append] using childLeads.append rest
      exact poised.agrees_of_step reachedChild leads (fun _ => follow_child isName noLink)
        (inductionHypothesis followed)
  | case6 depth met route name rest notIdle notUp target isLink resolved known
      inductionHypothesis =>
      obtain ⟨isName, rfl, stands⟩ := poised.stands_at_link notIdle notUp isLink
      obtain ⟨other, others, reachedAgain, leads⟩ := poised.sound.leadsTo_met stands known
      exact poised.agrees_of_step reachedAgain (leads.append rest)
        (fun _ => follow_met isName isLink known) (inductionHypothesis followed)
  | case7 depth met route name rest notIdle notUp target isLink again =>
      obtain ⟨_, rfl, stands⟩ := poised.stands_at_link notIdle notUp isLink
      obtain rfl := Except.ok.inj followed
      exact .loops rfl (poised.sound.runsOut stands again depth)
  | case8 met route name rest notIdle notUp target isLink fresh =>
      -- The walk has followed as many links as the resolution, so it has none left here.
      obtain ⟨isName, rfl, stands⟩ := poised.stands_at_link notIdle notUp isLink
      obtain rfl := Except.ok.inj followed
      exact .loops rfl (stands.runsOut_at_link isName isLink)
  | case9 => cases followed
  | case10 met route name rest notIdle notUp target isLink fresh depth start inside inner
      innerFollowed settled =>
      rename_i innerHypothesis inductionHypothesis
      obtain ⟨isName, rfl, stands⟩ := poised.stands_at_link notIdle notUp isLink
      obtain ⟨isStraight, linkLeads⟩ := stands.leadsTo_link straight isName isLink
      obtain ⟨other, others, _, reachedInner, innerLeads, remembered, opens⟩ | ⟨unsettled, _⟩ :=
        innerHypothesis innerFollowed (poised.enter stands isStraight linkLeads)
      · exact poised.agrees_of_link stands (linkLeads.trans innerLeads).weaken reachedInner
          remembered opens (fun _ => follow_link isName isLink fresh innerFollowed settled)
          (inductionHypothesis followed)
      · rw [settled] at unsettled
        cases unsettled
  | case11 met route name rest notIdle notUp target isLink fresh depth start inside inner
      innerFollowed =>
      rename_i unsettled innerHypothesis
      obtain ⟨isName, rfl, stands⟩ := poised.stands_at_link notIdle notUp isLink
      obtain ⟨isStraight, linkLeads⟩ := stands.leadsTo_link straight isName isLink
      obtain ⟨_, _, settled, _⟩ | ⟨_, out⟩ :=
        innerHypothesis innerFollowed (poised.enter stands isStraight linkLeads)
      · exact absurd settled unsettled
      · obtain rfl := Except.ok.inj followed
        exact .loops rfl ((linkLeads.runsOut out).append rest)

/-! ## Paths -/

theorem follow_idles {idle : List String} (allIdle : ∀ name ∈ idle, name = "" ∨ name = ".")
    (names : List String) :
    files.follow base depth met route (idle ++ names) =
      files.follow base depth met route names := by
  induction idle with
  | nil => rfl
  | cons name idle inductionHypothesis =>
      obtain ⟨isIdle, laterIdle⟩ := List.forall_mem_cons.mp allIdle
      rw [List.cons_append, follow_idle isIdle, inductionHypothesis laterIdle]

/-- The text of a path is followed along its parts. -/
theorem follow_text (path : Path) :
    files.follow base depth met route (namesOf path.text.toList) =
      files.follow base depth met route path.parts := by
  obtain ⟨idle, allIdle, read⟩ := path.namesOf_text
  rw [read, follow_idles allIdle]

theorem walk_idles {followLast : Bool} {links : Nat} {idle : List String}
    (directory : files.entry? place = some .directory)
    (allIdle : ∀ name ∈ idle, name = "" ∨ name = ".") (names : List String) :
    files.walk followLast links place (idle ++ names) =
      files.walk followLast links place names := by
  induction idle with
  | nil => rfl
  | cons name idle inductionHypothesis =>
      obtain ⟨isIdle, laterIdle⟩ := List.forall_mem_cons.mp allIdle
      rw [List.cons_append, walk_idle directory isIdle, inductionHypothesis laterIdle]

/-- The text of a path is walked along its parts. -/
theorem Enterable.walk_text {followLast : Bool} {links : Nat} (enterable : files.Enterable place)
    (path : Path) :
    files.walk followLast links place (walkNames path.text.toList) =
      files.walk followLast links place path.parts := by
  obtain ⟨idle, allIdle, read⟩ := path.namesOf_text
  have allDots : ∀ name ∈ idle, IsDot name :=
    fun name member => (allIdle name member).elim Or.inl fun dot => Or.inr (Or.inl dot)
  have proper : "" ∉ path.parts := fun member => (path.proper "" member).1 rfl
  have walked : ∀ rest, files.walk followLast links place (walkNames path.text.toList ++ rest) =
      files.walk followLast links place (idle ++ (path.parts ++ rest)) :=
    enterable.walk_walkNames read allDots proper
  rw [← List.append_nil (walkNames path.text.toList), walked, List.append_nil,
    walk_idles enterable.directory allIdle]

/-- The resolved form of a route is walked to where the route leads. -/
theorem Reached.walk_absolute {followLast : Bool} {links : Nat}
    (reached : files.Reached base route place trail) :
    files.walk followLast links (walkStart base (route.absolute base).text.toList)
        (walkNames (route.absolute base).text.toList) =
      files.walk followLast links place trail := by
  rw [walkStart, if_pos (Path.head?_text (Route.anchor_absolute_ne_relative _ _)),
    reached.enterable.isRoot.walk_text, reached.parts_absolute, reached.enterable.walk_root]

/-- A path that the system looks up the way it is resolved: it is seen from a directory that can be
entered, links are straight, each double dot in it comes after a directory that can be entered, its
text is one that the system takes, and there are not too many links on its way. -/
structure Straightforward (files : FileSystem) (base : Location) (path : Path) : Prop where
  enterable : files.Enterable base
  straight : files.HasStraightLinks
  grounded : ∀ (front : Path) (after : List String), front.anchor = path.anchor →
    path.parts = front.parts ++ ".." :: after →
    ∃ target, files.resolve base front = .ok target ∧ files.Enterable target.parts
  noNul : '\x00' ∉ path.text.toList
  short : path.text.utf8ByteSize < pathLimit
  bounded : files.locate base true path.text ≠ .error .tooManyLinks

namespace Straightforward

variable {path image : Path} {location : Location}

theorem startOf_text {front : Path} (same : front.anchor = path.anchor) (route : Route) :
    route.startOf front.text.toList = route.startOf path.text.toList := by
  simp only [Route.startOf, Path.head?_text_iff, same]

theorem groundedParts (straightforward : files.Straightforward base path) :
    files.Grounded base linkDepth [] (Route.startOf ⟨.relative, []⟩ path.text.toList)
      path.parts := by
  intro before dot after resolution split isDot followed _
  have ofParts : ∀ part ∈ before ++ dot :: after, IsPathPart part := by
    rw [← split]
    exact path.proper
  obtain rfl : dot = ".." := by
    obtain ⟨notEmpty, notDot, _⟩ := ofParts dot (by simp)
    rcases isDot with empty | single | double
    · exact absurd empty notEmpty
    · exact absurd single notDot
    · exact double
  let front : Path :=
    ⟨path.anchor, before, fun part member => ofParts part (List.mem_append_left _ member)⟩
  obtain ⟨target, resolved, enterable⟩ := straightforward.grounded front after rfl split
  obtain ⟨found, followedFront, rfl, _⟩ := resolve_eq_ok_iff.mp resolved
  have sameStart : Route.startOf ⟨.relative, []⟩ front.text.toList =
      Route.startOf ⟨.relative, []⟩ path.text.toList := by
    have sameAnchor : front.anchor = path.anchor := rfl
    exact startOf_text sameAnchor _
  have followedBefore : files.follow base linkDepth []
      (Route.startOf ⟨.relative, []⟩ path.text.toList) before = .ok found := by
    rw [← followedFront, follow_text, sameStart]
  rw [followed] at followedBefore
  obtain rfl := Except.ok.inj followedBefore
  exact enterable

/-- A straightforward path leads to where its resolved form does. -/
theorem locate_eq (straightforward : files.Straightforward base path)
    (resolved : files.resolve base path = .ok image)
    (found : files.locate base true image.text = .ok location) :
    files.locate base true path.text = .ok location := by
  obtain ⟨resolution, followed, rfl, _⟩ := resolve_eq_ok_iff.mp resolved
  rw [follow_text] at followed
  have stands := (Stands.base straightforward.enterable).startOf path.text.toList
  have agrees := follow_agrees straightforward.straight followed
    { reached := .of_stands stands
      slashFree := fun part member => (path.proper part member).2.2
      grounded := straightforward.groundedParts
      sound := ⟨by simp, by simp⟩ }
  have walked : files.walk true linkLimit (walkStart base path.text.toList) path.parts =
      .ok location ∨ files.walk true linkLimit (walkStart base path.text.toList) path.parts =
      .error .tooManyLinks := by
    obtain ⟨other, others, _, reached, leads, _, _⟩ | ⟨_, out⟩ := agrees
    · have walkedImage := ((locate_eq_ok_iff _ _ _ _ _).mp found).2.2.2
      rw [reached.walk_absolute] at walkedImage
      rcases leads linkLimit [] with out | ⟨fewer, affordable, same⟩
      · exact Or.inr (by simpa using out)
      · simp only [List.nil_append, List.append_nil] at same
        rw [same]
        exact walk_of_fewer affordable walkedImage
    · exact Or.inr (by simpa using out linkLimit (by decide) [])
  have located : files.locate base true path.text =
      files.walk true linkLimit (walkStart base path.text.toList) path.parts := by
    rw [locate_eq_walk straightforward.noNul straightforward.short path.text_ne_empty,
      (straightforward.enterable.atStart _).walk_text]
  rw [located]
  rcases walked with here | out
  · exact here
  · exact absurd (located.trans out) straightforward.bounded

/-- The lookup of a place that can be entered meets no link. -/
theorem locate_absolute_ne_tooManyLinks (stands : files.Stands base route place) :
    files.locate base true (route.absolute base).text ≠ .error .tooManyLinks := by
  have walked : files.walk true linkLimit (walkStart base (route.absolute base).text.toList)
      (walkNames (route.absolute base).text.toList) = .ok place := by
    rw [(Reached.of_stands stands).walk_absolute, walk]
  apply locate_ne_tooManyLinks
  rw [walked]
  simp

/-- In a path whose double dots all come first, each of them comes after a directory that can be
entered. -/
theorem grounded_of_leading (enterable : files.Enterable base)
    (leading : ∀ part ∈ path.parts.dropWhile (IsDot ·), ¬ IsDot part)
    (front : Path) (after : List String)
    (split : path.parts = front.parts ++ ".." :: after) :
    ∃ target, files.resolve base front = .ok target ∧ files.Enterable target.parts := by
  have allDots : ∀ part ∈ front.parts, IsDot part := by
    rw [split] at leading
    exact before_dot_of_straight leading (Or.inr (Or.inr rfl))
  have start := (Stands.base enterable).startOf front.text.toList
  obtain ⟨next, place, stands, followed⟩ := start.follow_dots allDots
  refine ⟨next.absolute base, ?_, ?_⟩
  · exact resolve_eq_ok_iff.mpr ⟨⟨next, true, []⟩, by rw [follow_text, followed], rfl,
      locate_absolute_ne_tooManyLinks stands⟩
  · rw [(Reached.of_stands stands).parts_absolute, List.append_nil]
    exact stands.enterable

end Straightforward

end FileSystem

end PrologImage
