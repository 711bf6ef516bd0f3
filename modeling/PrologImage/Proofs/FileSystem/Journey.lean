import PrologImage.Proofs.FileSystem.Passage

/-!
Contract: the whole way of a walk that gets to its end.

Owns: the way as a relation in which each link has a way of its own along the names of its target,
the links followed on it, that a successful walk has one and only one, and locations without links
on the way to them.

Does not own: what a resolution finds on the same way (`Proofs.FileSystem.PhysicalForm`).
-/

namespace PrologImage

namespace FileSystem

/-- The way from a location along names to another one, with the number of links followed on it.
A name that stays where it is needs nothing. A link leads to where the names of its target lead. -/
inductive Goes (files : FileSystem) : Nat → Location → List String → Location → Prop
  | arrived {place : Location} : Goes files 0 place [] place
  | idle {count : Nat} {place reached : Location} {name : String} {rest : List String} :
      name = "" ∨ name = "." → Goes files count place rest reached →
      Goes files count place (name :: rest) reached
  | up {count : Nat} {place reached : Location} {rest : List String} :
      files.entry? place = some .directory → Goes files count place.dropLast rest reached →
      Goes files count place (".." :: rest) reached
  | down {count : Nat} {place reached : Location} {name : String} {rest : List String}
      {entry : Entry} :
      files.entry? place = some .directory → IsName name → name.utf8ByteSize ≤ nameLimit →
      files.entry? (place ++ [name]) = some entry → (∀ target, entry ≠ .link target) →
      Goes files count (place ++ [name]) rest reached →
      Goes files count place (name :: rest) reached
  | link {inner outer : Nat} {place middle reached : Location} {name target : String}
      {rest : List String} :
      files.entry? place = some .directory → IsName name → name.utf8ByteSize ≤ nameLimit →
      files.entry? (place ++ [name]) = some (.link target) →
      Goes files inner (walkStart place target.toList) (namesOf target.toList) middle →
      Goes files outer middle rest reached →
      Goes files (inner + outer + 1) place (name :: rest) reached

variable {files : FileSystem} {place reached other : Location} {name target : String}
  {names front back rest : List String} {count later links : Nat} {text : List Char}

namespace Goes

/-- A way along names has a part along the first of them and a part along the others. -/
theorem split (goes : files.Goes count place (front ++ back) reached) :
    ∃ first second middle, count = first + second ∧ files.Goes first place front middle ∧
      files.Goes second middle back reached := by
  induction front generalizing count place with
  | nil => exact ⟨0, count, place, (Nat.zero_add count).symm, .arrived, goes⟩
  | cons name front inductionHypothesis =>
      cases goes with
      | idle isIdle onward =>
          obtain ⟨first, second, middle, rfl, before, after⟩ := inductionHypothesis onward
          exact ⟨first, second, middle, rfl, .idle isIdle before, after⟩
      | up directory onward =>
          obtain ⟨first, second, middle, rfl, before, after⟩ := inductionHypothesis onward
          exact ⟨first, second, middle, rfl, .up directory before, after⟩
      | down directory isName short present notLink onward =>
          obtain ⟨first, second, middle, rfl, before, after⟩ := inductionHypothesis onward
          exact ⟨first, second, middle, rfl,
            .down directory isName short present notLink before, after⟩
      | @link inner _ _ _ _ _ _ _ directory isName short isLink inside onward =>
          obtain ⟨first, second, middle, rfl, before, after⟩ := inductionHypothesis onward
          exact ⟨inner + first + 1, second, middle, by omega,
            .link directory isName short isLink inside before, after⟩

/-- Names are exchanged for others after a first one that both have. -/
theorem cons_congr
    (same : ∀ count place, files.Goes count place rest reached →
      files.Goes count place back reached)
    (goes : files.Goes count place (name :: rest) reached) :
    files.Goes count place (name :: back) reached := by
  cases goes with
  | idle isIdle onward => exact .idle isIdle (same _ _ onward)
  | up directory onward => exact .up directory (same _ _ onward)
  | down directory isName short present notLink onward =>
      exact .down directory isName short present notLink (same _ _ onward)
  | link directory isName short isLink inside onward =>
      exact .link directory isName short isLink inside (same _ _ onward)

/-- A name that stays where it is adds nothing to a way. -/
theorem idle_iff (isIdle : name = "" ∨ name = ".") :
    files.Goes count place (name :: rest) reached ↔ files.Goes count place rest reached := by
  refine ⟨fun goes => ?_, .idle isIdle⟩
  cases goes with
  | idle _ onward => exact onward
  | up _ _ => simp at isIdle
  | down _ isName _ _ _ _ | link _ isName _ _ _ _ =>
      exact absurd isIdle (not_or.mpr ⟨isName.ne.1, isName.ne.2.1⟩)

/-- A way depends on the names that lead anywhere. -/
theorem steps_iff :
    files.Goes count place (steps names) reached ↔ files.Goes count place names reached := by
  induction names generalizing count place with
  | nil => exact Iff.rfl
  | cons name rest inductionHypothesis =>
      by_cases isIdle : name = "" ∨ name = "."
      · have dropped : steps (name :: rest) = steps rest := by
          rw [steps, List.filter_cons_of_neg (by simpa [← not_or] using isIdle), steps]
        rw [dropped, inductionHypothesis, idle_iff isIdle]
      · have kept : steps (name :: rest) = name :: steps rest := by
          rw [steps, List.filter_cons_of_pos (by simpa [← not_or] using isIdle), steps]
        rw [kept]
        exact ⟨cons_congr fun _ _ => inductionHypothesis.mp,
          cons_congr fun _ _ => inductionHypothesis.mpr⟩

theorem of_steps_eq (same : steps names = steps rest)
    (goes : files.Goes count place names reached) : files.Goes count place rest reached := by
  rw [← steps_iff, ← same, steps_iff]
  exact goes

/-- A way over a double dot goes on above. -/
theorem onward_of_up (goes : files.Goes count place (".." :: rest) reached) :
    files.Goes count place.dropLast rest reached := by
  cases goes with
  | idle isIdle _ => simp at isIdle
  | up _ onward => exact onward
  | down _ isName _ _ _ _ | link _ isName _ _ _ _ => exact absurd rfl isName.ne.2.2

/-- A way over a name that is no link goes on below. -/
theorem onward_of_down {entry : Entry} (isName : IsName name)
    (present : files.entry? (place ++ [name]) = some entry)
    (notLink : ∀ target, entry ≠ .link target)
    (goes : files.Goes count place (name :: rest) reached) :
    files.Goes count (place ++ [name]) rest reached := by
  cases goes with
  | idle isIdle _ => exact absurd isIdle (not_or.mpr ⟨isName.ne.1, isName.ne.2.1⟩)
  | up _ _ => exact absurd rfl isName.ne.2.2
  | down _ _ _ _ _ onward => exact onward
  | link _ _ _ isLink _ _ =>
      rw [present, Option.some.injEq] at isLink
      exact absurd isLink (notLink _)

/-- A way over a link has a way along the names of its target on it. -/
theorem inside_of_link (isName : IsName name)
    (isLink : files.entry? (place ++ [name]) = some (.link target))
    (goes : files.Goes count place (name :: rest) reached) :
    ∃ inner outer middle, count = inner + outer + 1 ∧
      files.Goes inner (walkStart place target.toList) (namesOf target.toList) middle ∧
      files.Goes outer middle rest reached := by
  cases goes with
  | idle isIdle _ => exact absurd isIdle (not_or.mpr ⟨isName.ne.1, isName.ne.2.1⟩)
  | up _ _ => exact absurd rfl isName.ne.2.2
  | down _ _ _ present notLink _ =>
      rw [isLink, Option.some.injEq] at present
      exact absurd present.symm (notLink _)
  | link _ _ _ isLinkAgain inside onward =>
      rw [isLink] at isLinkAgain
      cases isLinkAgain
      exact ⟨_, _, _, rfl, inside, onward⟩

/-- A way has one end, and one number of links on it. -/
theorem unique (goes : files.Goes count place names reached)
    (again : files.Goes later place names other) : count = later ∧ reached = other := by
  induction goes generalizing later other with
  | arrived =>
      cases again
      exact ⟨rfl, rfl⟩
  | idle isIdle _ inductionHypothesis =>
      exact inductionHypothesis ((idle_iff isIdle).mp again)
  | up directory _ inductionHypothesis => exact inductionHypothesis again.onward_of_up
  | down directory isName short present notLink _ inductionHypothesis =>
      exact inductionHypothesis (onward_of_down isName present notLink again)
  | link directory isName short isLink _ _ innerHypothesis outerHypothesis =>
      obtain ⟨_, _, _, rfl, inside, onward⟩ := inside_of_link isName isLink again
      obtain ⟨rfl, rfl⟩ := innerHypothesis inside
      obtain ⟨rfl, rfl⟩ := outerHypothesis onward
      exact ⟨rfl, rfl⟩

end Goes

/-! ## Walks -/

/-- A walk that gets to its end has gone a way there, with no more links than it had left. -/
theorem goes_of_walk (slashFree : ∀ name ∈ names, '/' ∉ name.toList)
    (found : files.walk true links place names = .ok reached) :
    ∃ count ≤ links, files.Goes count place names reached := by
  fun_induction files.walk true links place names with
  | case1 links place =>
      cases found
      exact ⟨0, Nat.zero_le links, .arrived⟩
  | case2 => cases found
  | case3 links place name rest allowed isIdle inductionHypothesis =>
      obtain ⟨count, atMost, goes⟩ :=
        inductionHypothesis (List.forall_mem_cons.mp slashFree).2 found
      exact ⟨count, atMost, .idle isIdle goes⟩
  | case4 links place rest allowed notIdle inductionHypothesis =>
      obtain ⟨count, atMost, goes⟩ :=
        inductionHypothesis (List.forall_mem_cons.mp slashFree).2 found
      exact ⟨count, atMost, .up (directory_of_allow allowed (by decide)) goes⟩
  | case5 | case6 => cases found
  | case7 links place name rest allowed notIdle notUp short target isLink last =>
      cases last.2
  | case8 => cases found
  | case9 place name rest allowed notIdle notUp short target isLink notLast links
      inductionHypothesis =>
      obtain ⟨ofName, ofRest⟩ := List.forall_mem_cons.mp slashFree
      have isName := isName_of_slashFree notIdle notUp ofName
      have directory := directory_of_allow allowed isName.ne.1
      obtain ⟨count, atMost, goes⟩ :=
        inductionHypothesis (List.forall_mem_append.mpr ⟨slashFree_walkNames, ofRest⟩) found
      obtain ⟨inner, outer, middle, rfl, inside, onward⟩ := goes.split
      refine ⟨inner + outer + 1, by omega, ?_⟩
      exact .link directory isName (Nat.le_of_not_gt short) isLink
        (inside.of_steps_eq (steps_walkNames _)) onward
  | case10 links place name rest allowed notIdle notUp short entry notLink present
      inductionHypothesis =>
      obtain ⟨ofName, ofRest⟩ := List.forall_mem_cons.mp slashFree
      have isName := isName_of_slashFree notIdle notUp ofName
      have directory := directory_of_allow allowed isName.ne.1
      obtain ⟨count, atMost, goes⟩ := inductionHypothesis ofRest found
      refine ⟨count, atMost, ?_⟩
      exact .down directory isName (Nat.le_of_not_gt short) present
        (fun target same => notLink target same) goes

/-! ## Physical locations -/

/-- A location as it is on the machine: names, all of them but the last at a directory. -/
structure IsPhysical (files : FileSystem) (location : Location) : Prop where
  named : ∀ name ∈ location, IsName name
  within : ∀ front, front <+: location → front ≠ location → files.requireDirectory front = .ok ()

namespace IsPhysical

theorem root (files : FileSystem) : files.IsPhysical [] where
  named := by simp
  within := by
    intro front beginning shorter
    exact absurd (List.prefix_nil.mp beginning) shorter

theorem dropLast (physical : files.IsPhysical place) : files.IsPhysical place.dropLast where
  named := fun name member => physical.named name (List.mem_of_mem_dropLast member)
  within := by
    intro front beginning shorter
    refine physical.within front (beginning.trans (List.dropLast_prefix place)) ?_
    rintro rfl
    exact shorter (beginning.eq_of_length_le (by simp))

theorem child (physical : files.IsPhysical place)
    (directory : files.entry? place = some .directory) (isName : IsName name) :
    files.IsPhysical (place ++ [name]) where
  named := List.forall_mem_append.mpr ⟨physical.named, List.forall_mem_singleton.mpr isName⟩
  within := by
    intro front beginning shorter
    rcases List.prefix_concat_iff.mp beginning with whole | above
    · exact absurd whole shorter
    · by_cases here : front = place
      · simp [here, requireDirectory, directory]
      · exact physical.within front above here

theorem atStart (physical : files.IsPhysical place) (text : List Char) :
    files.IsPhysical (walkStart place text) := by
  unfold walkStart
  split
  · exact root files
  · exact physical

/-- There is no link above a physical location. -/
theorem noLink (physical : files.IsPhysical place)
    (noLinkHere : files.entry? place ≠ some (.link target)) {front : Location}
    (beginning : front <+: place) : files.entry? front ≠ some (.link target) := by
  intro isLink
  by_cases here : front = place
  · exact noLinkHere (here ▸ isLink)
  · have directory := physical.within front beginning here
    simp [requireDirectory, isLink] at directory

end IsPhysical

/-- A way from a physical location ends at one. -/
theorem Goes.isPhysical (goes : files.Goes count place names reached)
    (physical : files.IsPhysical place) : files.IsPhysical reached := by
  induction goes with
  | arrived => exact physical
  | idle _ _ inductionHypothesis => exact inductionHypothesis physical
  | up _ _ inductionHypothesis => exact inductionHypothesis physical.dropLast
  | down directory isName _ _ _ _ inductionHypothesis =>
      exact inductionHypothesis (physical.child directory isName)
  | link _ _ _ _ _ _ innerHypothesis outerHypothesis =>
      exact outerHypothesis (innerHypothesis (physical.atStart _))

theorem allow_ne_tooManyLinks : files.allow place name ≠ .error .tooManyLinks := by
  unfold allow requireDirectory enter
  split <;> split <;> simp

/-- A walk without links on the way does not run out of them. -/
theorem walk_ne_tooManyLinks {followLast : Bool} (proper : ∀ name ∈ names, IsName name)
    (linkFree : ∀ front, front <+: names → ∀ target,
      files.entry? (place ++ front) ≠ some (.link target)) :
    files.walk followLast links place names ≠ .error .tooManyLinks := by
  induction names generalizing place with
  | nil =>
      rw [walk]
      simp
  | cons name rest inductionHypothesis =>
      obtain ⟨isName, properRest⟩ := List.forall_mem_cons.mp proper
      obtain ⟨notEmpty, notDot, notUp⟩ := isName.ne
      have linkFreeRest : ∀ front, front <+: rest → ∀ target,
          files.entry? (place ++ [name] ++ front) ≠ some (.link target) := by
        intro front beginning target
        rw [List.append_assoc, List.singleton_append]
        exact linkFree (name :: front) (List.cons_prefix_cons.mpr ⟨rfl, beginning⟩) target
      have onward := inductionHypothesis properRest linkFreeRest
      rw [walk]
      cases allowed : files.allow place name with
      | error error =>
          intro out
          cases out
          exact allow_ne_tooManyLinks allowed
      | ok _ =>
          by_cases long : name.utf8ByteSize > nameLimit
          · simp [notEmpty, notDot, notUp, long]
          · cases present : files.entry? (place ++ [name]) with
            | none => simp [notEmpty, notDot, notUp, long]
            | some entry =>
                cases entry with
                | link target => exact absurd present (linkFree [name] ⟨rest, rfl⟩ target)
                | _ => simpa [notEmpty, notDot, notUp, long] using onward

end FileSystem

end PrologImage
