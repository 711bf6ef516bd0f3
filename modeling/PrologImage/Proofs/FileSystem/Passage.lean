import PrologImage.Proofs.FileSystem.PathText

/-!
Contract: walks along names.

Owns: locations that a walk from the root can enter, one equation for each step of a walk, what a
walk that gets past a name has found, and the comparison of two walks: one leads to where the other
goes on, or runs out of links.

Does not own: the routes of a resolution (`Proofs.FileSystem.Standing`).
-/

namespace PrologImage

namespace FileSystem

/-! ## Locations that can be entered -/

/-- A location that a walk from the root can enter without meeting a link. -/
inductive Enterable (files : FileSystem) : Location → Prop
  | root : files.entry? [] = some .directory → Enterable files []
  | down {place : Location} {name : String} : Enterable files place → IsName name →
      name.utf8ByteSize ≤ nameLimit → files.entry? (place ++ [name]) = some .directory →
      Enterable files (place ++ [name])

variable {files : FileSystem} {place other : Location} {name : String}
  {names others rest : List String} {followLast : Bool} {links fewer : Nat}

theorem allow_of_directory (directory : files.entry? place = some .directory) (name : String) :
    files.allow place name = .ok () := by
  unfold allow requireDirectory enter
  simp [directory]

/-! ## One step of a walk -/

theorem walk_idle (directory : files.entry? place = some .directory)
    (idle : name = "" ∨ name = ".") :
    files.walk followLast links place (name :: rest) =
      files.walk followLast links place rest := by
  rw [walk, allow_of_directory directory]
  simp [idle]

theorem walk_up (directory : files.entry? place = some .directory) :
    files.walk followLast links place (".." :: rest) =
      files.walk followLast links place.dropLast rest := by
  rw [walk, allow_of_directory directory]
  simp

/-- At a name a walk looks at what is below the location. -/
theorem walk_name (directory : files.entry? place = some .directory) (isName : IsName name)
    (short : name.utf8ByteSize ≤ nameLimit) :
    files.walk followLast links place (name :: rest) =
      match files.entry? (place ++ [name]) with
      | none => .error .missing
      | some (.link target) =>
          if rest = [] ∧ followLast = false then .ok (place ++ [name])
          else
            match links with
            | 0 => .error .tooManyLinks
            | links + 1 =>
                files.walk followLast links (walkStart place target.toList)
                  (walkNames target.toList ++ rest)
      | some _ => files.walk followLast links (place ++ [name]) rest := by
  obtain ⟨notEmpty, notDot, notUp⟩ := isName.ne
  have notLong : ¬ nameLimit < name.utf8ByteSize := Nat.not_lt.mpr short
  rw [walk, allow_of_directory directory]
  cases files.entry? (place ++ [name]) with
  | none => simp [notEmpty, notDot, notUp, notLong]
  | some here =>
      cases here with
      | link target => cases links <;> simp [notEmpty, notDot, notUp, notLong]
      | _ => simp [notEmpty, notDot, notUp, notLong]

/-- A name that is no link is walked to what is there. -/
theorem walk_past {entry : Entry} (directory : files.entry? place = some .directory)
    (isName : IsName name) (short : name.utf8ByteSize ≤ nameLimit)
    (present : files.entry? (place ++ [name]) = some entry)
    (notLink : ∀ target, entry ≠ .link target) :
    files.walk followLast links place (name :: rest) =
      files.walk followLast links (place ++ [name]) rest := by
  rw [walk_name directory isName short, present]
  cases entry with
  | link target => exact absurd rfl (notLink target)
  | _ => rfl

theorem walk_down (directory : files.entry? place = some .directory) (isName : IsName name)
    (short : name.utf8ByteSize ≤ nameLimit)
    (below : files.entry? (place ++ [name]) = some .directory) :
    files.walk followLast links place (name :: rest) =
      files.walk followLast links (place ++ [name]) rest :=
  walk_past directory isName short below (by simp)

theorem walk_link {target : String} (directory : files.entry? place = some .directory)
    (isName : IsName name) (short : name.utf8ByteSize ≤ nameLimit)
    (isLink : files.entry? (place ++ [name]) = some (.link target)) :
    files.walk true links place (name :: rest) =
      match links with
      | 0 => .error .tooManyLinks
      | links + 1 => files.walk true links (walkStart place target.toList)
          (walkNames target.toList ++ rest) := by
  rw [walk_name directory isName short, isLink]
  simp

/-- A link at the end is not followed unless asked. -/
theorem walk_last_link {target : String} (directory : files.entry? place = some .directory)
    (isName : IsName name) (short : name.utf8ByteSize ≤ nameLimit)
    (isLink : files.entry? (place ++ [name]) = some (.link target)) :
    files.walk false links place [name] = .ok (place ++ [name]) := by
  rw [walk_name directory isName short, isLink]
  simp

theorem directory_of_enter (entered : files.enter place = .ok ()) :
    files.entry? place = some .directory := by
  unfold enter at entered
  split at entered
  · assumption
  all_goals cases entered

theorem directory_of_allow (allowed : files.allow place name = .ok ()) (notEmpty : name ≠ "") :
    files.entry? place = some .directory := by
  rw [allow, if_neg notEmpty] at allowed
  exact directory_of_enter allowed

theorem directory_of_walk_name (isName : IsName name)
    (found : files.walk followLast links place (name :: rest) = .ok other) :
    files.entry? place = some .directory ∧ name.utf8ByteSize ≤ nameLimit := by
  obtain ⟨notEmpty, notDot, notUp⟩ := isName.ne
  rw [walk] at found
  cases allowed : files.allow place name with
  | error error =>
      rw [allowed] at found
      cases found
  | ok _ =>
      refine ⟨directory_of_allow allowed notEmpty, ?_⟩
      by_contra long
      simp [allowed, notEmpty, notDot, notUp, Nat.not_le.mp long] at found

/-- What a walk that gets past a name has found at it. -/
theorem walk_name_eq_ok (isName : IsName name)
    (found : files.walk followLast links place (name :: rest) = .ok other) :
    files.entry? place = some .directory ∧ name.utf8ByteSize ≤ nameLimit ∧
      ∃ entry, files.entry? (place ++ [name]) = some entry ∧
        ((∃ target, entry = .link target) ∧
            (rest = [] ∧ followLast = false → other = place ++ [name]) ∨
          (∀ target, entry ≠ .link target) ∧
            files.walk followLast links (place ++ [name]) rest = .ok other) := by
  obtain ⟨directory, short⟩ := directory_of_walk_name isName found
  refine ⟨directory, short, ?_⟩
  rw [walk_name directory isName short] at found
  cases entry : files.entry? (place ++ [name]) with
  | none =>
      rw [entry] at found
      cases found
  | some here =>
      refine ⟨here, rfl, ?_⟩
      rw [entry] at found
      cases here with
      | link target =>
          refine Or.inl ⟨⟨target, rfl⟩, fun last => ?_⟩
          simp only [last, and_self, if_true, Except.ok.injEq] at found
          exact found.symm
      | _ => exact Or.inr ⟨by simp, found⟩

namespace Enterable

theorem directory (enterable : files.Enterable place) :
    files.entry? place = some .directory := by
  cases enterable with
  | root directory => exact directory
  | down _ _ _ directory => exact directory

theorem dropLast (enterable : files.Enterable place) : files.Enterable place.dropLast := by
  cases enterable with
  | root directory => exact .root directory
  | down above _ _ _ => simpa using above

theorem of_append_singleton (enterable : files.Enterable (place ++ [name])) :
    files.Enterable place ∧ IsName name ∧ name.utf8ByteSize ≤ nameLimit ∧
      files.entry? (place ++ [name]) = some .directory := by
  generalize split : place ++ [name] = whole at enterable
  cases enterable with
  | root _ => simp at split
  | down above isName short directory =>
      obtain ⟨rfl, same⟩ := List.append_inj' split rfl
      obtain rfl : name = _ := List.singleton_injective same
      exact ⟨above, isName, short, directory⟩

theorem isRoot (enterable : files.Enterable place) : files.Enterable [] := by
  induction enterable with
  | root directory => exact .root directory
  | down _ _ _ _ inductionHypothesis => exact inductionHypothesis

theorem atStart (enterable : files.Enterable place) (text : List Char) :
    files.Enterable (walkStart place text) := by
  unfold walkStart
  split
  · exact enterable.isRoot
  · exact enterable

theorem isName_of_mem (enterable : files.Enterable place) (member : name ∈ place) :
    IsName name := by
  induction enterable with
  | root _ => cases member
  | down _ isName _ _ inductionHypothesis =>
      rcases List.mem_append.mp member with above | last
      · exact inductionHypothesis above
      · exact List.mem_singleton.mp last ▸ isName

theorem walk_root (enterable : files.Enterable place) (rest : List String) :
    files.walk followLast links [] (place ++ rest) = files.walk followLast links place rest := by
  induction enterable generalizing rest with
  | root _ => rfl
  | down above isName short below inductionHypothesis =>
      rw [List.append_assoc, inductionHypothesis, List.singleton_append,
        walk_down above.directory isName short below]

/-- Names that lead down to an enterable location are walked without a detour. -/
theorem walk_append (enterable : files.Enterable place)
    (below : files.Enterable (place ++ names)) (rest : List String) :
    files.walk followLast links place (names ++ rest) =
      files.walk followLast links (place ++ names) rest := by
  rw [← enterable.walk_root, ← below.walk_root, List.append_assoc]

theorem walk_dot (enterable : files.Enterable place) (isDot : IsDot name) :
    ∃ reached, files.Enterable reached ∧ ∀ followLast links rest,
      files.walk followLast links place (name :: rest) =
        files.walk followLast links reached rest := by
  rcases isDot with empty | dot | rfl
  · exact ⟨place, enterable, fun _ _ _ => walk_idle enterable.directory (Or.inl empty)⟩
  · exact ⟨place, enterable, fun _ _ _ => walk_idle enterable.directory (Or.inr dot)⟩
  · exact ⟨place.dropLast, enterable.dropLast, fun _ _ _ => walk_up enterable.directory⟩

/-- Dots lead from an enterable location to an enterable location. -/
theorem walk_dots (enterable : files.Enterable place) (allDots : ∀ name ∈ names, IsDot name) :
    ∃ reached, files.Enterable reached ∧ ∀ followLast links rest,
      files.walk followLast links place (names ++ rest) =
        files.walk followLast links reached rest := by
  induction names generalizing place with
  | nil => exact ⟨place, enterable, fun _ _ _ => rfl⟩
  | cons name names inductionHypothesis =>
      obtain ⟨isDot, laterDots⟩ := List.forall_mem_cons.mp allDots
      obtain ⟨middle, middleEnterable, first⟩ := enterable.walk_dot isDot
      obtain ⟨reached, isEnterable, later⟩ := inductionHypothesis middleEnterable laterDots
      exact ⟨reached, isEnterable, fun _ _ _ => (first _ _ _).trans (later _ _ _)⟩

/-- Empty names among dots ask for a directory that is there. -/
theorem walk_filter_dots (enterable : files.Enterable place)
    (allDots : ∀ name ∈ names, IsDot name) (rest : List String) :
    files.walk followLast links place (names.filter (· ≠ "") ++ rest) =
      files.walk followLast links place (names ++ rest) := by
  induction names generalizing place with
  | nil => rfl
  | cons name names inductionHypothesis =>
      obtain ⟨isDot, laterDots⟩ := List.forall_mem_cons.mp allDots
      by_cases empty : name = ""
      · rw [List.filter_cons_of_neg (by simpa using empty), inductionHypothesis enterable laterDots,
          List.cons_append, walk_idle enterable.directory (Or.inl empty)]
      · obtain ⟨middle, middleEnterable, first⟩ := enterable.walk_dot isDot
        rw [List.filter_cons_of_pos (by simpa using empty), List.cons_append, List.cons_append,
          first, first, inductionHypothesis middleEnterable laterDots]

/-- From an enterable location the names of a text are walked with the empty ones or without them,
when all empty ones are among dots at the start. -/
theorem walk_walkNames (enterable : files.Enterable place) {text : List Char}
    {dots : List String} (read : namesOf text = dots ++ names)
    (allDots : ∀ name ∈ dots, IsDot name) (proper : "" ∉ names) (rest : List String) :
    files.walk followLast links place (walkNames text ++ rest) =
      files.walk followLast links place (dots ++ (names ++ rest)) := by
  have kept : names.filter (· ≠ "") = names := by
    rw [List.filter_eq_self]
    intro name member
    simpa using ne_of_mem_of_not_mem member proper
  rcases walkNames_cases text with plain | ⟨trailing, withSlash⟩
  · rw [plain, read, List.filter_append, kept, List.append_assoc, enterable.walk_filter_dots allDots]
  · have noNames : names = [] := by
      by_contra present
      rw [read, List.getLast?_append_of_ne_nil _ present] at trailing
      exact proper (List.mem_of_getLast? trailing)
    obtain ⟨reached, isEnterable, leads⟩ := enterable.walk_dots allDots
    rw [withSlash, read, noNames, List.append_nil, List.append_assoc,
      enterable.walk_filter_dots allDots, leads, leads, List.singleton_append, List.nil_append,
      walk_idle isEnterable.directory (Or.inl rfl)]

end Enterable

/-! ## Lookups -/

theorem locate_eq_walk {base : Location} {text : String} (noNul : '\x00' ∉ text.toList)
    (short : text.utf8ByteSize < pathLimit) (notEmpty : text ≠ "") :
    files.locate base followLast text =
      files.walk followLast linkLimit (walkStart base text.toList) (walkNames text.toList) := by
  simp [locate, noNul, notEmpty, Nat.not_le.mpr short]

theorem locate_eq_ok_iff (files : FileSystem) (base : Location) (followLast : Bool)
    (text : String) (reached : Location) :
    files.locate base followLast text = .ok reached ↔
      '\x00' ∉ text.toList ∧ text.utf8ByteSize < pathLimit ∧ text ≠ "" ∧
        files.walk followLast linkLimit (walkStart base text.toList) (walkNames text.toList) =
          .ok reached := by
  unfold locate
  by_cases nul : '\x00' ∈ text.toList
  · simp [nul]
  · by_cases long : text.utf8ByteSize ≥ pathLimit
    · simp [nul, long, Nat.not_lt.mpr long]
    · by_cases empty : text = ""
      · simp [empty, pathLimit]
      · have short := Nat.not_le.mp long
        simp [nul, long, short, empty]

theorem locate_ne_tooManyLinks {base : Location} {text : String}
    (walked : files.walk followLast linkLimit (walkStart base text.toList)
      (walkNames text.toList) ≠ .error .tooManyLinks) :
    files.locate base followLast text ≠ .error .tooManyLinks := by
  unfold locate
  split
  · simp
  · split
    · simp
    · split
      · simp
      · exact walked

/-! ## Running out of links -/

/-- With fewer links left, a walk that succeeded ends at the same location or runs out of links. -/
theorem walk_of_fewer (enough : fewer ≤ links)
    (found : files.walk followLast links place names = .ok other) :
    files.walk followLast fewer place names = .ok other ∨
      files.walk followLast fewer place names = .error .tooManyLinks := by
  fun_induction files.walk followLast links place names generalizing fewer with
  | case1 links place => exact Or.inl (by rw [walk, ← found])
  | case2 => cases found
  | case3 links place name rest allowed idle inductionHypothesis =>
      rw [walk]
      simp only [allowed, if_pos idle]
      exact inductionHypothesis enough found
  | case4 links place rest allowed notIdle inductionHypothesis =>
      rw [walk]
      simp only [allowed, if_neg notIdle, if_true]
      exact inductionHypothesis enough found
  | case5 | case6 => cases found
  | case7 links place name rest allowed notIdle notUp short target isLink last =>
      left
      rw [walk]
      simp only [allowed, if_neg notIdle, if_neg notUp, if_neg short, isLink, if_pos last]
      exact found
  | case8 => cases found
  | case9 place name rest allowed notIdle notUp short target isLink notLast links
      inductionHypothesis =>
      rw [walk]
      simp only [allowed, if_neg notIdle, if_neg notUp, if_neg short, isLink, if_neg notLast]
      cases fewer with
      | zero => exact Or.inr rfl
      | succ fewer => exact inductionHypothesis (Nat.le_of_succ_le_succ enough) found
  | case10 links place name rest allowed notIdle notUp short entry notLink present
      inductionHypothesis =>
      rw [walk]
      simp only [allowed, if_neg notIdle, if_neg notUp, if_neg short, present]
      exact inductionHypothesis enough found

/-- Whatever follows, a walk along the first names runs out of links or goes on as one along the
other names does, which has at least so many links fewer left. -/
def LeadsTo (files : FileSystem) (cost : Nat) (place : Location) (names : List String)
    (other : Location) (others : List String) : Prop :=
  ∀ links rest,
    files.walk true links place (names ++ rest) = .error .tooManyLinks ∨
      ∃ fewer, fewer + cost ≤ links ∧ files.walk true links place (names ++ rest) =
        files.walk true fewer other (others ++ rest)

/-- Whatever follows, a walk along names with at most so many links left runs out of them. -/
def RunsOut (files : FileSystem) (limit : Nat) (place : Location) (names : List String) : Prop :=
  ∀ links ≤ limit, ∀ rest,
    files.walk true links place (names ++ rest) = .error .tooManyLinks

namespace LeadsTo

variable {cost later limit : Nat}

theorem of_walk_eq (same : ∀ links rest, files.walk true links place (names ++ rest) =
    files.walk true links other (others ++ rest)) : files.LeadsTo 0 place names other others :=
  fun links rest => Or.inr ⟨links, le_refl links, same links rest⟩

theorem refl (files : FileSystem) (place : Location) (names : List String) :
    files.LeadsTo 0 place names place names :=
  of_walk_eq fun _ _ => rfl

theorem trans {last : Location} {lasts : List String}
    (first : files.LeadsTo cost place names other others)
    (second : files.LeadsTo later other others last lasts) :
    files.LeadsTo (cost + later) place names last lasts := by
  intro links rest
  rcases first links rest with out | ⟨fewer, affordable, same⟩
  · exact Or.inl out
  · rw [same]
    rcases second fewer rest with out | ⟨fewest, affordableLater, sameAgain⟩
    · exact Or.inl out
    · exact Or.inr ⟨fewest, by omega, sameAgain⟩

theorem weaken (leads : files.LeadsTo cost place names other others) :
    files.LeadsTo 0 place names other others := by
  intro links rest
  rcases leads links rest with out | ⟨fewer, affordable, same⟩
  · exact Or.inl out
  · exact Or.inr ⟨fewer, by omega, same⟩

theorem append (leads : files.LeadsTo cost place names other others) (more : List String) :
    files.LeadsTo cost place (names ++ more) other (others ++ more) := by
  intro links rest
  rw [List.append_assoc, List.append_assoc]
  exact leads links (more ++ rest)

theorem runsOut (leads : files.LeadsTo cost place names other others)
    (out : files.RunsOut limit other others) : files.RunsOut (limit + cost) place names := by
  intro links atMost rest
  rcases leads links rest with out | ⟨fewer, affordable, same⟩
  · exact out
  · rw [same]
    exact out fewer (by omega) rest

/-- A walk that comes back to where it began, having followed a link, never ends well. -/
theorem runsOut_of_loop {more : List String} (costly : 0 < cost)
    (loops : files.LeadsTo cost place names place (names ++ more)) (limit : Nat) :
    files.RunsOut limit place names := by
  have out : ∀ links rest, files.walk true links place (names ++ rest) = .error .tooManyLinks := by
    intro links
    induction links using Nat.strong_induction_on with
    | _ links inductionHypothesis =>
        intro rest
        rcases loops links rest with out | ⟨fewer, affordable, same⟩
        · exact out
        · have less : fewer < links := by omega
          rw [same, List.append_assoc]
          exact inductionHypothesis fewer less (more ++ rest)
  exact fun links _ rest => out links rest

end LeadsTo

theorem RunsOut.append {limit : Nat} (out : files.RunsOut limit place names)
    (more : List String) : files.RunsOut limit place (names ++ more) := by
  intro links atMost rest
  rw [List.append_assoc]
  exact out links atMost (more ++ rest)

end FileSystem

end PrologImage
