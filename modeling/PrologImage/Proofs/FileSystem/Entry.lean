import PrologImage.FileSystem.Lookup
import PrologImage.Proofs.Session.Progress

/-!
Contract: what stands at a location, and what a path leads to.

Owns: entries after an entry was placed, files that a process wrote, and the predicates that a
path leads to a regular file or to anything at all.

Does not own: the resolution of paths (`FileSystem.Resolve`).
-/

namespace PrologImage

namespace FileSystem

/-! ## Entries after placing -/

private theorem lookup_filter_of_ne {location other : Location} (different : location ≠ other)
    (entries : List (Location × Entry)) :
    (entries.filter fun held => decide (held.1 ≠ other)).lookup location =
      entries.lookup location := by
  induction entries with
  | nil => rfl
  | cons held rest inductionHypothesis =>
      obtain ⟨place, entry⟩ := held
      by_cases removed : place = other
      · subst removed
        have notHere : (location == place) = false := beq_eq_false_iff_ne.mpr different
        rw [List.filter_cons_of_neg (by simp), List.lookup_cons, notHere]
        exact inductionHypothesis
      · rw [List.filter_cons_of_pos (by simpa using removed), List.lookup_cons, List.lookup_cons,
          inductionHypothesis]

theorem entry?_remove_of_ne (files : FileSystem) {location other : Location}
    (different : location ≠ other) :
    entry? (files.remove other) location = files.entry? location :=
  lookup_filter_of_ne different files.entries

@[simp] theorem entry?_replace_self (files : FileSystem) (location : Location) (entry : Entry) :
    entry? (files.replace location entry) location = some entry := by
  simp [replace, entry?]

theorem entry?_replace_of_ne (files : FileSystem) {location other : Location} (entry : Entry)
    (different : location ≠ other) :
    entry? (files.replace other entry) location = files.entry? location := by
  rw [← entry?_remove_of_ne files different]
  have notHere : (location == other) = false := by simpa using different
  simp [replace, entry?, List.lookup_cons, notHere]

/-- Directories are made only where nothing stands, so an entry that is there stays. -/
theorem entry?_ensureDirectory {files : FileSystem} {location : Location} {entry : Entry}
    (present : files.entry? location = some entry) (other : Location) :
    entry? (files.ensureDirectory other) location = some entry := by
  unfold ensureDirectory
  split
  · exact present
  · rename_i absent
    have different : location ≠ other := by
      intro same
      rw [same, absent] at present
      cases present
    rw [entry?_replace_of_ne files _ different, present]

theorem entry?_foldl_ensureDirectory {files : FileSystem} {location : Location} {entry : Entry}
    (present : files.entry? location = some entry) (others : List Location) :
    entry? (others.foldl ensureDirectory files) location = some entry := by
  induction others generalizing files with
  | nil => exact present
  | cons other rest inductionHypothesis =>
      exact inductionHypothesis (entry?_ensureDirectory present other)

/-- A file stays a file when another file is placed anywhere, also below it. -/
theorem entry?_place_file {files : FileSystem} {location : Location}
    (present : files.entry? location = some .file) (other : Location) :
    entry? (files.place other .file) location = some .file := by
  unfold place
  by_cases same : location = other
  · rw [same, entry?_replace_self]
  · rw [entry?_replace_of_ne _ _ same]
    exact entry?_foldl_ensureDirectory present other.ancestors

end FileSystem

/-- What a process wrote is a regular file after it. -/
theorem ProcessOutcome.entry?_applied (outcome : ProcessOutcome) (files : FileSystem)
    {location : Location} (written : location ∈ outcome.writes) :
    FileSystem.entry? (outcome.applied files) location = some .file := by
  -- Writes before the last one on the location do not matter, the ones after it keep the file.
  have kept : ∀ (writes : List Location) (files : FileSystem),
      files.entry? location = some .file ∨ location ∈ writes →
        FileSystem.entry? (writes.foldl (fun files place => files.place place .file) files)
          location = some .file := by
    intro writes
    induction writes with
    | nil =>
        intro files reason
        simpa using reason
    | cons place rest inductionHypothesis =>
        intro files reason
        apply inductionHypothesis
        rcases reason with present | member
        · exact Or.inl (FileSystem.entry?_place_file present place)
        · rcases List.mem_cons.mp member with rfl | later
          · exact Or.inl (FileSystem.entry?_replace_self _ _ _)
          · exact Or.inr later
  exact kept outcome.writes files (Or.inr written)

namespace FileSystem

/-! ## What a path leads to -/

/-- A path that leads to a regular file, links followed. -/
def IsRegular (files : FileSystem) (base : Location) (path : Path) : Prop :=
  files.status base path.text = .ok .file ∨ files.status base path.text = .ok .executable

/-- A path that leads to anything at all, links followed. -/
def Leads (files : FileSystem) (base : Location) (path : Path) : Prop :=
  ∃ entry, files.status base path.text = .ok entry

theorem entryOf?_eq_ok_some_iff (files : FileSystem) (base : Location) (path : Path)
    (entry : Entry) :
    files.entryOf? base path = .ok (some entry) ↔ files.status base path.text = .ok entry := by
  unfold entryOf?
  cases files.status base path.text with
  | ok found => simp
  | error cause => cases cause <;> simp

theorem holds_eq_ok_true_iff (files : FileSystem) (base : Location) (path : Path) :
    files.holds base path = .ok true ↔ files.Leads base path := by
  unfold holds Leads
  simp only [← entryOf?_eq_ok_some_iff]
  rcases files.entryOf? base path with _ | (_ | entry) <;> simp [Except.map]

theorem holds_eq_error_iff (files : FileSystem) (base : Location) (path : Path)
    (error : SystemError) :
    files.holds base path = .error error ↔ files.entryOf? base path = .error error := by
  unfold holds
  cases files.entryOf? base path <;> simp [Except.map]

end FileSystem

end PrologImage
