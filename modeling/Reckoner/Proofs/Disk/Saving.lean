import Reckoner.Store

/-!
# A file that was saved is found again

An entry put where no directory was changes what a path leads to only at its own place
(`Leads.put`). So the directories on the way to a file stay when it is written (`isDirectory_put`),
and a file that was saved once is read as it was saved (`read_of_save`) and can be saved again
(`IsWritable.save`).
-/

namespace Reckoner.Disk

/-! ## Following a path -/

/-- A name that is the name of an entry, and not too long for one. -/
structure IsEntryName (name : Text) : Prop where
  proper : ¬(name = [] || name = ['.']) = true
  down : name ≠ ['.', '.']
  short : ¬Path.maxNameBytes < Path.byteCount name

/-- Where names lead from a place, and every directory that they lead through. -/
inductive Leads (disk : Disk) : Place → List Text → Target → Prop where
  | arrive {here : Place} {entry : DiskEntry} (present : disk.get? here = some entry) :
      Leads disk here [] (.present here entry)
  | stay {here : Place} {name : Text} {rest : List Text} {target : Target}
      (directory : disk.get? here = some .directory) (stays : (name = [] || name = ['.']) = true)
      (later : Leads disk here rest target) : Leads disk here (name :: rest) target
  | up {here : Place} {rest : List Text} {target : Target}
      (directory : disk.get? here = some .directory)
      (later : Leads disk here.dropLast rest target) :
      Leads disk here (['.', '.'] :: rest) target
  | enter {here : Place} {name : Text} {rest : List Text} {target : Target}
      (directory : disk.get? here = some .directory) (named : IsEntryName name)
      (child : (disk.get? (here ++ [name])).isSome = true)
      (later : Leads disk (here ++ [name]) rest target) : Leads disk here (name :: rest) target
  | stop {here : Place} {name : Text} {rest : List Text}
      (directory : disk.get? here = some .directory) (named : IsEntryName name)
      (absent : disk.get? (here ++ [name]) = none) (final : rest.all (· = []) = true) :
      Leads disk here (name :: rest) (.absent (here ++ [name]) (rest ≠ []))

/-- Following names finds what they lead to. -/
theorem follow_iff {disk : Disk} {here : Place} {names : List Text} {target : Target} :
    disk.follow here names = .ok target ↔ Leads disk here names target := by
  constructor
  · intro found
    -- One constructor for every way in which `follow` takes a name without a fault.
    induction names generalizing here with
    | nil =>
        rw [follow] at found
        split at found
        · rename_i entry present
          cases found
          exact .arrive present
        · cases found
    | cons name rest ih =>
        rw [follow] at found
        split at found
        · cases found
        · cases found
        · rename_i directory
          split at found
          · rename_i stays
            exact .stay directory stays (ih found)
          · rename_i proper
            split at found
            · rename_i up
              subst up
              exact .up directory (ih found)
            · rename_i down
              split at found
              · cases found
              · rename_i short
                split at found
                · rename_i child
                  exact .enter directory ⟨proper, down, short⟩ child (ih found)
                · rename_i child
                  split at found
                  · rename_i final
                    cases found
                    exact .stop directory ⟨proper, down, short⟩ (by simpa using child) final
                  · cases found
  · intro leads
    induction leads with
    | arrive present => rw [follow, present]
    | stay directory stays _ ih =>
        rw [follow, directory]
        dsimp only
        rw [if_pos stays]
        exact ih
    | up directory _ ih =>
        rw [follow, directory]
        exact ih
    | enter directory named child _ ih =>
        rw [follow, directory]
        dsimp only
        rw [if_neg named.proper, if_neg named.down, if_neg named.short, if_pos child]
        exact ih
    | stop directory named absent final =>
        rw [follow, directory]
        dsimp only
        rw [if_neg named.proper, if_neg named.down, if_neg named.short, absent, if_pos final]
        rfl

/-- What a path leads to, as it is found at its place. -/
def Target.IsAt (disk : Disk) : Target → Prop
  | .present place entry => disk.get? place = some entry
  | .absent place _ => disk.get? place = none

theorem Leads.isAt {disk : Disk} {here : Place} {names : List Text} {target : Target}
    (leads : Leads disk here names target) : target.IsAt disk := by
  induction leads with
  | arrive present => exact present
  | stay _ _ _ ih => exact ih
  | up _ _ ih => exact ih
  | enter _ _ _ _ ih => exact ih
  | stop _ _ absent _ => exact absent

/-- Empty names lead nowhere. -/
theorem leads_empty {disk : Disk} {here : Place} {names : List Text}
    (directory : disk.get? here = some .directory) (empty : names.all (· = []) = true) :
    Leads disk here names (.present here .directory) := by
  induction names with
  | nil => exact .arrive directory
  | cons name rest ih =>
      rw [List.all_cons, Bool.and_eq_true, decide_eq_true_eq] at empty
      exact .stay directory (by rw [empty.1]; rfl) (ih empty.2)

/-! ## Putting an entry -/

/-- What a path leads to once an entry is put at a place. -/
def Target.put (place : Place) (entry : DiskEntry) : Target → Target
  | .present here old => .present here (if here = place then entry else old)
  | .absent here asDirectory =>
    if here = place then .present here entry else .absent here asDirectory

section Put

variable {disk : Disk} {place : Place} {entry : DiskEntry}
  (free : disk.get? place ≠ some .directory)

include free

theorem below_of_free : place ≠ [] := by
  rintro rfl
  exact free rfl

theorem get?_put_directory {here : Place} (directory : disk.get? here = some .directory) :
    (disk.put place entry).get? here = some .directory := by
  have other : here ≠ place := by
    rintro rfl
    exact free directory
  rw [get?_put disk (below_of_free free), if_neg other, directory]

/-- **An entry put where no directory was is all that changes.** Where nothing was, a file can be
put only if the path does not ask for a directory. -/
theorem Leads.put {here : Place} {names : List Text} {target : Target}
    (leads : Leads disk here names target)
    (fits : target = .absent place true → entry = .directory) :
    Leads (disk.put place entry) here names (target.put place entry) := by
  have below := below_of_free free
  induction leads with
  | @arrive here old present =>
      apply Leads.arrive
      rw [get?_put disk below]
      split
      · rfl
      · exact present
  | stay directory stays _ ih => exact .stay (get?_put_directory free directory) stays (ih fits)
  | up directory _ ih => exact .up (get?_put_directory free directory) (ih fits)
  | enter directory named child _ ih =>
      refine .enter (get?_put_directory free directory) named ?_ (ih fits)
      rw [get?_put disk below]
      split
      · rfl
      · exact child
  | @stop here name rest directory named missing final =>
      have kept := @get?_put_directory _ _ entry free _ directory
      by_cases same : here ++ [name] = place
      -- What was absent is now the entry, and the names that are left are empty.
      · have found : (disk.put place entry).get? (here ++ [name]) = some entry := by
          rw [get?_put disk below, if_pos same]
        rw [Target.put, if_pos same]
        refine .enter kept named (by rw [found]; rfl) ?_
        cases rest with
        | nil => exact .arrive found
        | cons other others =>
            have directory : entry = .directory := by
              apply fits
              rw [same]
              rfl
            subst directory
            exact leads_empty found final
      · have absent : (disk.put place entry).get? (here ++ [name]) = none := by
          rw [get?_put disk below, if_neg same, missing]
        rw [Target.put, if_neg same]
        exact .stop kept named absent final

end Put

/-! ## Paths -/

theorem leads_of_find {disk : Disk} {path : Text} {target : Target}
    (found : disk.find path = .ok target) : ∃ start, Leads disk start (Path.names path) target := by
  rw [find] at found
  split at found
  · cases found
  · split at found
    · cases found
    · split at found
      · cases found
      · exact ⟨_, follow_iff.mp found⟩

theorem find_isAt {disk : Disk} {path : Text} {target : Target}
    (found : disk.find path = .ok target) : target.IsAt disk := by
  obtain ⟨_, leads⟩ := leads_of_find found
  exact leads.isAt

/-- A file that is read is found. -/
theorem find_of_read {disk : Disk} {path content : Text} (success : disk.read path = .ok content) :
    ∃ place, disk.find path = .ok (.present place (.file content)) := by
  rw [read] at success
  cases found : disk.find path with
  | error fault =>
      rw [found] at success
      cases success
  | ok target =>
      rw [found] at success
      rcases target with ⟨place, text | _⟩ | ⟨place, asDirectory⟩
      · cases success
        exact ⟨place, rfl⟩
      · cases success
      · cases success

section Find

variable {disk : Disk} {place : Place} {entry : DiskEntry}
  (free : disk.get? place ≠ some .directory) {path : Text}

include free

theorem find_put {target : Target} (found : disk.find path = .ok target)
    (fits : target = .absent place true → entry = .directory) :
    (disk.put place entry).find path = .ok (target.put place entry) := by
  rw [find] at found ⊢
  split at found
  · cases found
  · rename_i proper
    rw [if_neg proper]
    split at found
    · cases found
    · rename_i named
      rw [if_neg named]
      split at found
      · cases found
      · rename_i short
        rw [if_neg short]
        exact follow_iff.mpr ((follow_iff.mp found).put free fits)

/-- What is elsewhere stays where it is found. -/
theorem find_put_of_ne {here : Place} {old : DiskEntry}
    (found : disk.find path = .ok (.present here old)) (other : here ≠ place) :
    (disk.put place entry).find path = .ok (.present here old) := by
  have kept := @find_put _ _ entry free _ _ found (fun absent => by cases absent)
  rw [Target.put, if_neg other] at kept
  exact kept

/-- Directories stay. -/
theorem isDirectory_put (directory : disk.isDirectory path = true) :
    (disk.put place entry).isDirectory path = true := by
  rw [isDirectory] at directory
  split at directory
  · rename_i here found
    have other : here ≠ place := by
      rintro rfl
      exact free (find_isAt found)
    rw [isDirectory, find_put_of_ne free found other]
  · cases directory

end Find

/-! ## Writing -/

/-- A file put where a path leads, and where no directory was, is what the path leads to. -/
theorem find_put_file {disk : Disk} {path content : Text} {place : Place} {target : Target}
    (found : disk.find path = .ok target) (free : disk.get? place ≠ some .directory)
    (here : target.put place (.file content) = .present place (.file content))
    (plain : target ≠ .absent place true) :
    (disk.put place (.file content)).find path = .ok (.present place (.file content)) := by
  rw [find_put free found (fun asked => absurd asked plain), here]

/-- A change puts a file where no directory was, and there it is found. -/
theorem exists_put_of_change {disk changed : Disk} {path : Text} {alter : Text → Text}
    (success : disk.change path alter = .ok changed) :
    ∃ place before, disk.get? place ≠ some .directory ∧
      changed = disk.put place (.file (alter before)) ∧
      changed.find path = .ok (.present place (.file (alter before))) := by
  rw [change] at success
  cases found : disk.find path with
  | error fault =>
      rw [found] at success
      cases success
  | ok target =>
      rw [found] at success
      have isAt := find_isAt found
      -- Only over a file, and where nothing is and no directory is asked for, is there a change.
      rcases target with ⟨place, before | _⟩ | ⟨place, _ | _⟩
      · cases success
        have free : disk.get? place ≠ some .directory := by
          rw [isAt]
          simp
        have kept : (disk.put place (.file (alter before))).find path = _ :=
          find_put_file found free (by rw [Target.put, if_pos rfl]) (by simp)
        exact ⟨place, before, free, rfl, kept⟩
      · cases success
      · cases success
        have free : disk.get? place ≠ some .directory := by
          rw [isAt]
          simp
        have kept : (disk.put place (.file (alter []))).find path = _ :=
          find_put_file found free (by rw [Target.put, if_pos rfl]) (by simp)
        exact ⟨place, [], free, rfl, kept⟩
      · cases success

/-- A write puts a file where no directory was, and there it is found. -/
theorem exists_put_of_write {disk written : Disk} {path content : Text}
    (wrote : disk.write path content = .ok written) :
    ∃ place, disk.get? place ≠ some .directory ∧ written = disk.put place (.file content) ∧
      written.find path = .ok (.present place (.file content)) := by
  obtain ⟨place, _, change⟩ := exists_put_of_change wrote
  exact ⟨place, change⟩

/-- Whether a write succeeds does not depend on what is written. -/
theorem exists_write {disk written : Disk} {path content : Text}
    (wrote : disk.write path content = .ok written) (other : Text) :
    ∃ rewritten, disk.write path other = .ok rewritten := by
  rw [write, change] at wrote ⊢
  cases found : disk.find path with
  | error fault =>
      rw [found] at wrote
      cases wrote
  | ok target =>
      rw [found] at wrote
      rcases target with ⟨place, old | _⟩ | ⟨place, _ | _⟩
      · exact ⟨_, rfl⟩
      · cases wrote
      · exact ⟨_, rfl⟩
      · cases wrote

/-! ## Directories -/

theorem isDirectory_of_makeDirectory {disk made : Disk} {path : Text}
    (success : disk.makeDirectory path = .ok made) : made.isDirectory path = true := by
  rw [makeDirectory] at success
  cases found : disk.find path with
  | error fault =>
      rw [found] at success
      cases success
  | ok target =>
      rw [found] at success
      have isAt := find_isAt found
      cases target with
      | present place entry => cases success
      | absent place asDirectory =>
          cases success
          have free : disk.get? place ≠ some .directory := by
            rw [isAt]
            simp
          have kept := find_put free found (fun _ => rfl)
          rw [Target.put, if_pos rfl] at kept
          rw [isDirectory, kept]

theorem makeDirectory_of_isDirectory {disk : Disk} {path : Text}
    (directory : disk.isDirectory path = true) :
    disk.makeDirectory path = .error .alreadyExists := by
  rw [isDirectory] at directory
  split at directory
  · rename_i place found
    rw [makeDirectory, found]
    rfl
  · cases directory

section Steps

variable {absolute : Bool} {step : Text} {above : List Text}

/-- When the steps to a directory have been made, it is there. -/
theorem isDirectory_of_makeSteps {disk made : Disk}
    (success : disk.makeSteps absolute (step :: above) = (made, .ok ())) :
    made.isDirectory (Path.ofSteps absolute (step :: above).reverse) = true := by
  have checked {after : Disk} {fault : FileFault}
      (claimed : (after, if after.isDirectory (Path.ofSteps absolute (step :: above).reverse) then
        .ok () else .error fault) = (made, Except.ok ())) :
      made.isDirectory (Path.ofSteps absolute (step :: above).reverse) = true := by
    split at claimed
    · cases claimed
      assumption
    · cases claimed
  rw [makeSteps] at success
  split at success
  · rename_i direct
    cases success
    exact isDirectory_of_makeDirectory direct
  · split at success
    · cases success
    · split at success
      · rename_i later
        cases success
        exact isDirectory_of_makeDirectory later
      · exact checked success
  · exact checked success

/-- A directory that is there is left as it is. -/
theorem makeSteps_of_isDirectory {disk : Disk}
    (directory : disk.isDirectory (Path.ofSteps absolute (step :: above).reverse) = true) :
    disk.makeSteps absolute (step :: above) = (disk, .ok ()) := by
  rw [makeSteps, makeDirectory_of_isDirectory directory]
  show (disk, if _ then _ else _) = _
  rw [if_pos directory]

end Steps

theorem makeSteps_put {disk made : Disk} {absolute : Bool} {steps : List Text}
    (success : disk.makeSteps absolute steps = (made, .ok ())) {place : Place} {entry : DiskEntry}
    (free : made.get? place ≠ some .directory) :
    (made.put place entry).makeSteps absolute steps = (made.put place entry, .ok ()) := by
  cases steps with
  | nil => rfl
  | cons step above =>
      exact makeSteps_of_isDirectory (isDirectory_put free (isDirectory_of_makeSteps success))

/-- The directory that a path lies in stays, so that making it again changes nothing. -/
theorem makeParent_put {disk made : Disk} {path : Text}
    (success : disk.makeParent path = (made, .ok ())) {place : Place} {entry : DiskEntry}
    (free : made.get? place ≠ some .directory) :
    (made.put place entry).makeParent path = (made.put place entry, .ok ()) := by
  rw [makeParent] at success ⊢
  cases parent : Path.parent? path with
  | none => rfl
  | some directory =>
      rw [parent] at success
      dsimp only at success ⊢
      cases making : disk.makeDirectories directory with
      | mk after result =>
          rw [making] at success
          cases result with
          | error fault => cases success
          | ok _ =>
              cases success
              rw [makeDirectories] at making ⊢
              rw [makeSteps_put making free]

/-! ## Saving -/

/-- A file can be saved at a path. -/
def IsWritable (disk : Disk) (path : Text) : Prop := ∃ saved, disk.save path [] = (saved, .ok ())

/-- A save that succeeds makes the directory and writes the file. -/
theorem save_eq_ok {disk saved : Disk} {path content : Text} :
    disk.save path content = (saved, .ok ()) ↔
      ∃ made, disk.makeParent path = (made, .ok ()) ∧ made.write path content = .ok saved := by
  rw [save]
  cases disk.makeParent path with
  | mk made result =>
      cases result with
      | error fault => simp
      | ok _ =>
          cases wrote : made.write path content with
          | error fault => simp [wrote]
          | ok written => simp [wrote]

/-- Whether a save succeeds does not depend on what is saved. -/
theorem IsWritable.exists_save {disk : Disk} {path : Text} (writable : disk.IsWritable path)
    (content : Text) : ∃ saved, disk.save path content = (saved, .ok ()) := by
  obtain ⟨saved, success⟩ := writable
  obtain ⟨made, parent, wrote⟩ := save_eq_ok.mp success
  obtain ⟨other, rewrote⟩ := exists_write wrote content
  exact ⟨other, save_eq_ok.mpr ⟨made, parent, rewrote⟩⟩

/-- **A file is read as it was saved**, and it can be saved again. -/
theorem read_of_save {disk saved : Disk} {path content : Text}
    (success : disk.save path content = (saved, .ok ())) :
    saved.exists? path = true ∧ saved.read path = .ok content ∧ saved.IsWritable path := by
  obtain ⟨made, parent, wrote⟩ := save_eq_ok.mp success
  obtain ⟨place, free, rfl, found⟩ := exists_put_of_write wrote
  refine ⟨?_, ?_, ?_⟩
  · rw [exists?, found]
  · rw [read, found]
    rfl
  · obtain ⟨again, rewrote⟩ : ∃ again,
        (made.put place (.file content)).write path [] = .ok again := by
      rw [write, change, found]
      exact ⟨_, rfl⟩
    exact ⟨again, save_eq_ok.mpr ⟨_, makeParent_put parent free, rewrote⟩⟩

end Reckoner.Disk
