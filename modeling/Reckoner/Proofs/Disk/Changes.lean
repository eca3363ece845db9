import Reckoner.Proofs.Disk.Saving

/-!
# What may become of a disk

A program makes directories and writes files, and takes nothing away (`Evolves`). So every file was
there before with the same text, or has been written to a path that still leads to it
(`Evolves.file_cases`).
-/

namespace Reckoner.Disk

/-- Directories made where nothing was, and files written: which texts to which paths is what
`allowed` says. -/
inductive Evolves (allowed : Text → Text → Prop) (before : Disk) : Disk → Prop where
  | refl : Evolves allowed before before
  | directory {after : Disk} {place : Place} (earlier : Evolves allowed before after)
      (absent : after.get? place = none) : Evolves allowed before (after.put place .directory)
  | file {after : Disk} {path content : Text} {place : Place}
      (earlier : Evolves allowed before after) (allows : allowed path content)
      (free : after.get? place ≠ some .directory)
      (found : (after.put place (.file content)).find path = .ok (.present place (.file content))) :
      Evolves allowed before (after.put place (.file content))

section Evolves

variable {allowed : Text → Text → Prop} {before after : Disk}

theorem Evolves.trans {later : Disk} (first : Evolves allowed before after)
    (second : Evolves allowed after later) : Evolves allowed before later := by
  induction second with
  | refl => exact first
  | directory _ absent ih => exact .directory ih absent
  | file _ allows free found ih => exact .file ih allows free found

theorem free_of_none {disk : Disk} {place : Place} (absent : disk.get? place = none) :
    disk.get? place ≠ some .directory := by
  rw [absent]
  simp

/-- **Every file was there before or has been written.** In the second case the path that was
written to leads to the file. -/
theorem Evolves.file_cases (evolves : Evolves allowed before after) {place : Place} {content : Text}
    (file : after.get? place = some (.file content)) :
    before.get? place = some (.file content) ∨
      ∃ path, allowed path content ∧ after.find path = .ok (.present place (.file content)) := by
  induction evolves with
  | refl => exact .inl file
  | @directory after place _ absent ih =>
      have free := free_of_none absent
      rw [get?_put after (below_of_free free)] at file
      split at file
      · cases file
      · rename_i other
        exact (ih file).imp_right fun ⟨path, allows, found⟩ =>
          ⟨path, allows, find_put_of_ne free found other⟩
  | @file after path _ place _ allows free found ih =>
      rw [get?_put after (below_of_free free)] at file
      split at file
      · rename_i same
        cases file
        exact .inr ⟨path, allows, same ▸ found⟩
      · rename_i other
        exact (ih file).imp_right fun ⟨earlier, allows, found⟩ =>
          ⟨earlier, allows, find_put_of_ne free found other⟩

/-! ## Operations -/

theorem evolves_change {disk changed : Disk} {path : Text} {alter : Text → Text}
    (success : disk.change path alter = .ok changed)
    (allows : ∀ content, allowed path (alter content)) : Evolves allowed disk changed := by
  obtain ⟨place, content, free, rfl, found⟩ := exists_put_of_change success
  exact .file .refl (allows content) free found

theorem evolves_makeDirectory {disk made : Disk} {path : Text}
    (success : disk.makeDirectory path = .ok made) : Evolves allowed disk made := by
  rw [makeDirectory] at success
  cases found : disk.find path with
  | error fault =>
      rw [found] at success
      cases success
  | ok target =>
      rw [found] at success
      cases target with
      | present place entry => cases success
      | absent place asDirectory =>
          cases success
          exact .directory .refl (find_isAt found)

theorem evolves_makeSteps (disk : Disk) (absolute : Bool) (steps : List Text) :
    Evolves allowed disk (disk.makeSteps absolute steps).1 := by
  induction steps with
  | nil => exact .refl
  | cons step above ih =>
      rw [makeSteps]
      split
      · rename_i direct
        exact evolves_makeDirectory direct
      · generalize disk.makeSteps absolute above = making at ih
        obtain ⟨made, _ | _⟩ := making
        · exact ih
        · dsimp only
          split
          · rename_i last
            exact ih.trans (evolves_makeDirectory last)
          · exact ih
      · exact .refl

theorem evolves_makeParent (disk : Disk) (path : Text) :
    Evolves allowed disk (disk.makeParent path).1 := by
  rw [makeParent]
  cases Path.parent? path with
  | none => exact .refl
  | some directory =>
      have making : Evolves allowed disk (disk.makeDirectories directory).1 :=
        evolves_makeSteps disk _ _
      dsimp only
      split
      · rename_i made same
        rw [same] at making
        exact making
      · rename_i made fault same
        rw [same] at making
        exact making

theorem evolves_save (disk : Disk) {path content : Text} (allows : allowed path content) :
    Evolves allowed disk (disk.save path content).1 := by
  have parent : Evolves allowed disk (disk.makeParent path).1 := evolves_makeParent disk path
  rw [save]
  generalize disk.makeParent path = making at parent
  obtain ⟨made, _ | _⟩ := making
  · exact parent
  · dsimp only
    split
    · rename_i wrote
      exact parent.trans (evolves_change wrote (fun _ => allows))
    · exact parent

end Evolves

end Reckoner.Disk
