import Reckoner.DataDir
import Reckoner.Proofs.Disk.Saving

/-!
# The files of a data directory

A path within a data directory ends in the name of its file, so what it leads to has that name
(`find_child`), and two paths with different names never lead to one file (`name_eq_of_find`). That
holds of every root, with dots and slashes in it or without.
-/

namespace Reckoner

namespace Path

theorem names_ne_nil (path : Text) : names path ≠ [] := by
  cases path with
  | nil => exact List.cons_ne_nil _ _
  | cons c rest =>
      rw [names]
      split
      · exact List.cons_ne_nil _ _
      · split
        · exact List.cons_ne_nil _ _
        · exact List.cons_ne_nil _ _

/-- A slash ends a name. -/
theorem names_append (front rest : Text) :
    names (front ++ '/' :: rest) = names front ++ names rest := by
  induction front with
  | nil => rfl
  | cons c front ih =>
      rw [List.cons_append, names, names]
      split
      · rw [ih]
        rfl
      · rw [ih]
        obtain ⟨first, others, cut⟩ := List.exists_cons_of_ne_nil (names_ne_nil front)
        rw [cut]
        rfl

/-- A text without slashes is one name. -/
theorem names_of_plain {name : Text} (plain : '/' ∉ name) : names name = [name] := by
  induction name with
  | nil => rfl
  | cons c rest ih =>
      rw [List.mem_cons, not_or] at plain
      rw [names, if_neg (fun same => plain.1 same.symm), ih plain.2]

end Path

/-- The name of a file: the name of an entry without a slash in it. -/
structure DataDir.IsFileName (name : Text) : Prop where
  entry : Disk.IsEntryName name
  plain : '/' ∉ name

/-- The path of a file ends in its name. -/
theorem DataDir.names_child (root : Text) {name : Text} (plain : '/' ∉ name) :
    ∃ front, Path.names (child root name) = front ++ [name] := by
  have slashed (front : Text) : Path.names (front ++ '/' :: name) = Path.names front ++ [name] := by
    rw [Path.names_append, Path.names_of_plain plain]
  rw [child]
  split
  · exact ⟨[], Path.names_of_plain plain⟩
  · rename_i ends
    -- The slash at the end of the root is the one in front of the name.
    obtain ⟨front, rfl⟩ := List.getLast?_eq_some_iff.mp ends
    rw [List.append_assoc]
    exact ⟨_, slashed front⟩
  · rw [List.append_assoc]
    exact ⟨_, slashed root⟩

namespace Disk

/-- The place of what a path leads to. -/
def Target.place : Target → Place
  | .present place _ => place
  | .absent place _ => place

/-- Names lead to something of the last name. -/
theorem Leads.getLast?_place {disk : Disk} {here : Place} {names front : List Text}
    {target : Target} (leads : Leads disk here names target) {name : Text}
    (named : IsEntryName name) (last : names = front ++ [name]) :
    target.place.getLast? = some name := by
  induction leads generalizing front with
  | arrive _ => exact absurd last.symm (List.append_ne_nil_of_right_ne_nil _ (List.cons_ne_nil _ _))
  | @stay _ _ _ _ _ stays _ ih =>
      rcases List.cons_eq_append_iff.mp last with ⟨rfl, single⟩ | ⟨others, rfl, later⟩
      · cases single
        exact absurd stays named.proper
      · exact ih later
  | up _ _ ih =>
      rcases List.cons_eq_append_iff.mp last with ⟨rfl, single⟩ | ⟨others, rfl, later⟩
      · cases single
        exact absurd rfl named.down
      · exact ih later
  | enter _ _ _ leads ih =>
      rcases List.cons_eq_append_iff.mp last with ⟨rfl, single⟩ | ⟨others, rfl, later⟩
      · cases single
        cases leads with
        | arrive _ => exact List.getLast?_concat
      · exact ih later
  | @stop _ _ rest _ _ _ final =>
      rcases List.cons_eq_append_iff.mp last with ⟨rfl, single⟩ | ⟨others, rfl, later⟩
      · cases single
        exact List.getLast?_concat
      · -- Behind what is not there stand empty names only.
        subst later
        have empty : decide (name = []) = true :=
          List.all_eq_true.mp final name (List.mem_append_right _ List.mem_cons_self)
        exact absurd (by rw [empty, Bool.true_or]) named.proper

/-- **A path within a data directory leads to something of the name at its end.** -/
theorem find_child {disk : Disk} {root name : Text} {target : Target}
    (named : DataDir.IsFileName name)
    (found : disk.find (DataDir.child root name) = .ok target) :
    target.place.getLast? = some name := by
  obtain ⟨front, last⟩ := DataDir.names_child root named.plain
  obtain ⟨_, leads⟩ := leads_of_find found
  exact leads.getLast?_place named.entry last

/-- Two paths within data directories that lead to one place end in the same name. -/
theorem name_eq_of_find {disk : Disk} {root otherRoot name other : Text} {place : Place}
    {entry otherEntry : DiskEntry} (named : DataDir.IsFileName name)
    (otherNamed : DataDir.IsFileName other)
    (found : disk.find (DataDir.child root name) = .ok (.present place entry))
    (otherFound : disk.find (DataDir.child otherRoot other) = .ok (.present place otherEntry)) :
    name = other := by
  have last : place.getLast? = some name := find_child named found
  have otherLast : place.getLast? = some other := find_child otherNamed otherFound
  exact Option.some.inj (last.symm.trans otherLast)

end Disk

/-- The names of the files in a data directory are such names. -/
theorem DataDir.isFileName_files :
    IsFileName "settings.json".toList ∧ IsFileName "history.json".toList ∧
      IsFileName "cybercalc.log".toList := by
  refine ⟨⟨⟨?_, ?_, ?_⟩, ?_⟩, ⟨⟨?_, ?_, ?_⟩, ?_⟩, ⟨⟨?_, ?_, ?_⟩, ?_⟩⟩ <;> decide

end Reckoner
