import Reckoner.Launch.Log
import Reckoner.Proofs.Disk.Changes
import Reckoner.Proofs.Prompt.Effects

/-!
# What a session writes

A session on a data directory writes its settings with the theme of the moment, its history, and
copies of the history where it is told to (`Session.Keeps.submit`). All its life the settings are
those that it started with but for the theme, so each time the file is written the rest of them
goes into it.
-/

namespace Reckoner

/-- What may be written where on behalf of a session: to its files, and to the paths that its history
is exported to. -/
inductive DataDir.Writes (files : DataDir) (kept : Settings) (exported : List Text) :
    Text → Text → Prop where
  | settings (theme : Theme) :
      Writes files kept exported files.settings (Settings.fileText { kept with theme := theme })
  | history (content : Text) : Writes files kept exported files.history content
  | log (content : Text) : Writes files kept exported files.log content
  | copy {path : Text} (asked : path ∈ exported) (items : List HistoryItem) :
      Writes files kept exported path (History.exportText items)

namespace Session

/-- A session on a data directory with given settings but for the theme, whose history has no file
or that of the directory. -/
structure Keeps (places : DataDir) (kept : Settings) (session : Session) : Prop where
  files : session.files = some places
  settings : ∃ theme, session.settings = { kept with theme := theme }
  history : ∀ path, session.history.path = some path → path = places.history

section Keeps

variable {files : DataDir} {kept : Settings} {exported : List Text} {session after : Session}

theorem keeps_start (store : Store) (files : DataDir) (settings : Settings) :
    (start store files settings).Keeps files settings := by
  obtain ⟨theme, limit, persists⟩ := settings
  cases persists with
  | false => exact ⟨rfl, ⟨theme, rfl⟩, fun path asked => by cases asked⟩
  | true => exact ⟨rfl, ⟨theme, rfl⟩, fun path same => (Option.some.inj same).symm⟩

/-- Starting a session only reads. -/
theorem disk_start (store : Store) (files : DataDir) (settings : Settings) :
    (start store files settings).store.disk = store.disk := by
  obtain ⟨theme, limit, persists⟩ := settings
  cases persists with
  | false => rfl
  | true => exact History.readItems_disk store files.history

theorem Keeps.became (keeps : session.Keeps files kept) {history : History} {settings : Settings}
    {disk : Disk} (became : session.Became after history settings disk)
    (path : history.path = session.history.path)
    (theme : ∃ theme, settings = { kept with theme := theme }) : after.Keeps files kept where
  files := became.files.trans keeps.files
  settings := became.settings ▸ theme
  history := by
    rw [became.history, path]
    exact keeps.history

/-- Writing the history touches no file but its own. -/
theorem Keeps.evolves_save (keeps : session.Keeps files kept) (history : History)
    (path : history.path = session.history.path) (disk : Disk) :
    disk.Evolves (files.Writes kept exported) (history.save disk).1 := by
  rw [History.save]
  cases file : history.path with
  | none => exact .refl
  | some own =>
      obtain rfl := keeps.history own (path.symm.trans file)
      exact disk.evolves_save (.history _)

/-- Another theme is written with the settings that are kept. -/
theorem Keeps.evolves_themedDisk (keeps : session.Keeps files kept) (theme : Theme) :
    session.store.disk.Evolves (files.Writes kept exported) (session.themedDisk theme) := by
  obtain ⟨was, settings⟩ := keeps.settings
  rw [themedDisk, keeps.files]
  dsimp only
  rw [settings]
  exact Disk.evolves_save _ (.settings theme)

theorem Keeps.setTheme (keeps : session.Keeps files kept) (theme : Theme) :
    (session.setTheme theme).Keeps files kept ∧
      session.store.disk.Evolves (files.Writes kept exported)
        (session.setTheme theme).store.disk := by
  have became := session.became_setTheme theme
  obtain ⟨was, settings⟩ := keeps.settings
  refine ⟨keeps.became became rfl ⟨theme, by rw [settings]⟩, ?_⟩
  rw [became.disk]
  exact keeps.evolves_themedDisk theme

/-- **A line writes to the files of its session**, and to the path that it names if it asks for an
export. -/
theorem Keeps.submit (keeps : session.Keeps files kept) (now : Moment) {line : Text}
    (asked : ∀ path, Command.parse? line = some (.exportTo path) → path ∈ exported) :
    (session.submit now line).1.Keeps files kept ∧
      session.store.disk.Evolves (files.Writes kept exported)
        (session.submit now line).1.store.disk := by
  cases session.submit_answered now line with
  | kept effect became =>
      refine ⟨keeps.became became rfl keeps.settings, ?_⟩
      rw [became.disk]
      exact .refl
  | recorded expression result effect became =>
      refine ⟨keeps.became became rfl keeps.settings, ?_⟩
      rw [became.disk]
      exact keeps.evolves_save (session.history.record expression result now) rfl _
  | cleared effect became =>
      refine ⟨keeps.became became rfl keeps.settings, ?_⟩
      rw [became.disk]
      exact keeps.evolves_save { session.history with items := [] } rfl _
  | themed theme effect became =>
      obtain ⟨was, settings⟩ := keeps.settings
      refine ⟨keeps.became became rfl ⟨theme, by rw [settings]⟩, ?_⟩
      rw [became.disk]
      exact keeps.evolves_themedDisk theme
  | exported path named effect became =>
      refine ⟨keeps.became became rfl keeps.settings, ?_⟩
      rw [became.disk]
      cases wrote : session.store.disk.write path (History.exportText session.history.items) with
      | error fault => exact .refl
      | ok disk => exact Disk.evolves_change wrote (fun _ => .copy (asked path named) _)

end Keeps

end Session

/-! ## The log -/

/-- The log of a front end goes to its file, if it goes to any. -/
def Log.IsIn (files : DataDir) (log : Log) : Prop := ∀ path, log.target = .file path → path = files.log

section Log

variable {files : DataDir} {kept : Settings} {exported : List Text}

theorem Log.evolves_flush {log : Log} (own : log.IsIn files) (now : Moment) (store : Store) :
    store.disk.Evolves (files.Writes kept exported) (log.flush now store).1.disk := by
  rw [flush]
  cases target : log.target with
  | nowhere => exact .refl
  | messages => exact .refl
  | file path =>
      obtain rfl := own path target
      dsimp only
      cases appended : store.disk.append files.log (log.text now store.journal) with
      | error fault => exact .refl
      | ok disk => exact Disk.evolves_change appended (fun _ => .log _)

/-- Opening the log makes the data directory and touches no file but the log. -/
theorem Log.evolves_openFile (disk : Disk) (verbosity : Nat) :
    (openFile disk files.log verbosity).1.IsIn files ∧
      disk.Evolves (files.Writes kept exported) (openFile disk files.log verbosity).2 := by
  have parent : disk.Evolves (files.Writes kept exported) (disk.makeParent files.log).1 :=
    disk.evolves_makeParent files.log
  rw [openFile]
  generalize disk.makeParent files.log = making at parent
  obtain ⟨made, result⟩ := making
  dsimp only at parent ⊢
  cases appended : made.append files.log [] with
  | error fault => exact ⟨fun path other => (by cases other), parent⟩
  | ok begun =>
      refine ⟨fun path same => ?_, parent.trans (Disk.evolves_change appended fun _ => .log _)⟩
      cases same
      rfl

end Log

end Reckoner
