import RelayClient.Storage.Disk

/-!
# Where paths lead

What a path leads to depends on the directories alone. A file that is written,
moved or removed where no directory stands leaves all of them, so that each path
keeps its place.
-/

namespace RelayClient

namespace Disk

variable {disk other : Disk} {path : DiskPath} {location : List String} {content : Bytes}

/-- Two disks have the same directories. -/
structure SameDirectories (disk other : Disk) : Prop where
  start : other.start = disk.start
  directories : ∀ location, other.entryAt? location = some .directory ↔ disk.entryAt? location = some .directory

theorem SameDirectories.symm (same : SameDirectories disk other) : SameDirectories other disk where
  start := same.start.symm
  directories location := (same.directories location).symm

theorem SameDirectories.trans {first second third : Disk} (before : SameDirectories first second)
    (after : SameDirectories second third) : SameDirectories first third where
  start := after.start.trans before.start
  directories location := (after.directories location).trans (before.directories location)

theorem SameDirectories.enter (same : SameDirectories disk other) {name : String} {next : List String}
    (entered : disk.enter location name = .ok next) : other.enter location name = .ok next := by
  unfold Disk.enter at entered ⊢
  split
  · next here => rwa [if_pos here] at entered
  · next here =>
      rw [if_neg here] at entered
      split
      · next above => rwa [if_pos above] at entered
      · next above =>
          rw [if_neg above] at entered
          split
          · next long => rw [if_pos long] at entered; cases entered
          · next short =>
              rw [if_neg short] at entered
              cases found : disk.entryAt? (location ++ [name]) with
              | none => rw [found] at entered; cases entered
              | some entry =>
                  rw [found] at entered
                  cases entry with
                  | file content => cases entered
                  | directory => rw [(same.directories _).mpr found]; exact entered

theorem SameDirectories.walk (same : SameDirectories disk other) {names : List String} {reached : List String}
    (walked : disk.walk location names = .ok reached) : other.walk location names = .ok reached := by
  induction names generalizing location with
  | nil => exact walked
  | cons name rest ih =>
      rw [Disk.walk] at walked ⊢
      cases entered : disk.enter location name with
      | error problem => rw [entered] at walked; cases walked
      | ok next =>
          rw [entered] at walked
          rw [same.enter entered]
          exact ih walked

theorem SameDirectories.resolve (same : SameDirectories disk other) {target : DiskTarget}
    (resolved : disk.resolve path = .ok target) : other.resolve path = .ok target := by
  unfold Disk.resolve at resolved ⊢
  rw [same.start]
  dsimp only at resolved ⊢
  split
  · next broken => rw [if_pos broken] at resolved; cases resolved
  · next broken =>
      rw [if_neg broken] at resolved
      split
      · next empty => rw [if_pos empty] at resolved; cases resolved
      · next empty =>
          rw [if_neg empty] at resolved
          split
          · next long => rw [if_pos long] at resolved; cases resolved
          · next short =>
              rw [if_neg short] at resolved
              cases named : path.names.getLast? with
              | none => rw [named] at resolved; exact resolved
              | some last =>
                  rw [named] at resolved
                  dsimp only at resolved ⊢
                  generalize (if path.isRooted then [] else disk.start) = origin at resolved ⊢
                  cases walked : disk.walk origin path.names.dropLast with
                  | error problem => rw [walked] at resolved; cases resolved
                  | ok reached =>
                      rw [walked] at resolved
                      rw [same.walk walked]
                      exact resolved

/-- Where a file is given its place, the path leads there and no directory stands there. -/
theorem fileLocation_eq_ok_iff : disk.fileLocation path = .ok location ↔
    disk.resolve path = .ok ⟨location, .name false⟩ ∧ disk.entryAt? location ≠ some .directory := by
  unfold fileLocation
  cases resolved : disk.resolve path with
  | error problem => simp
  | ok target =>
      obtain ⟨reached, ending⟩ := target
      dsimp only
      split
      · next free =>
          simp only [Except.ok.injEq, DiskTarget.mk.injEq]
          constructor
          · rintro rfl
            exact ⟨⟨rfl, free.1⟩, free.2⟩
          · rintro ⟨⟨rfl, -⟩, -⟩
            rfl
      · next taken =>
          simp only [Except.ok.injEq, DiskTarget.mk.injEq, reduceCtorEq, false_iff]
          rintro ⟨⟨rfl, ends⟩, free⟩
          exact taken ⟨ends, free⟩

theorem SameDirectories.fileLocation (same : SameDirectories disk other)
    (found : disk.fileLocation path = .ok location) : other.fileLocation path = .ok location := by
  obtain ⟨resolved, free⟩ := fileLocation_eq_ok_iff.mp found
  exact fileLocation_eq_ok_iff.mpr ⟨same.resolve resolved, mt (same.directories location).mp free⟩

theorem isEmpty_of_free (free : disk.entryAt? location ≠ some .directory) : location.isEmpty = false := by
  cases empty : location.isEmpty with
  | false => rfl
  | true => rw [entryAt?, if_pos empty] at free; exact absurd rfl free

theorem entryAt?_put (solid : location.isEmpty = false) :
    (disk.put location (.file content)).entryAt? location = some (.file content) := by
  rw [entryAt?, solid, put]
  exact (Dictionary.get?_insert _ _ _ _).trans (if_pos rfl)

/-- A change where no directory stands, which puts none there, changes no directory. -/
theorem sameDirectories_of_get? (free : disk.entryAt? location ≠ some .directory) {entries : Dictionary DiskEntry}
    {entry : Option DiskEntry}
    (changed : ∀ name, entries.get? name = if name = key location then entry else disk.entries.get? name)
    (none : entry ≠ some .directory) :
    SameDirectories disk { disk with entries } where
  start := rfl
  directories place := by
    rw [entryAt?, isEmpty_of_free free] at free
    unfold entryAt?
    split
    · exact Iff.rfl
    · rw [changed]
      split
      · next same => rw [same]; exact ⟨fun found => absurd found none, fun found => absurd found free⟩
      · exact Iff.rfl

theorem sameDirectories_put (free : disk.entryAt? location ≠ some .directory) (content : Bytes) :
    SameDirectories disk (disk.put location (.file content)) :=
  sameDirectories_of_get? free (fun name => Dictionary.get?_insert _ _ name _) nofun

theorem sameDirectories_erase (free : disk.entryAt? location ≠ some .directory) :
    SameDirectories disk { disk with entries := disk.entries.erase (key location) } :=
  sameDirectories_of_get? free (fun name => Dictionary.get?_erase _ _ name) nofun

/-- A file that can be written stands where its path leads from then on, and nothing else changes. -/
theorem write_eq_ok_iff {after : Disk} : disk.write path content = .ok after ↔
    ∃ place, disk.fileLocation path = .ok place ∧ after = disk.put place (.file content) := by
  rw [write]
  cases disk.fileLocation path with
  | error problem => simp
  | ok place => simp [eq_comm]

/-- A file that is moved leaves its place and stands at the other from then on. -/
theorem rename_eq_ok_iff {after : Disk} {source target : DiskPath} (held : disk.read source = .ok content) :
    disk.rename source target = .ok after ↔ ∃ former place, disk.fileLocation source = .ok former ∧
      disk.fileLocation target = .ok place ∧
      after = { disk with entries := disk.entries.erase (key former) }.put place (.file content) := by
  rw [rename, held]
  cases disk.fileLocation source with
  | error problem => simp
  | ok former =>
      cases disk.fileLocation target with
      | error problem => simp
      | ok place => simp [eq_comm]

/-- What was put at the place of a file is read there. -/
theorem read_put (found : disk.fileLocation path = .ok location) (content : Bytes) :
    (disk.put location (.file content)).read path = .ok content := by
  obtain ⟨resolved, free⟩ := fileLocation_eq_ok_iff.mp found
  rw [read, (sameDirectories_put free content).resolve resolved]
  dsimp only
  rw [entryAt?_put (isEmpty_of_free free)]
  rfl

end Disk

end RelayClient
