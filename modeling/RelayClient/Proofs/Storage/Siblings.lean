import RelayClient.Proofs.Storage.Paths
import RelayClient.Storage.FileStore

/-!
# Where siblings lie

The sibling that a change is written to first lies in the directory of its file. It has a name of its
own, unless the name of the file has the extension of siblings already: such a file is its own sibling.
What is written to a sibling with its own name is not seen at the path of the file.
-/

namespace RelayClient

namespace DiskPath

variable {path : DiskPath} {before : List String} {name : String}

/-- A path ends in a name that leads to an entry of its own. -/
structure EndsIn (path : DiskPath) (before : List String) (name : String) : Prop where
  segments : path.segments = before ++ [name]
  solid : isPlace name = false
  below : name ≠ ".."

/-- The name that a path ends in has the extension of siblings. -/
def HasTemporaryName (path : DiskPath) : Prop :=
  ∃ stem, stem ≠ "" ∧ path.segments.getLast? = some (stem ++ ".tmp")

theorem isRooted_eq (segments : List String) :
    isRooted ⟨segments⟩ = (segments.head? == some "" && 1 < segments.length) := by
  unfold isRooted
  split
  · next same => cases same; rfl
  · next other =>
      rcases segments with _ | ⟨first, _ | ⟨second, rest⟩⟩
      · rfl
      · simp
      · have solid : first ≠ "" := by
          rintro rfl
          exact other second rest rfl
        simp [solid]

/-- Where a path starts does not depend on the name it ends in. -/
theorem isRooted_concat (before : List String) (name other : String) :
    isRooted ⟨before ++ [name]⟩ = isRooted ⟨before ++ [other]⟩ := by
  rw [isRooted_eq, isRooted_eq]
  cases before <;> simp

theorem EndsIn.ne_empty (ends : path.EndsIn before name) : name ≠ "" := by
  rintro rfl
  exact absurd ends.solid (by decide)

theorem EndsIn.names (ends : path.EndsIn before name) : path.names = before.filter (· != "") ++ [name] := by
  have kept : (name != "") = true := bne_iff_ne.mpr ends.ne_empty
  rw [DiskPath.names, ends.segments, List.filter_append, List.filter_cons_of_pos (p := (· != "")) kept, List.filter_nil]

theorem EndsIn.hasTemporaryName_iff (ends : path.EndsIn before name) :
    path.HasTemporaryName ↔ ∃ stem, stem ≠ "" ∧ name = stem ++ ".tmp" := by
  rw [HasTemporaryName, ends.segments, List.getLast?_concat]
  simp only [Option.some.injEq]

theorem EndsIn.withExtension (ends : path.EndsIn before name) (extension : String) :
    path.withExtension extension = ⟨before ++ [renamed name extension true]⟩ := by
  have last : (path.segments.getLast? == some name) = true := by
    rw [ends.segments, List.getLast?_concat, beq_self_eq_true]
  have stays : path.segments.reverse.dropWhile isPlace = name :: before.reverse := by
    rw [ends.segments, List.reverse_concat]
    exact List.dropWhile_cons_of_neg (by rw [ends.solid]; exact Bool.false_ne_true)
  rw [DiskPath.withExtension, stays]
  dsimp only
  rw [if_neg ends.below, last, List.reverse_cons, List.reverse_reverse]

theorem exists_endsIn {last : String} (found : path.names.getLast? = some last) (closed : path.endsOpen = false)
    (solid : isPlace last = false) (below : last ≠ "..") : ∃ before, path.EndsIn before last := by
  obtain ⟨segments⟩ := path
  rcases List.eq_nil_or_concat segments with rfl | ⟨before, final, same⟩
  · cases found
  rw [List.concat_eq_append] at same
  subst same
  by_cases empty : final = ""
  · -- Only the empty path could end so without asking for a directory, and that has no names.
    subst empty
    rw [endsOpen, List.getLast?_concat, beq_self_eq_true, Bool.and_true] at closed
    cases before with
    | nil => cases found
    | cons first rest => simp at closed
  · have kept : (final != "") = true := bne_iff_ne.mpr empty
    rw [DiskPath.names, List.filter_append, List.filter_cons_of_pos (p := (· != "")) kept, List.filter_nil,
      List.getLast?_concat] at found
    cases found
    exact ⟨before, rfl, solid, below⟩

/-- A name that is divided is its parts with the point between them. -/
theorem divide?_eq_some {stem extension : String} (divided : divide? name = some (stem, extension)) :
    stem ≠ "" ∧ name = stem ++ "." ++ extension := by
  have parts := List.takeWhile_append_dropWhile (p := (· != '.')) (l := name.toList.reverse)
  unfold divide? at divided
  dsimp only at divided
  cases cut : name.toList.reverse.dropWhile (· != '.') with
  | nil => rw [cut] at divided; cases divided
  | cons point before =>
      have dot : point = '.' := by
        have found := List.head_dropWhile_not (· != '.') (l := name.toList.reverse) (by rw [cut]; exact List.cons_ne_nil _ _)
        simp only [cut, List.head_cons] at found
        exact Decidable.not_not.mp (mt bne_iff_ne.mpr (by rw [found]; exact Bool.false_ne_true))
      subst dot
      rw [cut] at divided parts
      rw [List.drop_succ_cons, List.drop_zero] at divided
      split at divided
      · cases divided
      · next some =>
          cases divided
          have whole := congrArg List.reverse parts
          rw [List.reverse_append, List.reverse_reverse, List.reverse_cons] at whole
          constructor
          · rintro empty
            exact some (List.isEmpty_iff.mpr (List.reverse_eq_nil_iff.mp (String.ofList_eq_empty_iff.mp empty)))
          · refine String.toList_injective ?_
            rw [String.toList_append, String.toList_append, String.toList_ofList, String.toList_ofList,
              String.toList_ofList]
            exact whole.symm

theorem divide?_append {stem : String} (some : stem ≠ "") : divide? (stem ++ ".tmp") = .some (stem, "tmp") := by
  have back : (stem ++ ".tmp").toList.reverse = 'p' :: 'm' :: 't' :: '.' :: stem.toList.reverse := by
    rw [String.toList_append, List.reverse_append]
    rfl
  have letters : stem.toList.reverse.isEmpty = false := by simpa using some
  have before : (('p' :: 'm' :: 't' :: '.' :: stem.toList.reverse).dropWhile (· != '.')).drop 1 = stem.toList.reverse :=
    rfl
  have behind : ('p' :: 'm' :: 't' :: '.' :: stem.toList.reverse).takeWhile (· != '.') = ['p', 'm', 't'] := rfl
  unfold divide?
  rw [back]
  dsimp only
  rw [before, behind, letters, List.reverse_reverse, String.ofList_toList]
  rfl

/-- Whether a name has the extension of siblings is seen where it is divided. -/
theorem hasTemporaryName_iff : path.HasTemporaryName ↔ (path.segments.getLast?.bind divide?).map (·.2) = some "tmp" := by
  rw [HasTemporaryName]
  cases path.segments.getLast? with
  | none => simp
  | some last =>
      rw [Option.bind_some]
      constructor
      · rintro ⟨stem, some, same⟩
        cases same
        rw [divide?_append some, Option.map_some]
      · intro found
        obtain ⟨⟨stem, extension⟩, divided, rfl⟩ := Option.map_eq_some_iff.mp found
        obtain ⟨some, rfl⟩ := divide?_eq_some divided
        exact ⟨stem, some, by rw [String.append_assoc]; rfl⟩

instance : Decidable path.HasTemporaryName :=
  decidable_of_iff' _ hasTemporaryName_iff

/-- The name of the sibling is the name itself just where that has the extension of siblings. -/
theorem renamed_eq_self_iff (beside : renamed name "tmp" true ≠ "..") :
    renamed name "tmp" true = name ↔ ∃ stem, stem ≠ "" ∧ name = stem ++ ".tmp" := by
  unfold renamed at beside ⊢
  constructor
  · intro same
    cases divided : divide? name with
    | none =>
        rw [divided] at same
        have longer := congrArg (fun text => text.toList.length) same
        simp at longer
    | some parts =>
        obtain ⟨stem, old⟩ := parts
        obtain ⟨some, whole⟩ := divide?_eq_some divided
        rw [divided] at same beside
        dsimp only at same beside
        split at same
        · next cut => rw [if_pos cut] at beside; exact absurd rfl beside
        · refine ⟨stem, some, ?_⟩
          rw [← same, String.append_assoc]
          rfl
  · rintro ⟨stem, some, rfl⟩
    rw [divide?_append some] at beside ⊢
    dsimp only at beside ⊢
    split
    · next cut => rw [if_pos cut] at beside; exact absurd rfl beside
    · rw [String.append_assoc]
      rfl

end DiskPath

namespace Disk

variable {disk : Disk} {path : DiskPath} {before directory place : List String} {name other : String}

/-- Where a path starts to be followed. -/
def origin (disk : Disk) (path : DiskPath) : List String :=
  if path.isRooted then [] else disk.start

theorem finish_eq_name {location : List String} {directoryOnly closed : Bool}
    (finished : finish location name directoryOnly = .ok ⟨place, .name closed⟩) :
    name ≠ "." ∧ name ≠ ".." ∧ place = location ++ [name] ∧ closed = directoryOnly := by
  unfold finish at finished
  split at finished
  · cases finished
  split at finished
  · cases finished
  split at finished
  · cases finished
  · next here above _ =>
      cases finished
      exact ⟨here, above, rfl, rfl⟩

/-- A path that leads to a name is followed to the directory of that name. -/
theorem resolve_eq_name {closed : Bool} (resolved : disk.resolve path = .ok ⟨place, .name closed⟩) :
    ∃ last directory, path.names.getLast? = some last ∧ disk.walk (disk.origin path) path.names.dropLast = .ok directory ∧
      finish directory last path.endsOpen = .ok ⟨place, .name closed⟩ := by
  unfold resolve at resolved
  split at resolved
  · cases resolved
  split at resolved
  · cases resolved
  split at resolved
  · cases resolved
  · dsimp only at resolved
    split at resolved
    · cases resolved
    · next last named =>
        split at resolved
        · cases resolved
        · next directory walked => exact ⟨last, directory, named, walked, resolved⟩

theorem exists_endsIn_of_fileLocation (found : disk.fileLocation path = .ok place) :
    ∃ before name, path.EndsIn before name := by
  obtain ⟨last, directory, named, -, finished⟩ := resolve_eq_name (fileLocation_eq_ok_iff.mp found).1
  obtain ⟨here, above, -, closed⟩ := finish_eq_name finished
  have some : last ≠ "" := bne_iff_ne.mp (List.mem_filter.mp (List.mem_of_getLast? named)).2
  have solid : DiskPath.isPlace last = false := by
    rw [DiskPath.isPlace, beq_eq_false_iff_ne.mpr some, beq_eq_false_iff_ne.mpr here, Bool.false_or]
  obtain ⟨before, ends⟩ := DiskPath.exists_endsIn named closed.symm solid above
  exact ⟨before, last, ends⟩

/-- The file of a path lies in the directory that the path names before it. -/
theorem directory_of_fileLocation (ends : path.EndsIn before name) (found : disk.fileLocation path = .ok place) :
    ∃ directory, disk.walk (disk.origin path) (before.filter (· != "")) = .ok directory ∧ place = directory ++ [name] := by
  obtain ⟨last, directory, named, walked, finished⟩ := resolve_eq_name (fileLocation_eq_ok_iff.mp found).1
  obtain ⟨-, -, lies, -⟩ := finish_eq_name finished
  rw [ends.names, List.getLast?_concat] at named
  cases named
  rw [ends.names, List.dropLast_concat] at walked
  exact ⟨directory, walked, lies⟩

/-- Past the directory of its name, where a path leads is a matter of its spelling. -/
theorem resolve_of_walk (ends : path.EndsIn before name)
    (walked : disk.walk (disk.origin path) (before.filter (· != "")) = .ok directory) :
    disk.resolve path =
      if path.text.toList.contains '\x00' then .error .nameBroken
      else if path.text.isEmpty then .error .notFound
      else if pathLimit < path.text.utf8ByteSize then .error .refused
      else finish directory name path.endsOpen := by
  have named : path.names.getLast? = some name := by rw [ends.names, List.getLast?_concat]
  have followed : disk.walk (if path.isRooted then [] else disk.start) path.names.dropLast = .ok directory := by
    rw [ends.names, List.dropLast_concat]
    exact walked
  rw [resolve, named]
  dsimp only
  rw [followed]

/-- A path that ends in a name leads to that name if it leads anywhere. -/
theorem location_of_walk (ends : path.EndsIn before name)
    (walked : disk.walk (disk.origin path) (before.filter (· != "")) = .ok directory) {target : DiskTarget}
    (resolved : disk.resolve path = .ok target) : target.location = directory ++ [name] := by
  obtain ⟨-, here⟩ := Bool.or_eq_false_iff.mp ends.solid
  rw [resolve_of_walk ends walked] at resolved
  split at resolved
  · cases resolved
  split at resolved
  · cases resolved
  split at resolved
  · cases resolved
  rw [finish, if_neg (beq_eq_false_iff_ne.mp here), if_neg ends.below] at resolved
  split at resolved
  · cases resolved
  · cases resolved
    rfl

theorem key_concat_inj : key (directory ++ [name]) = key (directory ++ [other]) ↔ name = other := by
  refine ⟨fun same => ?_, fun same => by rw [same]⟩
  unfold key at same
  induction directory with
  | nil => simpa using same
  | cons first rest ih =>
      refine ih ?_
      cases rest <;> simp_all [String.intercalate_cons_cons]

theorem entryAt?_put_concat {entry : DiskEntry} (distinct : name ≠ other) :
    (disk.put (directory ++ [other]) entry).entryAt? (directory ++ [name]) = disk.entryAt? (directory ++ [name]) := by
  have apart : key (directory ++ [name]) ≠ key (directory ++ [other]) := mt key_concat_inj.mp distinct
  unfold entryAt?
  split
  · rfl
  · exact (Dictionary.get?_insert _ _ _ _).trans (if_neg apart)

/-- What is read at a path does not change when another file of its directory is written. -/
theorem read_put_concat {content : Bytes} (ends : path.EndsIn before name)
    (walked : disk.walk (disk.origin path) (before.filter (· != "")) = .ok directory) (distinct : name ≠ other)
    (free : disk.entryAt? (directory ++ [other]) ≠ some .directory) :
    (disk.put (directory ++ [other]) (.file content)).read path = disk.read path := by
  have walkedAfter := (sameDirectories_put free content).walk walked
  have resolved : (disk.put (directory ++ [other]) (.file content)).resolve path = disk.resolve path :=
    (resolve_of_walk ends walkedAfter).trans (resolve_of_walk ends walked).symm
  rw [read, read, resolved]
  cases found : disk.resolve path with
  | error problem => rfl
  | ok target =>
      dsimp only
      rw [location_of_walk ends walked found, entryAt?_put_concat distinct]

end Disk

namespace FileStore

variable {disk left : Disk} {path : DiskPath} {before place aside : List String} {name : String} {written : Bytes}

/-- The sibling of a file lies in the same directory, under a name of its own. -/
theorem directory_of_temporary (ends : path.EndsIn before name) (found : disk.fileLocation (temporary path) = .ok aside) :
    ∃ directory, disk.walk (disk.origin path) (before.filter (· != "")) = .ok directory ∧
      aside = directory ++ [DiskPath.renamed name "tmp" true] ∧ DiskPath.renamed name "tmp" true ≠ ".." := by
  obtain ⟨beforeSibling, last, sibling⟩ := Disk.exists_endsIn_of_fileLocation found
  have spelled : temporary path = ⟨before ++ [DiskPath.renamed name "tmp" true]⟩ := ends.withExtension "tmp"
  have segments := sibling.segments
  rw [spelled] at segments
  obtain ⟨rfl, same⟩ := List.append_inj' segments rfl
  cases same
  obtain ⟨directory, walked, lies⟩ := Disk.directory_of_fileLocation sibling found
  refine ⟨directory, ?_, lies, sibling.below⟩
  have rooted : (temporary path).isRooted = path.isRooted := by
    obtain ⟨segments⟩ := path
    rw [spelled, show segments = before ++ [name] from ends.segments]
    exact DiskPath.isRooted_concat _ _ _
  rwa [Disk.origin, rooted] at walked

/-- What is written to a sibling with a name of its own is not seen at the path. -/
theorem read_of_write_temporary (ends : path.EndsIn before name) (distinct : ¬ path.HasTemporaryName)
    (wrote : disk.write (temporary path) written = .ok left) : left.read path = disk.read path := by
  obtain ⟨aside, found, rfl⟩ := Disk.write_eq_ok_iff.mp wrote
  obtain ⟨directory, walked, rfl, beside⟩ := directory_of_temporary ends found
  have apart : name ≠ DiskPath.renamed name "tmp" true := fun same =>
    distinct (ends.hasTemporaryName_iff.mpr ((DiskPath.renamed_eq_self_iff beside).mp same.symm))
  exact Disk.read_put_concat ends walked apart (Disk.fileLocation_eq_ok_iff.mp found).2

/-- What is written to the sibling of a file that is its own sibling is what the path holds. -/
theorem read_of_write_own (own : path.HasTemporaryName) (file : disk.fileLocation path = .ok place)
    (wrote : disk.write (temporary path) written = .ok left) : left.read path = .ok written := by
  obtain ⟨before, name, ends⟩ := Disk.exists_endsIn_of_fileLocation file
  obtain ⟨aside, sibling, -⟩ := Disk.write_eq_ok_iff.mp wrote
  obtain ⟨directory, -, -, beside⟩ := directory_of_temporary ends sibling
  have same := (DiskPath.renamed_eq_self_iff beside).mpr (ends.hasTemporaryName_iff.mp own)
  have spelled : temporary path = path := by
    obtain ⟨segments⟩ := path
    rw [temporary, ends.withExtension, same, show segments = before ++ [name] from ends.segments]
  rw [spelled] at wrote
  obtain ⟨_, found, rfl⟩ := Disk.write_eq_ok_iff.mp wrote
  exact Disk.read_put found written

end FileStore

end RelayClient
