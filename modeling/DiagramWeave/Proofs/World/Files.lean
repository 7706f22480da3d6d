import DiagramWeave.Proofs.World.Runs

/-!
# Files under changes of the disk

A file is written where no directory stands, so the directories on the way to any place are the same afterwards, and a
path leads to the place that it led to before. Directories that are made leave all files as they are.
-/
namespace DiagramWeave

namespace Disk

variable {disk next : Disk} {home place other : Place} {content : ByteArray} {path : FilePath}

def fileAt? (disk : Disk) (place : Place) : Option ByteArray :=
  (disk.files.find? fun entry => entry.1 = place).map Prod.snd

/-- The path leads to a place where no directory stands. -/
def Leads (disk : Disk) (home : Place) (path : FilePath) (place : Place) : Prop :=
  disk.locate home path = .ok place ∧ disk.at? place ≠ some .directory

theorem find?_setFile (disk : Disk) (place : Place) (content : ByteArray) (other : Place) :
    (disk.setFile place content).files.find? (fun entry => entry.1 = other) =
      if other = place then some (place, content) else disk.files.find? fun entry => entry.1 = other := by
  simp only [setFile, List.find?_append]
  by_cases same : other = place
  · subst same
    have gone : (disk.files.filter fun entry => entry.1 ≠ other).find? (fun entry => entry.1 = other) = none := by
      simp
    rw [gone]
    simp
  · have kept : (disk.files.filter fun entry => entry.1 ≠ place).find? (fun entry => entry.1 = other) =
        disk.files.find? fun entry => entry.1 = other := by
      rw [List.find?_filter]
      refine congrArg (disk.files.find? ·) (funext fun entry => ?_)
      by_cases here : entry.1 = other <;> simp [here, same]
    rw [kept, if_neg same]
    simp [Ne.symm same]

theorem fileAt?_setFile (disk : Disk) (place : Place) (content : ByteArray) (other : Place) :
    (disk.setFile place content).fileAt? other = if other = place then some content else disk.fileAt? other := by
  rw [fileAt?, find?_setFile]
  split <;> rfl

theorem at?_setFile (disk : Disk) (place : Place) (content : ByteArray) (other : Place) :
    (disk.setFile place content).at? other = if other = place then some (.file content) else disk.at? other := by
  rw [at?, find?_setFile]
  by_cases same : other = place
  · simp only [same, if_true]
  · simp only [same, if_false]
    rfl

theorem fileAt?_removeFile (disk : Disk) (place other : Place) :
    (disk.removeFile place).fileAt? other = if other = place then none else disk.fileAt? other := by
  rw [fileAt?, fileAt?, removeFile, List.find?_filter]
  by_cases same : other = place
  · simp [same]
  · rw [if_neg same]
    refine congrArg (Option.map Prod.snd) (congrArg (disk.files.find? ·) (funext fun entry => ?_))
    by_cases here : entry.1 = other <;> simp [here, same]

theorem walk_setFile (free : disk.at? place ≠ some .directory) (current : Place) (names : List String) :
    (disk.setFile place content).walk current names = .ok other ↔ disk.walk current names = .ok other := by
  induction names generalizing current with
  | nil => rfl
  | cons name names ih =>
    simp only [walk, at?_setFile]
    by_cases here : current = place
    · subst here
      -- No way leads through the place itself, before or after.
      simp only [if_true]
      cases stands : disk.at? current with
      | none => simp
      | some entry =>
        cases entry with
        | file _ => simp
        | directory => exact absurd stands free
    · simp only [here, if_false]
      cases disk.at? current with
      | none => simp
      | some entry =>
        cases entry with
        | file _ => simp
        | directory =>
          simp only
          split
          · simp
          · split
            · exact ih current.dropLast
            · exact ih (current ++ [name])

theorem locate_eq_ok : disk.locate home path = .ok place ↔
    path.text.toList.contains '\x00' = false ∧ path.text.utf8ByteSize < pathLimit ∧
      disk.walk (if path.isAbsolute then [] else home) path.names = .ok place := by
  simp only [locate]
  cases path.text.toList.contains '\x00' with
  | true => simp only [if_true, reduceCtorEq, Bool.true_eq_false, false_and]
  | false =>
    by_cases long : pathLimit ≤ path.text.utf8ByteSize
    · simp only [long, Nat.not_lt.2 long, Bool.false_eq_true, if_true, if_false, reduceCtorEq, false_and, and_false]
    · simp only [long, Nat.not_le.1 long, Bool.false_eq_true, if_false, true_and]
      cases disk.walk (if path.isAbsolute then [] else home) path.names <;> simp

theorem leads_setFile (free : disk.at? place ≠ some .directory) :
    (disk.setFile place content).Leads home path other ↔ disk.Leads home path other := by
  simp only [Leads, locate_eq_ok, walk_setFile free, at?_setFile]
  by_cases same : other = place
  · subst same
    simp [free]
  · simp [same]

theorem write_of_locate (located : disk.locate home path = .ok place) :
    disk.write home path content =
      match disk.at? place with
      | some .directory => .error (.refused .isDirectory path.text)
      | _ => .ok (disk.setFile place content) := by
  rw [write, located]
  rfl

theorem write_of_leads (content : ByteArray) (leads : disk.Leads home path place) :
    disk.write home path content = .ok (disk.setFile place content) := by
  rw [write_of_locate leads.1]
  split
  next directory => exact absurd directory leads.2
  · rfl

theorem exists_leads_of_write (written : disk.write home path content = .ok next) :
    ∃ place, disk.Leads home path place ∧ next = disk.setFile place content := by
  cases located : disk.locate home path with
  | error fault =>
    rw [write, located] at written
    cases written
  | ok place =>
    rw [write_of_locate located] at written
    split at written
    · cases written
    next free =>
      cases written
      exact ⟨place, ⟨located, free⟩, rfl⟩

/-- A file with this content stands at the path. -/
def Holds (disk : Disk) (home : Place) (path : FilePath) (content : ByteArray) : Prop :=
  ∃ place, disk.locate home path = .ok place ∧ disk.at? place = some (.file content)

theorem holds_setFile (leads : disk.Leads home path place) : (disk.setFile place content).Holds home path content := by
  obtain ⟨located, _⟩ := (leads_setFile leads.2).2 leads
  exact ⟨place, located, by rw [at?_setFile, if_pos rfl]⟩

theorem Holds.read_eq (holds : disk.Holds home path content) : disk.read home path = .ok content := by
  obtain ⟨place, located, stands⟩ := holds
  rw [read, located]
  simp only [bind, Except.bind, stands]
  rfl

theorem read_setFile (leads : disk.Leads home path place) :
    (disk.setFile place content).read home path = .ok content :=
  (holds_setFile leads).read_eq

/-! ### Paths that no system reads -/

theorem locate_eq_null (disk : Disk) (home : Place) : disk.locate home path = .error .nullCharacter ↔ '\x00' ∈ path.text.toList := by
  simp only [locate, List.contains_iff_mem]
  by_cases null : '\x00' ∈ path.text.toList
  · simp only [null, if_true]
  · simp only [null, if_false, iff_false]
    split
    · nofun
    · split <;> nofun

theorem write_eq_null : disk.write home path content = .error .nullCharacter ↔ '\x00' ∈ path.text.toList := by
  rw [← locate_eq_null disk home]
  cases located : disk.locate home path with
  | error fault => simp [write, located, bind, Except.bind]
  | ok place =>
    rw [write_of_locate located]
    split <;> simp

def setFiles (disk : Disk) (stored : List (Place × ByteArray)) : Disk :=
  stored.foldl (fun disk entry => disk.setFile entry.1 entry.2) disk

theorem setFiles_append (disk : Disk) (early late : List (Place × ByteArray)) :
    disk.setFiles (early ++ late) = (disk.setFiles early).setFiles late :=
  List.foldl_append ..

/-- What was last stored at a place. -/
def lastStored (stored : List (Place × ByteArray)) (place : Place) : Option ByteArray :=
  (stored.reverse.find? fun entry => entry.1 = place).map Prod.snd

theorem fileAt?_setFiles (disk : Disk) (stored : List (Place × ByteArray)) (place : Place) :
    (disk.setFiles stored).fileAt? place = (lastStored stored place).or (disk.fileAt? place) := by
  induction stored generalizing disk with
  | nil => rfl
  | cons entry stored ih =>
    have later := ih (disk.setFile entry.1 entry.2)
    rw [fileAt?_setFile] at later
    rw [lastStored, List.reverse_cons, List.find?_append, Option.map_or, Option.or_assoc]
    refine later.trans (congrArg (Option.or _) ?_)
    by_cases same : entry.1 = place
    · simp [same]
    · simp [same, Ne.symm same]

theorem leads_setFiles {stored : List (Place × ByteArray)}
    (free : ∀ entry ∈ stored, disk.at? entry.1 ≠ some .directory) :
    (disk.setFiles stored).Leads home path other ↔ disk.Leads home path other := by
  induction stored generalizing disk with
  | nil => rfl
  | cons entry stored ih =>
    have here := free entry List.mem_cons_self
    refine (ih fun later member => ?_).trans (leads_setFile here)
    rw [at?_setFile]
    split
    · nofun
    · exact free later (List.mem_cons_of_mem _ member)

/-! ### Disks with the same directories -/

theorem at?_eq_directory : disk.at? place = some .directory ↔
    disk.fileAt? place = none ∧ (place = [] ∨ place ∈ disk.directories) := by
  rw [at?, fileAt?]
  cases disk.files.find? fun entry => entry.1 = place with
  | some entry => simp
  | none => simp [Decidable.or_iff_not_imp_left]

theorem at?_eq_none : disk.at? place = none ↔
    disk.fileAt? place = none ∧ ¬ (place = [] ∨ place ∈ disk.directories) := by
  rw [at?, fileAt?]
  cases disk.files.find? fun entry => entry.1 = place <;> simp

/-- Directories stand at the same places. -/
def SameWays (one other : Disk) : Prop :=
  ∀ place, one.at? place = some .directory ↔ other.at? place = some .directory

theorem walk_of_sameWays (ways : disk.SameWays next) {current : Place} {names : List String}
    (walked : disk.walk current names = .ok place) : next.walk current names = .ok place := by
  induction names generalizing current with
  | nil => exact walked
  | cons name names ih =>
    rw [walk] at walked ⊢
    cases stands : disk.at? current with
    | none => rw [stands] at walked; cases walked
    | some entry =>
      cases entry with
      | file content => rw [stands] at walked; cases walked
      | directory =>
        rw [stands] at walked
        rw [(ways current).1 stands]
        simp only at walked ⊢
        split at walked
        · cases walked
        next short =>
          rw [if_neg short]
          split at walked
          next up => rw [if_pos up]; exact ih walked
          next forth => rw [if_neg forth]; exact ih walked

theorem locate_of_sameWays (ways : disk.SameWays next) (located : disk.locate home path = .ok place) :
    next.locate home path = .ok place := by
  obtain ⟨clean, short, walked⟩ := locate_eq_ok.1 located
  exact locate_eq_ok.2 ⟨clean, short, walk_of_sameWays ways walked⟩

theorem SameWays.symm {one other : Disk} (ways : one.SameWays other) : other.SameWays one :=
  fun place => (ways place).symm

/-! ### Directories -/

theorem files_makeDirectory (made : disk.makeDirectory home path = .ok next) : next.files = disk.files := by
  cases located : disk.locate home path with
  | error fault =>
    rw [makeDirectory, located] at made
    cases made
  | ok place =>
    rw [makeDirectory, located] at made
    simp only [bind, Except.bind] at made
    split at made
    · cases made
    · cases made
      rfl

theorem unlessDirectory_fst (disk : Disk) (home : Place) (path : FilePath) (fault : DiskFault) :
    (disk.unlessDirectory home path fault).1 = disk := by
  rw [unlessDirectory]
  split <;> rfl

theorem files_makeDirectories (disk : Disk) (home : Place) (path : FilePath) (steps : Nat) :
    (disk.makeDirectories home path steps).1.files = disk.files := by
  induction steps generalizing disk path with
  | zero => rfl
  | succ steps ih =>
    rw [makeDirectories]
    split
    next made => exact files_makeDirectory made
    · rfl
    · split
      · rfl
      · -- The directories on the way are made first.
        have before := ih disk path.parent
        split
        next way => rwa [way] at before
        next way =>
          rw [way] at before
          split
          next made => exact (files_makeDirectory made).trans before
          · exact before
          · rw [unlessDirectory_fst]
            exact before
    · rw [unlessDirectory_fst]

end Disk

namespace World

theorem writeFile_run (path : FilePath) (content : ByteArray) (world : World) :
    (writeFile path content).run world =
      match world.disk.write world.home path content with
      | .ok disk => (.ok (), { world with disk := disk })
      | .error fault => (.error fault, world) := by
  simp only [writeFile, run_bind, run_get]
  cases world.disk.write world.home path content <;> rfl

theorem textAt_run {world : World} {path : FilePath} {text : String}
    (holds : world.disk.read world.home path = .ok text.toUTF8) : (textAt path).run world = (text, world) := by
  have decoded : String.fromUTF8? text.toUTF8 = some text := dif_pos text.isValidUTF8
  simp only [textAt, readFile, run_bind, run_get, run_pure, holds, decoded, Option.getD_some]

end World

end DiagramWeave
