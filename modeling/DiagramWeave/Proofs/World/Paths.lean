import DiagramWeave.Proofs.World.Files

/-!
# Paths as texts and as places

A path in normal form is what its text is read as. On a disk without links a path leads to one place at most, the one
that its names spell when double points are taken as text. Names that never lead above their start stay below it.
-/
namespace DiagramWeave

namespace Text

variable {mark : Char}

theorem splitOn_eq (mark : Char) (text : List Char) : splitOn mark text = List.splitOn mark text := by
  induction text with
  | nil => rfl
  | cons c rest ih =>
    rw [List.splitOn, List.splitOnP_cons_eq_if_modifyHead, splitOn, ih, ← List.splitOn]
    by_cases same : c = mark
    · simp [same]
    · have parts := List.splitOnP_ne_nil (· == mark) rest
      rw [← List.splitOn] at parts
      simp only [same, beq_iff_eq, if_false]
      cases split : List.splitOn mark rest with
      | nil => exact absurd split parts
      | cons part parts => rfl

theorem not_mem_of_mem_splitOn {text part : List Char} (member : part ∈ splitOn mark text) : mark ∉ part := by
  induction text generalizing part with
  | nil =>
    rw [splitOn, List.mem_singleton] at member
    rw [member]
    exact List.not_mem_nil
  | cons c rest ih =>
    rw [splitOn] at member
    by_cases same : c = mark
    · rw [if_pos same, List.mem_cons] at member
      rcases member with rfl | member
      · exact List.not_mem_nil
      · exact ih member
    · rw [if_neg same] at member
      split at member
      next first parts here =>
        rw [List.mem_cons] at member
        rcases member with rfl | member
        · -- Only the first part has become longer.
          have free : mark ∉ first := ih (by rw [here]; exact List.mem_cons_self)
          simp [Ne.symm same, free]
        · exact ih (by rw [here]; exact List.mem_cons_of_mem _ member)
      · rw [List.mem_singleton] at member
        simp [member, Ne.symm same]

theorem splitOn_of_not_mem {text : List Char} (free : mark ∉ text) : splitOn mark text = [text] := by
  induction text with
  | nil => rfl
  | cons c rest ih =>
    rw [List.mem_cons, not_or] at free
    rw [splitOn, if_neg (Ne.symm free.1), ih free.2]

theorem mem_intercalate {c : Char} (apart : c ≠ mark) (parts : List (List Char)) :
    c ∈ [mark].intercalate parts ↔ ∃ part ∈ parts, c ∈ part := by
  induction parts with
  | nil => simp
  | cons first parts ih =>
    cases parts with
    | nil => simp
    | cons second parts =>
      rw [List.intercalate_cons_cons]
      simp only [List.mem_append, ih, List.mem_singleton, apart, or_false]
      constructor
      · rintro (inside | ⟨part, member, inside⟩)
        · exact ⟨first, List.mem_cons_self, inside⟩
        · exact ⟨part, List.mem_cons_of_mem first member, inside⟩
      · rintro ⟨part, member, inside⟩
        rcases List.mem_cons.1 member with rfl | member
        · exact .inl inside
        · exact .inr ⟨part, member, inside⟩

/-- Every other character of a text stands in a part of it. -/
theorem mem_splitOn {c : Char} (apart : c ≠ mark) (text : List Char) :
    (∃ part ∈ splitOn mark text, c ∈ part) ↔ c ∈ text := by
  rw [← mem_intercalate apart, splitOn_eq, List.intercalate_splitOn]

end Text

namespace FilePath

variable {path : FilePath}

/-! ### Normal form -/

/-- Every name leads somewhere and is one name. -/
def Normal (path : FilePath) : Prop :=
  ∀ name ∈ path.names, leads name.toList = true ∧ '/' ∉ name.toList

theorem normal_ofText (text : String) : (ofText text).Normal := by
  intro name member
  simp only [ofText, List.mem_map, List.mem_filter] at member
  obtain ⟨part, ⟨member, goes⟩, rfl⟩ := member
  rw [String.toList_ofList]
  exact ⟨goes, Text.not_mem_of_mem_splitOn member⟩

theorem names_ofText_text (normal : path.Normal) (named : path.names ≠ []) :
    ((Text.splitOn '/' ("/".intercalate path.names).toList).filter leads).map String.ofList = path.names := by
  have free : ∀ part ∈ path.names.map String.toList, '/' ∉ part := by
    intro part member
    obtain ⟨name, named, rfl⟩ := List.mem_map.1 member
    exact (normal name named).2
  have kept : ∀ part ∈ path.names.map String.toList, leads part = true := by
    intro part member
    obtain ⟨name, named, rfl⟩ := List.mem_map.1 member
    exact (normal name named).1
  have split : List.splitOn '/' (['/'].intercalate (path.names.map String.toList)) = path.names.map String.toList :=
    List.splitOn_intercalate '/' free (by simpa using named)
  have marks : "/".toList = ['/'] := rfl
  rw [String.toList_intercalate, marks, Text.splitOn_eq, split, List.filter_eq_self.2 kept, List.map_map]
  simp [Function.comp_def]

/-- The text of the names does not start with a slash. -/
theorem head?_text (normal : path.Normal) (named : path.names ≠ []) :
    ∃ c rest, ("/".intercalate path.names).toList = c :: rest ∧ c ≠ '/' := by
  have marks : "/".toList = ['/'] := rfl
  obtain ⟨first, others, names⟩ := List.exists_cons_of_ne_nil named
  obtain ⟨goes, free⟩ := normal first (by rw [names]; exact List.mem_cons_self)
  obtain ⟨c, rest, letters⟩ : ∃ c rest, first.toList = c :: rest := by
    apply List.exists_cons_of_ne_nil
    intro empty
    rw [empty] at goes
    exact absurd goes (by decide)
  have slashless : c ≠ '/' := by
    rintro rfl
    exact free (by rw [letters]; exact List.mem_cons_self)
  rw [String.toList_intercalate, marks, names, List.map_cons, letters]
  cases others with
  | nil => exact ⟨c, rest, by simp, slashless⟩
  | cons second others => exact ⟨c, _, by rw [List.map_cons, List.intercalate_cons_cons]; rfl, slashless⟩

/-- A path in normal form is read back from its text. -/
theorem ofText_text (normal : path.Normal) : ofText path.text = path := by
  obtain ⟨root, names⟩ := path
  by_cases bare : names = []
  · subst bare
    cases root <;> rfl
  · have read := names_ofText_text normal bare
    obtain ⟨c, rest, shown, slashless⟩ := head?_text normal bare
    have letters : (text ⟨root, names⟩).toList = root.text.toList ++ c :: rest := by
      rw [text, if_neg (fun both => bare both.2), String.toList_append, shown]
    rw [ofText, letters]
    rw [shown] at read
    -- A slash of the root only makes an empty name in front, which is dropped.
    have dropped (text : List Char) : (Text.splitOn '/' ('/' :: text)).filter leads = (Text.splitOn '/' text).filter leads := by
      rw [Text.splitOn, if_pos rfl, List.filter_cons_of_neg (by decide)]
    cases root with
    | relative =>
      have front : PathRoot.relative.text.toList = [] := rfl
      have root : rootOf (c :: rest) = .relative := by simp [rootOf, slashless]
      rw [front, List.nil_append, root, read]
    | single =>
      have front : PathRoot.single.text.toList ++ c :: rest = '/' :: c :: rest := rfl
      have root : rootOf ('/' :: c :: rest) = .single := by simp [rootOf, slashless]
      rw [front, root, dropped, read]
    | double =>
      have front : PathRoot.double.text.toList ++ c :: rest = '/' :: '/' :: c :: rest := rfl
      have root : rootOf ('/' :: '/' :: c :: rest) = .double := by simp [rootOf, slashless]
      rw [front, root, dropped, dropped, read]

/-! ### Characters of paths -/

/-- Where names lead to from a place when double points are taken as text. -/
def resolve (start : Place) (names : List String) : Place :=
  names.foldl (fun names name => if name = ".." then names.dropLast else names ++ [name]) start

theorem resolve_append (start : Place) (names more : List String) :
    resolve start (names ++ more) = resolve (resolve start names) more :=
  List.foldl_append ..

theorem resolve_of_plain (start : Place) {names : List String} (plain : ".." ∉ names) :
    resolve start names = start ++ names := by
  induction names generalizing start with
  | nil => exact (List.append_nil start).symm
  | cons name names ih =>
    rw [List.mem_cons, not_or] at plain
    have next : resolve start (name :: names) = resolve (start ++ [name]) names := by
      simp [resolve, Ne.symm plain.1]
    rw [next, ih _ plain.2, List.append_assoc, List.singleton_append]

theorem plain_resolve {start : Place} (plain : ".." ∉ start) (names : List String) : ".." ∉ resolve start names := by
  induction names generalizing start with
  | nil => exact plain
  | cons name names ih =>
    by_cases up : name = ".."
    · have next : resolve start (name :: names) = resolve start.dropLast names := by simp [resolve, up]
      rw [next]
      exact ih fun member => plain (List.dropLast_subset start member)
    · have next : resolve start (name :: names) = resolve (start ++ [name]) names := by simp [resolve, up]
      rw [next]
      exact ih (by simp [plain, Ne.symm up])

/-- From a place this deep below the start, the names lead to a place below the start and never out of it. -/
def staysBelow : Nat → List String → Bool
  | depth, [] => 0 < depth
  | depth, name :: names =>
    if name = ".." then 0 < depth && staysBelow (depth - 1) names else staysBelow (depth + 1) names

/-- The place lies below the directory. -/
def Inside (directory place : Place) : Prop :=
  ∃ names, names ≠ [] ∧ place = directory ++ names

theorem inside_of_staysBelow (start : Place) {deeper : Place} {names : List String}
    (below : staysBelow deeper.length names = true) : Inside start (resolve (start ++ deeper) names) := by
  induction names generalizing deeper with
  | nil =>
    have some : 0 < deeper.length := by simpa [staysBelow] using below
    exact ⟨deeper, List.ne_nil_of_length_pos some, rfl⟩
  | cons name names ih =>
    by_cases up : name = ".."
    · simp only [staysBelow, up, if_true, Bool.and_eq_true, decide_eq_true_eq] at below
      obtain ⟨some, below⟩ := below
      have next : resolve (start ++ deeper) (name :: names) = resolve (start ++ deeper.dropLast) names := by
        simp [resolve, up, List.dropLast_append_of_ne_nil (List.ne_nil_of_length_pos some)]
      rw [next]
      exact ih (by rwa [List.length_dropLast])
    · simp only [staysBelow, up, if_false] at below
      have next : resolve (start ++ deeper) (name :: names) = resolve (start ++ (deeper ++ [name])) names := by
        simp [resolve, up]
      rw [next]
      exact ih (by rwa [List.length_append])

/-- The text, read as a path from a directory on, does not lead to a place below the directory, or leads out of it on
    the way. -/
def LeadsOut (text : String) : Prop :=
  (ofText text).isAbsolute = true ∨ staysBelow 0 (ofText text).names = false

theorem not_leadsOut_of_slashless {text : String} (slashless : '/' ∉ text.toList) (leads : leads text.toList = true)
    (forth : text ≠ "..") : ¬ LeadsOut text := by
  have root : rootOf text.toList = .relative := by
    cases letters : text.toList with
    | nil => rfl
    | cons c rest =>
      have other : c ≠ '/' := by
        rintro rfl
        exact slashless (by rw [letters]; exact List.mem_cons_self)
      simp [rootOf, other]
  have names : (ofText text).names = [text] := by
    simp [ofText, Text.splitOn_of_not_mem slashless, leads]
  rintro (absolute | climbs)
  · simp [isAbsolute, ofText, root] at absolute
  · rw [names] at climbs
    simp [staysBelow, forth] at climbs

end FilePath

/-- Where a path leads to when its double points are taken as text. -/
def World.placeOf (world : World) (path : FilePath) : Place :=
  FilePath.resolve (if path.isAbsolute then [] else world.home) path.names

theorem Disk.eq_resolve_of_walk {disk : Disk} {current place : Place} {names : List String}
    (walked : disk.walk current names = .ok place) : place = FilePath.resolve current names := by
  induction names generalizing current with
  | nil =>
    cases walked
    rfl
  | cons name names ih =>
    rw [walk] at walked
    split at walked
    · cases walked
    · cases walked
    · split at walked
      · cases walked
      · split at walked
        next up => simpa [FilePath.resolve, up] using ih walked
        next forth => simpa [FilePath.resolve, forth] using ih walked

/-- There is one place only that a path can lead to. -/
theorem World.eq_placeOf_of_locate {world : World} {disk : Disk} {path : FilePath} {place : Place}
    (located : disk.locate world.home path = .ok place) : place = world.placeOf path :=
  Disk.eq_resolve_of_walk (Disk.locate_eq_ok.1 located).2.2

namespace World

/-- The working directory is named as the system names it. -/
def Homed (world : World) : Prop :=
  world.homePath.Normal ∧ ".." ∉ world.home

theorem homed_still : still.Homed := by
  refine ⟨fun name member => ?_, by decide⟩
  obtain rfl : name = "home" := by simpa [still, homePath] using member
  decide

end World

end DiagramWeave
