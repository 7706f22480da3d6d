import DiagramWeave.Proofs.Pipeline.Moments
import DiagramWeave.Proofs.Render.CommandSteps

/-!
# No temporary file is left behind in silence

The invariant looks at the files as they were before: every place holds what it held, or it was free and the temporary
file of a work stands there. The work is still using it, or it could not be deleted, and then the work has failed and
either its failure or the log says so. Steps of one work leave this to the other works, so that it holds however the
works interrupt each other.
-/
namespace DiagramWeave

namespace LocalRender

variable {command : List String} {config : Config} {base : World} {bench next : Bench Station} {block : Block}
  {calls : List ProcessCall} {records : List LogRecord} {place : Place}

/-- What the rendering of a block has come to at a station, if it is over. -/
def Station.came? : Station → Option (Except RenderCause Int)
  | .closing _ came | .ended came => some came
  | .waiting | .opened _ | .made _ _ | .written _ _ | .ran _ _ _ => none

/-- The failure is that of the deletion, or there is a warning. -/
def Told (records : List LogRecord) (input : FilePath) (text : String) (cause : RenderCause) : Prop :=
  cause = .temporaryFileStays input text ∨ warningOf input text ∈ records

/-- Why a work that has failed by `cause` leaves its file behind: the file could not be deleted, which is told, or the
    write into it broke off, and nobody tried to delete it. -/
inductive LeftBehind (base : World) (records : List LogRecord) (input : FilePath) : RenderCause → Prop
  | undeleted {text : String} {cause : RenderCause} : base.deleteFault = some text → Told records input text cause →
      LeftBehind base records input cause
  | unfilled {broken : BrokenWrite} : base.brokenWrite input = some broken →
      LeftBehind base records input (.noTemporaryFile broken.cause)

/-- A work uses a file, or has failed and left it behind. -/
def Leaves (base : World) (records : List LogRecord) (station : Station) (input : FilePath) : Prop :=
  station.input? = some input ∨ ∃ cause, station.came? = some (.error cause) ∧ LeftBehind base records input cause

/-- What the rendering of a block comes to: no file could be made for it at some time of the run, or the write into its
    file broke off, or what the end of the process means for the block unless only the deletion has failed. Where both
    have failed, there is a warning. -/
inductive Report (command : List String) (config : Config) (base : World) (calls : List ProcessCall)
    (records : List LogRecord) (block : Block) : Except RenderCause Int → Prop
  | noFile {now : World} {cause : RenderCause} : World.Steady base now →
      ((makeTemporary config.outputDir block).run now).1 = .error cause →
      Report command config base calls records block (.error cause)
  | unfilled {drawn : Nat} {input : FilePath} {broken : BrokenWrite} : input = temporaryPath base config block drawn →
      base.brokenWrite input = some broken →
      Report command config base calls records block (.error (.noTemporaryFile broken.cause))
  | ran {drawn : Nat} {source : String} {input : FilePath} {call : ProcessCall} (ended : Except RenderCause Int) :
      call ∈ calls → call = callWith command config block input source →
      input = temporaryPath base config block drawn → ended = verdict command config (base.runProcess call) →
      (∀ record ∈ warnings base.deleteFault input ended, record ∈ records) →
      Report command config base calls records block (tidied base.deleteFault input ended)

/-- What is known of a work at a station. -/
def Reports (command : List String) (config : Config) (base : World) (calls : List ProcessCall)
    (records : List LogRecord) (block : Block) : Station → Prop
  | .waiting | .opened _ | .made _ _ | .written _ _ => True
  | .ran _ input ended => ∃ call ∈ calls, ∃ drawn source, call = callWith command config block input source ∧
      input = temporaryPath base config block drawn ∧ ended = verdict command config (base.runProcess call)
  | .closing _ came => Report command config base calls records block came
  | .ended came => Report command config base calls records block came ∧
      ∃ start stop, recordOf config block start stop came ∈ records

theorem not_leaves {records : List LogRecord} {station : Station} {input : FilePath}
    (free : station.input? = none) (goesOn : station.came? = none) : ¬ Leaves base records station input := by
  rintro (held | ⟨_, failed, _⟩)
  · cases free.symm.trans held
  · cases goesOn.symm.trans failed

theorem Told.mono {records more : List LogRecord} {input : FilePath} {text : String} {cause : RenderCause}
    (told : Told records input text cause) : Told (records ++ more) input text cause :=
  told.imp_right (List.mem_append_left more)

theorem LeftBehind.mono {records more : List LogRecord} {input : FilePath} {cause : RenderCause}
    (left : LeftBehind base records input cause) : LeftBehind base (records ++ more) input cause := by
  cases left with
  | undeleted fault told => exact .undeleted fault told.mono
  | unfilled broken => exact .unfilled broken

theorem Leaves.mono {records more : List LogRecord} {station : Station} {input : FilePath}
    (leaves : Leaves base records station input) : Leaves base (records ++ more) station input :=
  leaves.imp_right fun ⟨cause, failed, left⟩ => ⟨cause, failed, left.mono⟩

theorem Report.mono {came : Except RenderCause Int} {laterCalls : List ProcessCall} {later : List LogRecord}
    (report : Report command config base calls records block came) :
    Report command config base (calls ++ laterCalls) (records ++ later) block came := by
  cases report with
  | noFile steady failed => exact .noFile steady failed
  | unfilled named broken => exact .unfilled named broken
  | ran ended called spelled named same warned =>
    exact .ran ended (List.mem_append_left _ called) spelled named same fun record member =>
      List.mem_append_left _ (warned record member)

theorem Reports.mono {station : Station} {laterCalls : List ProcessCall} {later : List LogRecord}
    (reports : Reports command config base calls records block station) :
    Reports command config base (calls ++ laterCalls) (records ++ later) block station := by
  cases station with
  | waiting | opened | made | written => trivial
  | ran start input ended =>
    obtain ⟨call, called, known⟩ := reports
    exact ⟨call, List.mem_append_left _ called, known⟩
  | closing start came => exact Report.mono reports
  | ended came =>
    obtain ⟨report, start, stop, noted⟩ := reports
    exact ⟨report.mono, start, stop, List.mem_append_left _ noted⟩

/-- The bench since `base`, with the processes that were started and the records that were noted. -/
structure Tended (command : List String) (config : Config) (base : World) (bench : Bench Station)
    (calls : List ProcessCall) (records : List LogRecord) : Prop where
  steady : World.Steady base bench.world
  directories : bench.world.disk.directories = base.disk.directories
  processes : bench.world.processes = base.processes ++ calls
  log : bench.world.log = base.log ++ records
  kept : ∀ place, bench.world.disk.fileAt? place = base.disk.fileAt? place ∨
    base.disk.at? place = none ∧ ∃ work ∈ bench.works, ∃ input,
      base.disk.locate base.home input = .ok place ∧ Leaves base records work.2 input
  fresh : ∀ work ∈ bench.works, ∀ input, work.2.input? = some input →
    ∀ place, base.disk.locate base.home input = .ok place → base.disk.at? place = none
  reports : ∀ work ∈ bench.works, Reports command config base calls records work.1 work.2

namespace Tended

theorem start (command : List String) (config : Config) (blocks : List Block) (base : World) :
    Tended command config base (Bench.start (craft command config) blocks base) [] [] where
  steady := .refl base
  directories := rfl
  processes := (List.append_nil _).symm
  log := (List.append_nil _).symm
  kept _ := .inl rfl
  fresh work member input held := by
    obtain ⟨block, _, rfl⟩ := List.mem_map.1 member
    cases held
  reports work member := by
    obtain ⟨block, _, rfl⟩ := List.mem_map.1 member
    trivial

/-- Paths lead to the places that they led to before. -/
theorem sameWays (tended : Tended command config base bench calls records) :
    base.disk.SameWays bench.world.disk := by
  intro place
  rw [Disk.at?_eq_directory, Disk.at?_eq_directory, tended.directories]
  rcases tended.kept place with same | ⟨free, _⟩
  · rw [same]
  · have nowhere := (Disk.at?_eq_none.1 free).2
    exact iff_of_false (fun stands => nowhere stands.2) fun stands => nowhere stands.2

/-- A place that is free now was free before. -/
theorem free_before (tended : Tended command config base bench calls records)
    (free : bench.world.disk.at? place = none) : base.disk.at? place = none := by
  obtain ⟨noFile, noDirectory⟩ := Disk.at?_eq_none.1 free
  rcases tended.kept place with same | ⟨free, _⟩
  · exact Disk.at?_eq_none.2 ⟨same ▸ noFile, tended.directories ▸ noDirectory⟩
  · exact free

theorem noted (tended : Tended command config base bench calls records) (message : String) :
    Tended command config base (bench.noted message) calls (records ++ [⟨.debug, message⟩]) where
  steady := tended.steady.trans (bench.noted_world message).steady
  directories := tended.directories
  processes := tended.processes
  log := by
    rw [← List.append_assoc, ← tended.log]
    rfl
  kept place := (tended.kept place).imp_right fun ⟨free, work, member, input, located, leaves⟩ =>
    ⟨free, work, member, input, located, leaves.mono⟩
  fresh := tended.fresh
  reports work member := List.append_nil calls ▸ (tended.reports work member).mono

/-- When one work has gone on, what has become of its own files is all there is to look at. -/
theorem goOn {number : Nat} {station later : Station} {after : World} {moreCalls : List ProcessCall}
    {moreRecords : List LogRecord} (tended : Tended command config base bench calls records)
    (here : bench.works[number]? = some (block, station)) (steady : World.Steady bench.world after)
    (directories : after.disk.directories = bench.world.disk.directories)
    (processes : after.processes = bench.world.processes ++ moreCalls)
    (log : after.log = bench.world.log ++ moreRecords)
    (changed : ∀ place, after.disk.fileAt? place = bench.world.disk.fileAt? place ∨
      after.disk.fileAt? place = base.disk.fileAt? place ∨
      base.disk.at? place = none ∧ ∃ input, base.disk.locate base.home input = .ok place ∧
        Leaves base (records ++ moreRecords) later input)
    (own : ∀ input place, Leaves base records station input → base.disk.locate base.home input = .ok place →
      Leaves base (records ++ moreRecords) later input ∨ after.disk.fileAt? place = base.disk.fileAt? place)
    (fresh : ∀ input, later.input? = some input →
      ∀ place, base.disk.locate base.home input = .ok place → base.disk.at? place = none)
    (reports : Reports command config base (calls ++ moreCalls) (records ++ moreRecords) block later) :
    Tended command config base ⟨bench.works.set number (block, later), after⟩ (calls ++ moreCalls)
      (records ++ moreRecords) := by
  obtain ⟨inside, found⟩ := List.getElem?_eq_some_iff.1 here
  have ownMember : (block, later) ∈ bench.works.set number (block, later) := List.mem_set inside _
  constructor
  case steady => exact tended.steady.trans steady
  case directories => exact directories.trans tended.directories
  case processes => rw [processes, tended.processes, List.append_assoc]
  case log => rw [log, tended.log, List.append_assoc]
  case kept =>
    intro place
    rcases changed place with same | same | ⟨free, input, located, leaves⟩
    · rcases tended.kept place with kept | ⟨free, work, member, input, located, leaves⟩
      · exact .inl (same.trans kept)
      · obtain ⟨other, there⟩ := List.getElem?_of_mem member
        by_cases equal : number = other
        · subst equal
          cases here.symm.trans there
          exact (own input place leaves located).elim
            (fun leaves => .inr ⟨free, _, ownMember, input, located, leaves⟩) .inl
        · -- The other works have their files as before.
          refine .inr ⟨free, work, ?_, input, located, leaves.mono⟩
          exact List.mem_of_getElem? (i := other) (by rw [List.getElem?_set, if_neg equal, there])
    · exact .inl same
    · exact .inr ⟨free, _, ownMember, input, located, leaves⟩
  case fresh =>
    intro work member
    rcases List.mem_or_eq_of_mem_set member with member | rfl
    · exact tended.fresh work member
    · exact fresh
  case reports =>
    intro work member
    rcases List.mem_or_eq_of_mem_set member with member | rfl
    · exact (tended.reports work member).mono
    · exact reports

/-- What a path leads to now is what it led to before. -/
theorem locate_before (tended : Tended command config base bench calls records) {input : FilePath}
    (located : bench.world.disk.locate bench.world.home input = .ok place) :
    base.disk.locate base.home input = .ok place :=
  Disk.locate_of_sameWays tended.sameWays.symm (tended.steady.home_eq ▸ located)

/-- When the file of a work has gone, all is as it was before. -/
theorem restored (tended : Tended command config base bench calls records) {station : Station}
    (listed : (block, station) ∈ bench.works) {input : FilePath} (held : station.input? = some input) {disk : Disk}
    (loses : bench.world.LosesAt input place disk) :
    disk.fileAt? place = bench.world.disk.fileAt? place ∨ disk.fileAt? place = base.disk.fileAt? place := by
  refine loses.imp_right fun ⟨located, gone⟩ => ?_
  have free := tended.fresh _ listed input held place (tended.locate_before located)
  exact gone.trans (Disk.at?_eq_none.1 free).1.symm

section

variable {number : Nat} {start : Float} {input : FilePath} {later : Station} {after : World}

/-- From a station at which it has no file, a work goes on to another one. -/
theorem goOn_without {station : Station} (tended : Tended command config base bench calls records)
    (here : bench.works[number]? = some (block, station)) (steady : World.Steady bench.world after)
    (disk : after.disk = bench.world.disk) (processes : after.processes = bench.world.processes)
    (log : after.log = bench.world.log) (free : station.input? = none) (goesOn : station.came? = none)
    (still : later.input? = none) (reports : Reports command config base calls records block later) :
    ∃ moreCalls moreRecords, Tended command config base ⟨bench.works.set number (block, later), after⟩
      (calls ++ moreCalls) (records ++ moreRecords) := by
  refine ⟨[], [], tended.goOn here steady (by rw [disk]) (by rw [processes, List.append_nil])
    (by rw [log, List.append_nil]) (fun place => .inl (by rw [disk]))
    (fun _ _ leaves => absurd leaves (not_leaves free goesOn)) ?_ reports.mono⟩
  intro input held
  cases still.symm.trans held

theorem goOn_opened (tended : Tended command config base bench calls records)
    (here : bench.works[number]? = some (block, .opened start))
    (changes : Changes command config block bench.world (.opened start) later after) :
    ∃ moreCalls moreRecords, Tended command config base ⟨bench.works.set number (block, later), after⟩
      (calls ++ moreCalls) (records ++ moreRecords) := by
  have steady := changes.steady
  cases changes with
  | makesNothing failed =>
    exact tended.goOn_without here steady rfl rfl rfl rfl rfl rfl (Report.noFile tended.steady failed)
  | makes made =>
    obtain ⟨target, located, free, rfl⟩ := made
    -- The file is made at a free place, and nothing stood there before the run either.
    have before := tended.locate_before located
    refine ⟨[], [], tended.goOn here steady rfl (List.append_nil _).symm (List.append_nil _).symm (fun place => ?_)
      (fun _ _ leaves => absurd leaves (not_leaves rfl rfl)) ?_ trivial⟩
    · rw [Disk.fileAt?_setFile]
      by_cases same : place = target
      · exact .inr (.inr ⟨same ▸ tended.free_before free, _, same ▸ before, .inl rfl⟩)
      · exact .inl (if_neg same)
    · rintro input held place led
      cases held
      cases before.symm.trans led
      exact tended.free_before free

/-- What happens to the file while it is filled happens where nothing stood before the run. -/
theorem free_of_diskFilled (tended : Tended command config base bench calls records) {station : Station}
    (listed : (block, station) ∈ bench.works) (held : station.input? = some input) (content : ByteArray)
    (place : Place) : (bench.world.diskFilled input content).fileAt? place = bench.world.disk.fileAt? place ∨
      base.disk.at? place = none ∧ base.disk.locate base.home input = .ok place := by
  refine (World.fileAt?_diskFilled bench.world input content place).imp_right fun located => ?_
  have before := tended.locate_before located
  exact ⟨tended.fresh _ listed input held place before, before⟩

theorem goOn_made (tended : Tended command config base bench calls records) (placed : Placed config base bench)
    (here : bench.works[number]? = some (block, .made start input))
    (changes : Changes command config block bench.world (.made start input) later after) :
    ∃ moreCalls moreRecords, Tended command config base ⟨bench.works.set number (block, later), after⟩
      (calls ++ moreCalls) (records ++ moreRecords) := by
  have listed := List.mem_of_getElem? here
  have steady := changes.steady
  obtain ⟨drawn, named⟩ := placed.named _ listed input rfl
  cases changes with
  | fills write =>
    refine ⟨[], [], tended.goOn here steady (World.directories_diskFilled ..) (List.append_nil _).symm
      (List.append_nil _).symm (fun place => ?_) (fun other place leaves located => .inl ?_) (tended.fresh _ listed)
      trivial⟩
    · exact (tended.free_of_diskFilled listed rfl _ place).imp_right fun ⟨free, located⟩ =>
        .inr ⟨free, input, located, .inl rfl⟩
    · exact .inl (leaves.resolve_right fun ⟨_, failed, _⟩ => nomatch failed)
  | @breaksOff _ _ broken write =>
    have breaks : base.brokenWrite input = some broken := (congrFun tended.steady.brokenWrite_eq input).symm.trans write
    -- From here on the file belongs to nobody.
    have leaves : Leaves base records (.closing start (.error (.noTemporaryFile broken.cause))) input :=
      .inr ⟨_, rfl, .unfilled breaks⟩
    refine ⟨[], [], tended.goOn here steady (World.directories_diskFilled ..) (List.append_nil _).symm
      (List.append_nil _).symm (fun place => ?_) (fun other place held located => .inl ?_) nofun
      (Report.unfilled named breaks)⟩
    · exact (tended.free_of_diskFilled listed rfl _ place).imp_right fun ⟨free, located⟩ =>
        .inr ⟨free, input, located, leaves.mono⟩
    · rcases held with held | ⟨_, failed, _⟩
      · cases held
        exact leaves.mono
      · cases failed

theorem goOn_written (tended : Tended command config base bench calls records) (placed : Placed config base bench)
    (here : bench.works[number]? = some (block, .written start input))
    (changes : Changes command config block bench.world (.written start input) later after) :
    ∃ moreCalls moreRecords, Tended command config base ⟨bench.works.set number (block, later), after⟩
      (calls ++ moreCalls) (records ++ moreRecords) := by
  have listed := List.mem_of_getElem? here
  have steady := changes.steady
  obtain ⟨drawn, named⟩ := placed.named _ listed input rfl
  cases changes with
  | @runs _ _ source message call spelled =>
    have reads : call.input = input := congrArg ProcessCall.input spelled
    refine ⟨[call], _, tended.goOn here steady (World.directories_diskAfter ..) rfl rfl (fun place => ?_)
      (fun other place leaves located => .inl ?_) (tended.fresh _ listed) ?_⟩
    · -- The process may have removed its input, and it touches no other file.
      have loses := bench.world.losesAt_diskAfter call (bench.world.runProcess call) place
      rw [reads] at loses
      exact (tended.restored listed rfl loses).imp_right .inl
    · exact .inl (leaves.resolve_right fun ⟨_, failed, _⟩ => nomatch failed)
    · refine ⟨call, List.mem_append_right _ (List.mem_singleton_self call), drawn, source, spelled, named, ?_⟩
      rw [tended.steady.runProcess_eq]

theorem leaves_tidied {text : String} (fault : base.deleteFault = some text) (start : Float) (input : FilePath)
    (came : Except RenderCause Int) :
    Leaves base (records ++ warnings base.deleteFault input came)
      (.closing start (tidied base.deleteFault input came)) input := by
  rw [fault]
  cases came with
  | ok code => exact .inr ⟨_, rfl, .undeleted fault (.inl rfl)⟩
  | error cause =>
    exact .inr ⟨cause, rfl, .undeleted fault (.inr (List.mem_append_right _ (List.mem_singleton_self _)))⟩

theorem goOn_ran {came : Except RenderCause Int} (tended : Tended command config base bench calls records)
    (here : bench.works[number]? = some (block, .ran start input came))
    (changes : Changes command config block bench.world (.ran start input came) later after) :
    ∃ moreCalls moreRecords, Tended command config base ⟨bench.works.set number (block, later), after⟩
      (calls ++ moreCalls) (records ++ moreRecords) := by
  have listed := List.mem_of_getElem? here
  have steady := changes.steady
  have fault := tended.steady.deleteFault_eq
  cases changes with
  | tidies =>
    refine ⟨[], _, tended.goOn here steady (World.directories_diskWithout ..) (List.append_nil _).symm rfl
      (fun place => ?_) (fun other place leaves located => ?_) nofun ?_⟩
    · exact (tended.restored listed rfl (bench.world.losesAt_diskWithout input place)).imp_right .inl
    · rcases leaves with held | ⟨_, failed, _⟩
      · cases held
        cases works : base.deleteFault with
        | none =>
          -- The file has gone, and there was none before.
          have now := Disk.locate_of_sameWays tended.sameWays (tended.steady.home_eq ▸ located)
          have gone := World.fileAt?_diskWithout (fault.trans works) now
          have free := tended.fresh _ listed input rfl place located
          exact .inr (gone.trans (Disk.at?_eq_none.1 free).1.symm)
        | some text =>
          -- The file stays, and it is told.
          rw [fault]
          exact .inl (leaves_tidied works start input came)
      · cases failed
    · obtain ⟨call, called, drawn, source, spelled, named, ended⟩ := tended.reports _ listed
      rw [fault, List.append_nil]
      exact .ran came called spelled named ended fun record member => List.mem_append_right _ member

theorem goOn_closing {came : Except RenderCause Int} (tended : Tended command config base bench calls records)
    (here : bench.works[number]? = some (block, .closing start came))
    (changes : Changes command config block bench.world (.closing start came) later after) :
    ∃ moreCalls moreRecords, Tended command config base ⟨bench.works.set number (block, later), after⟩
      (calls ++ moreCalls) (records ++ moreRecords) := by
  have report : Report command config base calls records block came := tended.reports _ (List.mem_of_getElem? here)
  have steady := changes.steady
  cases changes with
  | @closes _ stop =>
    refine ⟨[], [recordOf config block start stop came], tended.goOn here steady rfl (List.append_nil _).symm rfl
      (fun _ => .inl rfl) (fun input place leaves located => .inl leaves.mono) nofun ?_⟩
    exact ⟨report.mono, start, stop, List.mem_append_right _ (List.mem_singleton_self _)⟩

end

theorem moves (tended : Tended command config base bench calls records) (placed : Placed config base bench)
    (move : bench.Moves (craft command config) next) :
    ∃ moreCalls moreRecords, Tended command config base next (calls ++ moreCalls) (records ++ moreRecords) := by
  rcases changes_of_moves move with ⟨message, rfl⟩ | ⟨number, block, station, later, after, here, changes, rfl⟩
  · exact ⟨[], [⟨.debug, message⟩], (List.append_nil calls).symm ▸ tended.noted message⟩
  · cases station with
    | waiting =>
      have steady := changes.steady
      cases changes with
      | opens start => exact tended.goOn_without here steady rfl rfl rfl rfl rfl rfl trivial
    | opened start => exact tended.goOn_opened here changes
    | made start input => exact tended.goOn_made placed here changes
    | written start input => exact tended.goOn_written placed here changes
    | ran start input came => exact tended.goOn_ran here changes
    | closing start came => exact tended.goOn_closing here changes
    | ended came => cases changes

end Tended

theorem result?_eq_some {station : Station} {result : Except Failure String}
    (finished : (craft command config).result? block station = some result) :
    ∃ came, station = .ended came ∧ result = resultOf config block came := by
  cases station with
  | ended came =>
    cases finished
    exact ⟨came, rfl, rfl⟩
  | waiting | opened | made | written | ran | closing => cases finished

theorem eq_ok_of_resultOf {came : Except RenderCause Int} {locator : String}
    (fine : .ok locator = resultOf config block came) : ∃ code, came = .ok code := by
  cases came with
  | error cause => cases fine
  | ok code => exact ⟨code, rfl⟩

theorem eq_error_of_resultOf {came : Except RenderCause Int} {failure : Failure}
    (failed : .error failure = resultOf config block came) :
    ∃ cause, came = .error cause ∧ failure = .rendering ⟨some block.title, cause⟩ := by
  cases came with
  | error cause =>
    cases failed
    exact ⟨cause, rfl, rfl⟩
  | ok code => cases failed

/-- What a run has come to with each block, which is nothing where its work had not begun. -/
abbrev Outcomes := List (Block × Option (Except RenderCause Int))

def outcomes (bench : Bench Station) : Outcomes :=
  bench.works.map fun work => (work.1, work.2.came?)

/-- At the end a work is over or has not begun. -/
theorem eq_waiting_or_ended {failure : Option Failure} {work : Block × Station}
    (accounts : bench.Accounts (craft command config) failure) (listed : work ∈ bench.works) :
    work.2 = .waiting ∨ ∃ came, work.2 = .ended came := by
  refine (accounts.quiet work listed).imp_right fun finished => ?_
  obtain ⟨result, finished⟩ := Option.isSome_iff_exists.1 finished
  obtain ⟨came, ended, _⟩ := result?_eq_some finished
  exact ⟨came, ended⟩

theorem mem_outcomes {failure : Option Failure} (accounts : bench.Accounts (craft command config) failure)
    {outcome : Option (Except RenderCause Int)} (member : (block, outcome) ∈ outcomes bench) :
    ∃ station, (block, station) ∈ bench.works ∧
      (outcome = none ∧ station = .waiting ∨ ∃ came, outcome = some came ∧ station = .ended came) := by
  obtain ⟨⟨_, station⟩, listed, same⟩ := List.mem_map.1 member
  obtain ⟨rfl, rfl⟩ := Prod.mk.inj same
  refine ⟨station, listed, ?_⟩
  rcases eq_waiting_or_ended accounts listed with first | ⟨came, ended⟩
  · exact .inl ⟨congrArg Station.came? first, first⟩
  · exact .inr ⟨came, congrArg Station.came? ended, ended⟩

/-- What is known when a run has ended: the processes it has started, what it has noted, and what has come of each
    block. -/
structure Settles (config : Config) (blocks : List Block) (before after : World) (failure : Option Failure)
    (calls : List ProcessCall) (records : List LogRecord) (ends : Outcomes) : Prop where
  blocks : ends.map Prod.fst = blocks
  processes : after.processes = before.processes ++ calls
  log : after.log = before.log ++ records
  reports : ∀ block came, (block, some came) ∈ ends →
    Report (commandWords config) config before calls records block came ∧
      ∃ start stop, recordOf config block start stop came ∈ records
  /-- A file is left behind only by a block that has failed. -/
  files : ∀ place, after.disk.fileAt? place = before.disk.fileAt? place ∨
    before.disk.fileAt? place = none ∧ ∃ block input cause, (block, some (.error cause)) ∈ ends ∧
      after.disk.locate after.home input = .ok place ∧ LeftBehind before records input cause
  fine : failure = none → ∀ block outcome, (block, outcome) ∈ ends → ∃ code, outcome = some (.ok code)
  blamed : ∀ raised, failure = some raised →
    ((makeOutputDirectory config.outputDir).run before.ticked).1 = .error raised ∧
        (∀ block outcome, (block, outcome) ∈ ends → outcome = none) ∨
      ∃ block outcome, (block, outcome) ∈ ends ∧
        ((∃ cause, outcome = some (.error cause) ∧ raised = .rendering ⟨some block.title, cause⟩) ∨
          block.locator ≠ none ∧ raised = assignedTwice block)

section

variable {blocks : List Block} {before after : World} {failure : Option Failure}

theorem Report.of_prepared {came : Except RenderCause Int} (prepared : World.Prepared before base)
    (report : Report command config base calls records block came) :
    Report command config before calls records block came := by
  obtain ⟨_, _, _, rfl⟩ := prepared
  cases report with
  | noFile steady failed =>
    obtain ⟨_, _, _, _, _, _, rfl⟩ := steady
    exact .noFile ⟨_, _, _, _, _, _, rfl⟩ failed
  | unfilled named broken => exact .unfilled named broken
  | ran ended called spelled named same warned => exact .ran ended called spelled named same warned

theorem LeftBehind.of_prepared {input : FilePath} {cause : RenderCause} (prepared : World.Prepared before base)
    (left : LeftBehind base records input cause) : LeftBehind before records input cause := by
  obtain ⟨_, _, _, rfl⟩ := prepared
  cases left with
  | undeleted fault told => exact .undeleted fault told
  | unfilled broken => exact .unfilled broken

/-- The files at the end, when only works that are over have left any. -/
theorem Tended.files (tended : Tended command config base bench calls records)
    (accounts : bench.Accounts (craft command config) failure) (place : Place) :
    bench.world.disk.fileAt? place = base.disk.fileAt? place ∨
      base.disk.fileAt? place = none ∧ ∃ block input cause, (block, some (.error cause)) ∈ outcomes bench ∧
        bench.world.disk.locate bench.world.home input = .ok place ∧ LeftBehind base records input cause := by
  refine (tended.kept place).imp_right fun ⟨free, work, listed, input, located, leaves⟩ => ?_
  refine ⟨(Disk.at?_eq_none.1 free).1, ?_⟩
  rcases leaves with held | ⟨cause, failed, left⟩
  · -- A work that is over or has not begun uses no file.
    rcases eq_waiting_or_ended accounts listed with first | ⟨came, ended⟩
    · rw [first] at held
      cases held
    · rw [ended] at held
      cases held
  · have now := Disk.locate_of_sameWays tended.sameWays located
    rw [← tended.steady.home_eq] at now
    exact ⟨work.1, input, cause, List.mem_map.2 ⟨work, listed, by rw [failed]⟩, now, left⟩

theorem Tended.settles {directories : List Place} (tended : Tended (commandWords config) config base bench calls records)
    (same : bench.works.map Prod.fst = blocks) (accounts : bench.Accounts (craft (commandWords config) config) failure)
    (made : base = { before.ticked with disk := ⟨before.disk.files, directories⟩ })
    (noted : World.Noted bench.world after) :
    ∃ more, Settles config blocks before after failure calls (records ++ more) (outcomes bench) := by
  obtain ⟨readings, more, rfl⟩ := noted
  have prepared : World.Prepared before base := ⟨directories, before.readings + 1, before.log, made⟩
  refine ⟨more, ?_⟩
  constructor
  case blocks =>
    rw [← same, outcomes, List.map_map]
    rfl
  case processes =>
    rw [show before.processes = base.processes by rw [made]; rfl]
    exact tended.processes
  case log => rw [show before.log = base.log by rw [made]; rfl, ← List.append_assoc, ← tended.log]
  case reports =>
    intro block came member
    obtain ⟨station, listed, ⟨none, _⟩ | ⟨_, some, rfl⟩⟩ := mem_outcomes accounts member
    · cases none
    · cases some
      obtain ⟨report, start, stop, noted⟩ := tended.reports _ listed
      have kept : Report (commandWords config) config before (calls ++ []) (records ++ more) block came :=
        (report.of_prepared prepared).mono
      rw [List.append_nil] at kept
      exact ⟨kept, start, stop, List.mem_append_left more noted⟩
  case files =>
    intro place
    have files := tended.files accounts place
    rw [show base.disk.fileAt? place = before.disk.fileAt? place by rw [made]; rfl] at files
    exact files.imp_right fun ⟨free, block, input, cause, member, located, left⟩ =>
      ⟨free, block, input, cause, member, located, (left.of_prepared prepared).mono⟩
  case fine =>
    -- Where nothing has failed, every work is over and has a locator.
    intro none block outcome member
    obtain ⟨station, listed, settled⟩ := mem_outcomes accounts member
    obtain ⟨locator, finished⟩ := accounts.fine none _ listed
    obtain ⟨came, ended, fine⟩ := result?_eq_some finished
    obtain ⟨code, rfl⟩ := eq_ok_of_resultOf fine
    rcases settled with ⟨_, first⟩ | ⟨_, rfl, last⟩
    · cases first.symm.trans ended
    · cases last.symm.trans ended
      exact ⟨code, rfl⟩
  case blamed =>
    intro raised failed
    obtain ⟨work, listed, blamed⟩ := accounts.blamed raised failed
    refine .inr ⟨work.1, work.2.came?, List.mem_map_of_mem listed, blamed.imp (fun finished => ?_) id⟩
    obtain ⟨came, ended, failed⟩ := result?_eq_some finished
    obtain ⟨cause, rfl, named⟩ := eq_error_of_resultOf failed
    exact ⟨cause, by rw [ended]; rfl, named⟩

end

end LocalRender

open LocalRender (Outcomes Settles)

variable {config : Config} {client : HttpClient} {blocks : List Block} {world after : World}
  {progress : Progress Failure}

end DiagramWeave
