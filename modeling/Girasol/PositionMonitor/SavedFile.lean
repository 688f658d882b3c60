import Girasol.Foundation.TempFile
import Girasol.Foundation.Text
import Girasol.PositionMonitor.Persistence

/-!
# positions.json on the disk

`save_positions_to_file` writes `positions.json.tmp` and renames it.  The saves of
`persist` run under the read lock, so two of them can share the temporary file.
-/

namespace Girasol

open Foundation

variable {p : Platform}

/-- `serde_json` on a map of positions. -/
structure PositionsJson where
  toStringPretty : Positions → String
  fromStr : String → Option Positions

def loadPositionsFromFile (json : PositionsJson) (file : Option (List UInt8)) : Positions :=
  match file.bind ofUtf8 with
  | none => ∅
  | some content =>
      if (trim content).isEmpty then ∅ else (json.fromStr content).getD ∅

def PositionsJson.format (json : PositionsJson) : FileFormat Positions UInt8 where
  encode := fun positions => utf8 (json.toStringPretty positions)
  load := loadPositionsFromFile json
  hole := 0

/-- The monitor's methods over the two files, from the start of the process. -/
def diskStep (json : PositionsJson) :
    DiskState Positions UInt8 → DiskEvent (Operation p) → Option (DiskState Positions UInt8) :=
  DiskState.step json.format Operation.program

/-! ## Saves that overlap -/

/-- However saves share the temporary file, the positions are in `positions.json` in the end. -/
theorem positions_file_when_done (json : PositionsJson) (temporary saved : Option (List UInt8))
    (events : List (DiskEvent (Operation p))) (t : DiskState Positions UInt8)
    (hrun : Run (diskStep json) (fun _ e => e.faultless)
      (.start json.format temporary saved) events t)
    (hdone : t.memory.allDone = true) :
    ∃ last : Positions,
      (t.saved = some (utf8 (json.toStringPretty last)) ∨
        t.saved = saved ∧ last = loadPositionsFromFile json saved) ∧
      last.saved = t.memory.shared.saved := by
  obtain ⟨hstands, hview⟩ :=
    DiskState.stands_of_allDone Operation.settles_program hrun hdone
  exact ⟨t.memory.file, hstands, hview⟩

def PositionsJson.plain : PositionsJson where
  toStringPretty := fun _ => "{}"
  fromStr := fun content => if content = "{}" then some ∅ else none

def overlappingSaves : List (DiskEvent (Operation .plain)) :=
  [.spawn (.addPosition "mint" .plain), .spawn (.addPosition "other" .plain),
    .section 0, .section 1, .section 0, .section 1,
    .create 0, .write 0 2, .create 1, .rename 0]

def finishSecondSave : List (DiskEvent (Operation .plain)) :=
  [.write 1 1, .write 1 1, .rename 1]

theorem positions_file_overlappingSaves :
    ∃ t, Run (diskStep .plain) (fun _ e => e.faultless)
        (.start (PositionsJson.plain).format none none)
        (overlappingSaves ++ finishSecondSave) t ∧
      ∃ last : Positions,
        (t.saved = some (utf8 ((PositionsJson.plain).toStringPretty last)) ∨
          t.saved = none ∧ last = loadPositionsFromFile .plain none) ∧
        last.saved = t.memory.shared.saved := by
  have hexec : (exec (diskStep .plain) (fun _ e => e.faultless)
      (.start (PositionsJson.plain).format none none)
      (overlappingSaves ++ finishSecondSave)).map (fun t => t.memory.allDone) = some true := by
    decide +kernel
  obtain ⟨t, hrun, hdone⟩ := exists_run_of_exec hexec
  exact ⟨t, hrun, positions_file_when_done .plain none none _ t hrun hdone⟩

/-- Between the first save's rename and the second one's write the file is torn. -/
example : (exec (diskStep .plain) (fun _ _ => True)
    (.start (PositionsJson.plain).format none none) overlappingSaves).map
      (fun t => (t.saved, t.memory.shared.keys)) = some (some [], ["other", "mint"]) := by
  decide +kernel

/-! ## Failures and crashes -/

/-- What `positions.json` holds when only the finished saves of a run have written it. -/
def finishedSaves (json : PositionsJson) (temporary saved : Option (List UInt8))
    (events : List (DiskEvent (Operation p))) : Option (List UInt8) :=
  DiskState.afterSaves json.format saved
    (gather (diskStep json) DiskState.finished (.start json.format temporary saved) events)

/--
If no save creates the temporary file while another has it open, `positions.json`
is at every moment what the last finished save wrote, and a restart loads that.
-/
theorem positions_file_crash_safe (json : PositionsJson)
    (temporary saved : Option (List UInt8)) (events : List (DiskEvent (Operation p)))
    (t : DiskState Positions UInt8)
    (hrun : Run (diskStep json) DiskState.alone (.start json.format temporary saved) events t) :
    t.saved = finishedSaves json temporary saved events ∧
      (diskStep json t (.crash : DiskEvent (Operation p))).map (fun t' => t'.memory.shared) =
        some (loadPositionsFromFile json (finishedSaves json temporary saved events)) := by
  have hsaved : t.saved = finishedSaves json temporary saved events :=
    DiskState.saved_eq_afterSaves hrun (DiskState.exclusive_start json.format temporary saved)
  refine ⟨hsaved, ?_⟩
  rw [← hsaved]
  rfl

def failedSaves : List (DiskEvent (Operation .plain)) :=
  [.spawn (.addPosition "mint" .plain), .section 0, .section 0, .create 0, .write 0 1, .fail 0,
    .spawn (.addPosition "other" .plain), .section 1, .section 1, .create 1, .write 1 1, .crash,
    .spawn (.addPosition "mint" .plain), .section 0, .section 0, .create 0, .write 0 2, .rename 0,
    .spawn (.removePosition "mint"), .section 1, .section 1, .create 1]

theorem positions_file_failedSaves :
    ∃ t, Run (diskStep .plain) DiskState.alone
        (.start (PositionsJson.plain).format none none) failedSaves t ∧
      t.saved = finishedSaves .plain none none failedSaves ∧
      (diskStep .plain t (.crash : DiskEvent (Operation .plain))).map
          (fun t' => t'.memory.shared) =
        some (loadPositionsFromFile .plain (finishedSaves .plain none none failedSaves)) := by
  have hexec : (exec (diskStep .plain) DiskState.alone
      (.start (PositionsJson.plain).format none none) failedSaves).map
        (fun t => t.temporary == some []) = some true := by
    decide +kernel
  obtain ⟨t, hrun, _⟩ := exists_run_of_exec hexec
  exact ⟨t, hrun, positions_file_crash_safe .plain none none failedSaves t hrun⟩

end Girasol
