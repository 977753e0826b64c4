/-
What the camera is set to over a session.  The camera keeps a setting until another one of its
kind is accepted; an exposure is taken with what is in force then, whoever asked for it.
-/
import Andor2k.AcquisitionPath
import Andor2k.CameraSettings
import Andor2k.DoneMessages
import Andor2k.Registers

namespace Andor2k

open CText CallChain

/-- The kinds of settings. -/
inductive SettingKind where
  | readMode | singleTrack | image | acquisitionMode | exposureTime | numberAccumulations
  | accumulationCycleTime | numberKinetics | kineticCycleTime | vsSpeed | hsSpeed | preAmpGain
  | shutter | triggerMode
deriving DecidableEq

def Setting.kind : Setting → SettingKind
  | readMode _ => .readMode
  | singleTrack _ _ => .singleTrack
  | image _ _ _ _ _ _ => .image
  | acquisitionMode _ => .acquisitionMode
  | exposureTime _ => .exposureTime
  | numberAccumulations _ => .numberAccumulations
  | accumulationCycleTime _ => .accumulationCycleTime
  | numberKinetics _ => .numberKinetics
  | kineticCycleTime _ => .kineticCycleTime
  | vsSpeed _ => .vsSpeed
  | hsSpeed _ _ => .hsSpeed
  | preAmpGain _ => .preAmpGain
  | shutter _ _ _ _ => .shutter
  | triggerMode _ => .triggerMode

/-- What is in force of each kind, if it is known. -/
abbrev CameraMemory := SettingKind → Option Setting

def CameraMemory.after (camera : CameraMemory) (calls : List SettingCall) : CameraMemory :=
  inForce .success (write Setting.kind) camera calls

/-- A command, and what the SDK answers while the camera is set up for it. -/
structure Visit where
  command : Command
  sdk : SdkAnswers

structure Station where
  params : AndorParameters
  camera : CameraMemory

/-- The settings a command makes: those of its set-up, if its parser accepts it. -/
def visitCalls (params : AndorParameters) (visit : Visit) : List SettingCall :=
  match requested params visit.command with
  | none => []
  | some asked => setupCalls asked visit.sdk

def stationStep (station : Station) (visit : Visit) : Option Station :=
  (step station.params visit.command).map fun next =>
    ⟨next, station.camera.after (visitCalls station.params visit)⟩

/-- Every setting made on the way. -/
def sessionCalls : AndorParameters → List Visit → List SettingCall
  | _, [] => []
  | params, visit :: later =>
      visitCalls params visit ++
        match step params visit.command with
        | none => []
        | some next => sessionCalls next later

theorem stationStep_eq_some {station next : Station} {visit : Visit} :
    stationStep station visit = some next ↔
      step station.params visit.command = some next.params ∧
        next.camera = station.camera.after (visitCalls station.params visit) := by
  rw [stationStep, Option.map_eq_some_iff]
  constructor
  · rintro ⟨params, hstep, rfl⟩
    exact ⟨hstep, rfl⟩
  · rintro ⟨hstep, hcamera⟩
    exact ⟨next.params, hstep, by rw [← hcamera]⟩

/-- The camera is left by all settings of a session one after the other. -/
theorem run_camera {station final : Station} {visits : List Visit}
    (hrun : Runs.run stationStep station visits = some final) :
    final.camera = station.camera.after (sessionCalls station.params visits) := by
  induction visits generalizing station with
  | nil =>
      rw [← Option.some.inj hrun]
      rfl
  | cons visit later ih =>
      obtain ⟨next, hnext, hlater⟩ := Runs.run_cons_eq_some.mp hrun
      obtain ⟨hstep, hcamera⟩ := stationStep_eq_some.mp hnext
      rw [ih hlater, hcamera, sessionCalls, hstep]
      exact (inForce_append _ _ _).symm

section Setup

variable {params : AndorParameters} {sdk : SdkAnswers}

/-- The gain is tried once, or not at all. -/
theorem setPreampgain_once : (Camera.setPreampgain params sdk).calls = [] ∨
    (Camera.setPreampgain params sdk).calls =
      [(.preAmpGain params.preampgain, sdk.setPreAmpGain)] := by
  unfold Camera.setPreampgain
  dsimp only
  split_ifs
  · exact Or.inl rfl
  · exact Or.inl rfl
  · exact Or.inr rfl
  · exact Or.inr rfl
  · exact Or.inr rfl

/-- A set-up that returns 0 makes one setting of a kind at most. -/
theorem setupCalls_nodup (hrefused : refusedSetup params (sdk.answers params) = none)
    (hsize : ∃ size, imageSize params = .ok (some size)) :
    ((setupCalls params sdk).map fun call => call.1.kind).Nodup := by
  obtain ⟨earlier, hcalls, -, hmade⟩ := setupCalls_of_zero hrefused hsize
  have hkinds : (earlier.map fun call => call.1.kind) =
      (earlier.map Prod.fst).map Setting.kind := by
    rw [List.map_map]
    rfl
  rw [hcalls, List.map_append, List.map_append, List.map_append, hkinds, hmade]
  unfold acquisitionSettings shutterSetting
  dsimp only
  rcases setPreampgain_once with hgain | hgain
  · rw [hgain]
    split_ifs <;> simp [Setting.kind]
  · rw [hgain]
    split_ifs <;> simp [Setting.kind]

/-- Everything but the gain is accepted. -/
theorem accepted_of_asked (hrefused : refusedSetup params (sdk.answers params) = none)
    (hsize : ∃ size, imageSize params = .ok (some size)) {setting : Setting}
    (hasked : setting ∈ settingsAsked params sdk) (hkind : setting.kind ≠ .preAmpGain) :
    (setting, DrvCode.success) ∈ setupCalls params sdk := by
  obtain ⟨earlier, hcalls, haccepted, hmade⟩ := setupCalls_of_zero hrefused hsize
  have hplace : setting ∈ earlier.map Prod.fst ∨ setting = shutterSetting params := by
    rw [hmade]
    rcases List.mem_append.mp hasked with hearly | hlast
    · exact Or.inl (List.mem_append_left _ hearly)
    · simp only [List.mem_cons, List.not_mem_nil, or_false] at hlast
      rcases hlast with rfl | rfl | rfl | rfl
      · exact Or.inl (List.mem_append_right _ (.head _))
      · exact Or.inl (List.mem_append_right _ (.tail _ (.head _)))
      · exact absurd rfl hkind
      · exact Or.inr rfl
  rw [hcalls]
  rcases hplace with hearly | rfl
  · obtain ⟨call, hcall, rfl⟩ := List.mem_map.mp hearly
    have hsuccess : call = (call.1, DrvCode.success) := Prod.ext rfl (haccepted call hcall)
    rw [← hsuccess]
    simp only [List.mem_append, hcall, true_or]
  · exact List.mem_append_left _ (List.mem_append_right _ (List.mem_singleton_self _))

/-- A set-up that returns 0 leaves the camera with everything that was asked but the gain. -/
theorem camera_after_setup (hrefused : refusedSetup params (sdk.answers params) = none)
    (hsize : ∃ size, imageSize params = .ok (some size)) (camera : CameraMemory)
    {setting : Setting} (hasked : setting ∈ settingsAsked params sdk)
    (hkind : setting.kind ≠ .preAmpGain) :
    camera.after (setupCalls params sdk) setting.kind = some setting :=
  inForce_write_of_nodup camera (setupCalls_nodup hrefused hsize)
    (accepted_of_asked hrefused hsize hasked hkind)

/-- The gain is the one that was asked for, if it was set, and the old one otherwise. -/
theorem gain_after_setup (hrefused : refusedSetup params (sdk.answers params) = none)
    (hsize : ∃ size, imageSize params = .ok (some size)) (camera : CameraMemory) :
    (GainSet params sdk → camera.after (setupCalls params sdk) .preAmpGain =
        some (.preAmpGain params.preampgain)) ∧
      (¬ GainSet params sdk → camera.after (setupCalls params sdk) .preAmpGain =
        camera .preAmpGain) := by
  obtain ⟨earlier, hcalls, -, hmade⟩ := setupCalls_of_zero hrefused hsize
  constructor
  · intro hset
    obtain ⟨-, hgain⟩ := setPreampgain_calls.resolve_right fun hnot => hnot.1 hset
    have haccepted : (Setting.preAmpGain params.preampgain, DrvCode.success) ∈
        setupCalls params sdk := by
      rw [hcalls, hgain]
      simp only [List.mem_append, List.mem_singleton, or_true, true_or]
    exact inForce_write_of_nodup camera (setupCalls_nodup hrefused hsize) haccepted
  · intro hnot
    have hrefusals := (setPreampgain_calls.resolve_left fun hset => hnot hset.1).2
    have hearlier : ∀ setting ∈ earlier.map Prod.fst, setting.kind ≠ .preAmpGain := by
      rw [hmade]
      unfold acquisitionSettings
      dsimp only
      split_ifs <;> simp [Setting.kind]
    have hnone : writers DrvCode.success Setting.kind .preAmpGain (setupCalls params sdk) = [] := by
      rw [List.eq_nil_iff_forall_not_mem]
      intro setting hsetting
      obtain ⟨hcall, hkind⟩ := mem_writers.mp hsetting
      rw [hcalls] at hcall
      simp only [List.mem_append, List.mem_singleton] at hcall
      rcases hcall with ((hcall | hcall) | hcall) | hcall
      · exact hearlier setting (List.mem_map_of_mem hcall) hkind
      · exact (hrefusals _ hcall).2 rfl
      · rw [(Prod.mk.inj hcall).1] at hkind
        cases hkind
      · rw [(Prod.mk.inj hcall).1] at hkind
        cases hkind
    rw [CameraMemory.after, inForce_write, hnone]
    rfl

end Setup

/-- The pre-amp gains the camera has accepted during a session. -/
def gainsAccepted (params : AndorParameters) (visits : List Visit) : List Setting :=
  writers .success Setting.kind .preAmpGain (sessionCalls params visits)

/-- An exposure is only started behind a set-up that returned 0. -/
theorem started_of_setup {drvNumber : DrvCode → Nat} {setupAnswers : SetupAnswers}
    {answers : Acquisition.ScanAnswers} {command : CommandBuffer} {params : AndorParameters}
    {run : Acquisition.ImageRun}
    (hrun : Acquisition.getImage drvNumber setupAnswers answers command params = .ok (some run))
    (hstarted : .startAcquisition ∈ run.events) :
    refusedSetup run.params setupAnswers = none ∧
      ∃ size, imageSize run.params = .ok (some size) := by
  have hunstarted : ∀ data, .startAcquisition ∉
      Acquisition.allocation data ++ Acquisition.deletion data := by
    rintro (_ | array) <;> simp [Acquisition.allocation, Acquisition.deletion]
  rcases Acquisition.getImage_cases hrun with ⟨-, -, -, -, hevents⟩ |
    ⟨-, setup, data, hsetup, ⟨-, -, hevents⟩ | ⟨hzero, -⟩⟩
  · rw [hevents] at hstarted
    cases hstarted
  · rw [hevents] at hstarted
    exact absurd hstarted (hunstarted data)
  · obtain ⟨made, hmade, himage⟩ := checked_bind_eq_ok.mp hsetup
    obtain ⟨array, -, hpair⟩ := checked_bind_eq_ok.mp himage
    obtain rfl : made = setup := congrArg Prod.fst (Except.ok.inj hpair)
    obtain ⟨hrefused, size, hsize, -⟩ := setup_succeeded hmade hzero
    exact ⟨hrefused, size, hsize⟩

/-- Whatever a session has left on the camera, an exposure is taken with the window, the mode,
the timings, the speeds and the shutter of its own command.  Its gain is that of its command or,
where this one has not been set, the last that any command before has set. -/
theorem exposures_are_taken_as_asked {drvNumber : DrvCode → Nat}
    {answers : Acquisition.ScanAnswers}
    {start station : Station} {before : List Visit} {visit : Visit} {asked : AndorParameters}
    {run : Acquisition.ImageRun} (hbefore : Runs.run stationStep start before = some station)
    (hasked : requested station.params visit.command = some asked)
    (hrun : Acquisition.getImage drvNumber (visit.sdk.answers asked) answers visit.command.buffer
      station.params = .ok (some run)) (hstarted : .startAcquisition ∈ run.events) :
    ∃ next, stationStep station visit = some next ∧ next.params = asked ∧
      (∀ setting ∈ settingsAsked asked visit.sdk, setting.kind ≠ .preAmpGain →
        next.camera setting.kind = some setting) ∧
      (GainSet asked visit.sdk →
        next.camera .preAmpGain = some (.preAmpGain asked.preampgain)) ∧
      (¬ GainSet asked visit.sdk → next.camera .preAmpGain =
        (gainsAccepted start.params before).getLast?.or (start.camera .preAmpGain)) := by
  obtain ⟨hhandler, hreply⟩ := Acquisition.requested_eq_some hasked
  obtain ⟨hrefused, hsize⟩ := started_of_setup hrun hstarted
  have hparams : run.params = asked := by
    rcases Acquisition.getImage_cases hrun with ⟨status, hother, hfailed, -⟩ | ⟨hother, -⟩
    · rw [hreply] at hother
      exact absurd (congrArg Reply.status (Except.ok.inj hother)).symm hfailed
    · rw [hreply] at hother
      exact (congrArg Reply.params (Except.ok.inj hother)).symm
  rw [hparams] at hrefused hsize
  have hstep : step station.params visit.command = some asked := by
    rw [step, serve, parserReply, hhandler]
    dsimp only
    rw [hreply]
    rfl
  have hvisit : visitCalls station.params visit = setupCalls asked visit.sdk := by
    rw [visitCalls, hasked]
  obtain ⟨hset, hnot⟩ := gain_after_setup hrefused hsize station.camera
  refine ⟨⟨asked, station.camera.after (setupCalls asked visit.sdk)⟩,
    stationStep_eq_some.mpr ⟨hstep, hvisit ▸ rfl⟩, rfl, ?_, hset, ?_⟩
  · intro setting hmem hkind
    exact camera_after_setup hrefused hsize station.camera hmem hkind
  · intro hgain
    change station.camera.after (setupCalls asked visit.sdk) .preAmpGain = _
    rw [hnot hgain, run_camera hbefore]
    exact inForce_write start.camera _ _

def secondGain : Command := ⟨ascii "setparam preampgain=1", by decide, fun _ => willingCamera⟩

def firstGain : Command := ⟨ascii "setparam preampgain=0", by decide, fun _ => willingCamera⟩

def smallImage : Command :=
  ⟨ascii "image --hend 2 --vend 2", by decide, fun _ => willingCamera⟩

/-- The second gain is chosen and set with an exposure, then the first one is chosen. -/
def gainSession : List Visit :=
  [⟨secondGain, gainAnswers .success⟩, ⟨smallImage, gainAnswers .success⟩,
    ⟨firstGain, gainAnswers .success⟩]

/-- The exposure that follows a session, with the gain it is asked to have. -/
theorem exists_exposure (start : Station) (before : List Visit) (visit : Visit) (gain : Int32)
    (hsession : ((Runs.run stationStep start before).bind fun station =>
      (requested station.params visit.command).bind fun asked =>
        (Acquisition.getImage (fun _ => 20002) (visit.sdk.answers asked) Acquisition.willingScan
          visit.command.buffer station.params).toOption.join.map fun run =>
            (asked.preampgain, decide (.startAcquisition ∈ run.events))) = some (gain, true)) :
    ∃ station asked run, Runs.run stationStep start before = some station ∧
      requested station.params visit.command = some asked ∧ asked.preampgain = gain ∧
      Acquisition.getImage (fun _ => 20002) (visit.sdk.answers asked) Acquisition.willingScan
        visit.command.buffer station.params = .ok (some run) ∧
      .startAcquisition ∈ run.events := by
  obtain ⟨station, hstation, hlater⟩ := Option.bind_eq_some_iff.mp hsession
  obtain ⟨asked, hasked, himage⟩ := Option.bind_eq_some_iff.mp hlater
  obtain ⟨run, hrun, hseen⟩ := Option.map_eq_some_iff.mp himage
  obtain ⟨hgain, hstarted⟩ := Prod.mk.inj hseen
  refine ⟨station, asked, run, hstation, hasked, hgain, ?_, of_decide_eq_true hstarted⟩
  cases himage : Acquisition.getImage (fun _ => 20002) (visit.sdk.answers asked)
      Acquisition.willingScan visit.command.buffer station.params with
  | error fault =>
      rw [himage] at hrun
      cases hrun
  | ok found =>
      rw [himage] at hrun
      exact congrArg Except.ok (Option.some.inj (Option.join_eq_some_iff.mp hrun))

/-- The first gain is refused: the next exposure is taken with the second one. -/
theorem refusedGain_leaves_old_gain : ∃ station next,
    Runs.run stationStep ⟨AndorParameters.initial [], fun _ => none⟩ gainSession =
      some station ∧
    stationStep station ⟨smallImage, gainAnswers .errorAck⟩ = some next ∧
    next.params.preampgain = 0 ∧ next.camera .hsSpeed = some (.hsSpeed 0 next.params.hsspeed) ∧
    next.camera .preAmpGain = some (.preAmpGain 1) := by
  obtain ⟨station, asked, run, hstation, hasked, hgain, hrun, hstarted⟩ :=
    exists_exposure ⟨AndorParameters.initial [], fun _ => none⟩ gainSession
      ⟨smallImage, gainAnswers .errorAck⟩ 0 (by decide +kernel)
  obtain ⟨next, hnext, rfl, hset, -, hold⟩ :=
    exposures_are_taken_as_asked hstation hasked hrun hstarted
  refine ⟨station, next, hstation, hnext, hgain, ?_, ?_⟩
  · have hmem : Setting.hsSpeed 0 next.params.hsspeed ∈
        settingsAsked next.params (gainAnswers .errorAck) :=
      List.mem_append_right _ (.tail _ (.head _))
    exact hset _ hmem SettingKind.noConfusion
  · rw [hold fun hset => absurd hset.2.2 (by decide)]
    decide +kernel

end Andor2k
