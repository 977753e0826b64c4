/-
The number of images and the acquisition mode over a session.  They are two members for
one fact: `--nimages` sets both, `setparam acqmode=` the mode alone.  What the commands
have chosen is replayed from their words, and the members follow it.
-/
import Andor2k.KineticSeries
import Andor2k.CommandHistory

namespace Andor2k

open CText

/-- What the words so far have chosen: whether the `--nimages` read last was refused, and
the mode an `acqmode=` has set since one was last accepted. -/
structure Choice where
  refused : Bool
  mode : Option AcquisitionMode
deriving DecidableEq

/-- Before the first command. -/
def Choice.start : Choice := ⟨false, none⟩

def ImageOption.choose (option : ImageOption) (value : Text) (choice : Choice) : Choice :=
  if option = nimages then
    if option.refuses value then { choice with refused := true } else ⟨false, none⟩
  else choice

/-- The words of an `image` command, up to the one that is refused. -/
def imageChoice : Tokens → Choice → Choice
  | .done, choice => choice
  | .overrun, choice => choice
  | .token word rest, choice =>
      match ImageOption.ofWord word with
      | none => imageChoice rest choice
      | some option =>
          match rest with
          | .done => choice
          | .overrun => choice
          | .token value rest =>
              if option.refuses value then option.choose value choice
              else imageChoice rest (option.choose value choice)

def SetOption.choose (option : SetOption) (token : Text) (choice : Choice) : Choice :=
  if option = acqmode then
    { choice with mode := some (.ofInt (Int32.ofInt (strtol (acqmode.value token)).value)) }
  else choice

/-- The words of a `setparam` command, up to the one that is refused. -/
def setChoice (sdk : Nat → SetParamAnswers) : Nat → Tokens → Choice → Choice
  | _, .done, choice => choice
  | _, .overrun, choice => choice
  | index, .token word rest, choice =>
      match SetOption.ofWord word with
      | none => setChoice sdk (index + 1) rest choice
      | some option =>
          if option.refuses (sdk index) word then choice
          else setChoice sdk (index + 1) rest (option.choose word choice)

def Command.choice (choice : Choice) (command : Command) : Choice :=
  match handlerOf command.buffer with
  | .getImage => imageChoice command.words choice
  | .setParamValue => setChoice command.sdk 0 command.words choice
  | _ => choice

/-- The members follow the choice. -/
structure Follows (choice : Choice) (params : AndorParameters) : Prop where
  numImages : choice.refused = false → 1 ≤ params.numImages
  single : choice.refused = false → choice.mode = none →
    (params.acquisitionMode = .singleScan ↔ params.numImages = 1)
  mode : ∀ mode, choice.mode = some mode → params.acquisitionMode = mode

theorem Follows.of_agreeOff {choice : Choice} {fields : List Field}
    {before after : AndorParameters} (hfollows : Follows choice before)
    (hagree : AgreeOff fields before after) (hcount : .numImages ∉ fields)
    (hmode : .acquisitionMode ∉ fields) : Follows choice after := by
  constructor
  · intro hrefused
    rw [hagree.numImages_eq hcount]
    exact hfollows.numImages hrefused
  · intro hrefused hnone
    rw [hagree.numImages_eq hcount, hagree.acquisitionMode_eq hmode]
    exact hfollows.single hrefused hnone
  · intro mode hchosen
    rw [hagree.acquisitionMode_eq hmode]
    exact hfollows.mode mode hchosen

theorem runTillAbort_ne : AcquisitionMode.runTillAbort ≠ .singleScan := by
  decide

/-- An accepted number brings the two members together again, whatever they were. -/
theorem follows_storeNimages {choice : Choice} {params : AndorParameters} {value : Text}
    (hfollows : Follows choice params) :
    Follows (ImageOption.nimages.choose value choice) (storeNimages params value).params := by
  rw [ImageOption.choose, if_pos rfl, ImageOption.refuses]
  unfold storeNimages
  by_cases hrefuses : (strtol value).rest = value ∨ Int32.ofInt (strtol value).value < 1
  · simp only [hrefuses, ↓reduceIte, Bool.or_eq_true, decide_eq_true_eq]
    exact ⟨by simp, by simp, hfollows.mode⟩
  · simp only [hrefuses, ↓reduceIte, Bool.or_eq_true, decide_eq_true_eq]
    have hpositive : 1 ≤ Int32.ofInt (strtol value).value :=
      Int32.not_lt.mp fun hless => hrefuses (Or.inr hless)
    split
    · rename_i hone
      exact ⟨fun _ => hpositive, fun _ _ => ⟨fun _ => hone, fun _ => rfl⟩, by simp⟩
    · rename_i hmany
      split
      · exact ⟨fun _ => hpositive,
          fun _ _ => ⟨fun hsingle => absurd hsingle runTillAbort_ne, fun hone => absurd hone hmany⟩,
          by simp⟩
      · rename_i hkept
        have hmore : Int32.ofInt (strtol value).value > 1 :=
          Int32.lt_of_le_of_ne hpositive (Ne.symm hmany)
        exact ⟨fun _ => hpositive,
          fun _ _ => ⟨fun hsingle => absurd ⟨hmore, hsingle⟩ hkept,
            fun hone => absurd hone hmany⟩, by simp⟩

theorem ImageOption.follows_store (option : ImageOption) {choice : Choice}
    {params : AndorParameters} (hmode : params.readOutMode = .image)
    (hfollows : Follows choice params) (value : Text) :
    Follows (option.choose value choice) (option.store params value).params := by
  by_cases hoption : option = nimages
  · subst option
    exact follows_storeNimages hfollows
  · rw [choose, if_neg hoption]
    have hagree := (option.storesAs_store hmode value).agree.mono
      (option.written_subset_fields value)
    have hcount : .numImages ∉ option.fields := by
      cases option <;> simp [fields] at hoption ⊢
    have hkind : .acquisitionMode ∉ option.fields := by
      cases option <;> simp [fields] at hoption ⊢
    exact hfollows.of_agreeOff hagree hcount hkind

theorem resolveOptions_follows {tokens : Tokens} {params : AndorParameters} {choice : Choice}
    {reply : Reply} (hmode : params.readOutMode = .image) (hfollows : Follows choice params)
    (hreply : resolveOptions tokens params = .ok reply) :
    Follows (imageChoice tokens choice) reply.params := by
  induction tokens, params using resolveOptions.induct generalizing choice with
  | case1 params =>
      rw [← Except.ok.inj hreply]
      exact hfollows.of_agreeOff (agreeOff_finishImage params) (by simp) (by simp)
  | case2 params => cases hreply
  | case3 word rest params hoption ih =>
      simp only [resolveOptions, hoption] at hreply
      simp only [imageChoice, hoption]
      exact ih hmode hfollows hreply
  | case4 word params option hoption =>
      simp only [resolveOptions, hoption] at hreply
      simp only [imageChoice, hoption]
      rw [← Except.ok.inj hreply]
      exact hfollows
  | case5 word params option hoption =>
      simp only [resolveOptions, hoption] at hreply
      cases hreply
  | case6 word params option hoption value rest status after hstore =>
      have hafter := option.follows_store hmode hfollows value
      obtain ⟨hrefuses, -⟩ := ImageOption.refused_of_store hmode hstore
      rw [hstore] at hafter
      simp only [resolveOptions, hoption, hstore] at hreply
      simp only [imageChoice, hoption, hrefuses]
      rw [← Except.ok.inj hreply]
      exact hafter
  | case7 word params option hoption value rest after hstore ih =>
      have hafter := option.follows_store hmode hfollows value
      obtain ⟨hrefuses, hstill⟩ := ImageOption.kept_of_store hmode hstore
      rw [hstore] at hafter
      simp only [resolveOptions, hoption, hstore] at hreply
      simp only [imageChoice, hoption, hrefuses]
      exact ih hstill hafter hreply

theorem SetOption.follows_store {option : SetOption} {sdk : SetParamAnswers}
    {choice : Choice} {params : AndorParameters} {token : Text} {result : OptionResult}
    (hfits : option.Fits token) (hfollows : Follows choice params)
    (hresult : option.store sdk params token = .ok result) :
    Follows (if option.refuses sdk token then choice else option.choose token choice)
      result.params := by
  obtain ⟨stored, hstored, hspec⟩ := option.storesAs_store sdk params hfits
  obtain rfl : result = stored := Except.ok.inj (hresult.symm.trans hstored)
  by_cases hrefuses : option.refuses sdk token = true
  · have hnothing : option.written sdk token = [] := by
      rw [written, if_pos hrefuses]
    have hagree := hspec.agree
    rw [hnothing] at hagree
    rw [if_pos hrefuses]
    exact hfollows.of_agreeOff hagree (by simp) (by simp)
  · rw [if_neg hrefuses]
    have hagree := hspec.agree.mono (option.written_subset_fields sdk token)
    by_cases hoption : option = acqmode
    · subst option
      have hrest : ¬ (strtol (acqmode.value token)).rest = token := by
        simpa [refuses] using hrefuses
      rw [store, setAcqmode, if_neg hrest] at hresult
      rw [choose, if_pos rfl, ← Except.ok.inj hresult]
      exact ⟨hfollows.numImages, by simp, fun mode hchosen => Option.some.inj hchosen⟩
    · rw [choose, if_neg hoption]
      have hcount : .numImages ∉ option.fields := by
        cases option <;> simp [fields]
      have hkind : .acquisitionMode ∉ option.fields := by
        cases option <;> simp [fields] at hoption ⊢
      exact hfollows.of_agreeOff hagree hcount hkind

theorem setOptions_follows {sdk : Nat → SetParamAnswers} {index : Nat} {tokens : Tokens}
    {params : AndorParameters} {choice : Choice} {fields : List Field} {reply : Reply}
    (hwritten : setWritten sdk index tokens = .ok fields) (hfollows : Follows choice params)
    (hreply : setOptions sdk index tokens params = .ok reply) :
    Follows (setChoice sdk index tokens choice) reply.params := by
  induction tokens generalizing index params choice fields with
  | done =>
      rw [← Except.ok.inj hreply]
      exact hfollows
  | overrun => cases hreply
  | token word rest ih =>
      cases hoption : SetOption.ofWord word with
      | none =>
          simp only [setWritten, hoption] at hwritten
          simp only [setOptions, hoption] at hreply
          simp only [setChoice, hoption]
          exact ih hwritten hfollows hreply
      | some option =>
          simp only [setWritten, hoption] at hwritten
          simp only [setOptions, hoption] at hreply
          simp only [setChoice, hoption]
          by_cases hfits : option.Fits word
          · rw [if_neg (not_not.mpr hfits)] at hwritten
            obtain ⟨result, hresult, hspec⟩ := option.storesAs_store (sdk index) params hfits
            have hafter := option.follows_store hfits hfollows hresult
            rw [hresult] at hreply
            by_cases hrefuses : option.refuses (sdk index) word = true
            · obtain ⟨status, -, hrefused⟩ := hspec.refused hrefuses
              rw [hrefused] at hreply
              rw [if_pos hrefuses] at hafter ⊢
              rw [← Except.ok.inj hreply]
              exact hafter
            · rw [hspec.kept (by simpa using hrefuses)] at hreply
              rw [if_neg hrefuses] at hafter hwritten ⊢
              obtain ⟨later, hlater, -⟩ := checked_map_eq_ok.mp hwritten
              exact ih hlater hafter hreply
          · rw [if_pos hfits] at hwritten
            cases hwritten

theorem choice_other {command : Command} (choice : Choice)
    (himage : handlerOf command.buffer ≠ .getImage)
    (hset : handlerOf command.buffer ≠ .setParamValue) : command.choice choice = choice := by
  unfold Command.choice
  cases hhandler : handlerOf command.buffer with
  | getImage => exact absurd hhandler himage
  | setParamValue => exact absurd hhandler hset
  | _ => rfl

theorem serve_follows {command : Command} {choice : Choice} {params next : AndorParameters}
    (hready : Ready params) (hwithin : command.StaysWithin) (hfollows : Follows choice params)
    (hserve : serve params command = .ok next) : Follows (command.choice choice) next := by
  obtain ⟨fields, hwritten⟩ := hwithin
  rw [serve] at hserve
  by_cases himage : handlerOf command.buffer = .getImage
  · rw [parserReply_getImage params himage, if_neg (not_not.mpr hready.readOutMode)] at hserve
    simp only [Command.choice, himage]
    cases hreply : resolveOptions command.words params with
    | error fault =>
        rw [hreply] at hserve
        cases hserve
    | ok reply =>
        rw [hreply] at hserve
        rw [← Except.ok.inj hserve]
        exact resolveOptions_follows hready.readOutMode hfollows hreply
  · by_cases hset : handlerOf command.buffer = .setParamValue
    · rw [parserReply_setParamValue params hset] at hserve
      simp only [Command.written, hset] at hwritten
      simp only [Command.choice, hset]
      cases hreply : setOptions command.sdk 0 command.words params with
      | error fault =>
          rw [hreply] at hserve
          cases hserve
      | ok reply =>
          rw [hreply] at hserve
          rw [← Except.ok.inj hserve]
          exact setOptions_follows hwritten hfollows hreply
    · rw [parserReply_other params himage hset] at hserve
      rw [← Except.ok.inj hserve, choice_other choice himage hset]
      exact hfollows

theorem follows_initial (memory : List UInt8) :
    Follows .start (AndorParameters.initial memory) := by
  have hcount : (AndorParameters.initial memory).numImages = 1 := rfl
  have hmode : (AndorParameters.initial memory).acquisitionMode = .singleScan := rfl
  constructor
  · intro hrefused
    rw [hcount]
    decide
  · intro hrefused hnone
    rw [hcount, hmode]
    decide
  · intro mode hchosen
    cases hchosen

/-- After every command the members follow what the commands have chosen. -/
theorem run_follows {commands : List Command} {choice : Choice}
    {params final : AndorParameters} (hready : Ready params) (hfollows : Follows choice params)
    (hwithin : ∀ command ∈ commands, command.StaysWithin)
    (hrun : Runs.run step params commands = some final) :
    Ready final ∧ Follows (commands.foldl Command.choice choice) final := by
  induction commands generalizing choice params with
  | nil =>
      rw [← Option.some.inj hrun]
      exact ⟨hready, hfollows⟩
  | cons command later ih =>
      have hone := hwithin command List.mem_cons_self
      obtain ⟨next, hstep, hrest⟩ := Runs.run_cons_eq_some.mp hrun
      obtain ⟨after, hafter, hstill, -⟩ := step_ready hready hone
      obtain rfl : next = after := Option.some.inj (hstep.symm.trans hafter)
      have hserve : serve params command = .ok next := by
        rw [step] at hstep
        cases hresult : serve params command with
        | error fault =>
            rw [hresult] at hstep
            cases hstep
        | ok other =>
            rw [hresult] at hstep
            rw [← Option.some.inj hstep]
      exact ih hstill (serve_follows hready hone hfollows hserve)
        (fun other hother => hwithin other (List.mem_cons_of_mem command hother)) hrest

namespace Acquisition

theorem savedExposures_map {report : Text → ScanEvent}
    (hreport : ∀ text, ∃ message, report text = .sent message) (reports : List Text) :
    savedExposures (reports.map report) = [] := by
  induction reports with
  | nil => rfl
  | cons text later ih =>
      obtain ⟨message, hsent⟩ := hreport text
      rw [List.map_cons, hsent]
      exact ih

theorem saveImage_saved {params : AndorParameters} {fheaders : FitsHeaders}
    {xpixels ypixels : Int} {file : FileAnswers} {exposure : Nat} {imgBuffer : List Int32}
    {saved : SavedExposure} {saving : List ScanEvent}
    (hsaved : saveImage params fheaders xpixels ypixels file exposure imgBuffer =
      .ok (saved, saving))
    (hstatus : saved.status = 0) : savedExposures saving = [exposure] := by
  obtain ⟨written, hwritten, hrest⟩ := checked_bind_eq_ok.mp hsaved
  obtain ⟨rfl, rfl⟩ := Prod.mk.inj (Except.ok.inj hrest)
  rcases saveAsFits_cases hwritten with rfl | ⟨filename, fits, status, image, -, -, hend⟩
  · cases hstatus
  · rcases hend with ⟨-, rfl⟩ | ⟨-, rfl⟩
    · cases hstatus
    · rfl

theorem single_saved {drvNumber : DrvCode → Nat} {params : AndorParameters}
    {fheaders : FitsHeaders} {xpixels ypixels : Int} {answers : SingleAnswers}
    {imgBuffer : List Int32} {scan : Scan}
    (hscan : getSingleScan drvNumber params fheaders xpixels ypixels answers imgBuffer =
      .ok scan)
    (hstatus : scan.status = 0) : savedExposures scan.events = [1] := by
  rcases getSingleScan_cases hscan with ⟨-, message, -, rfl⟩ | ⟨-, -, message, -, rfl⟩ |
    ⟨-, -, size, -, ⟨-, message, -, rfl⟩ |
      ⟨-, filled, saved, saving, message, -, hsaved, -, rfl⟩⟩
  · cases hstatus
  · cases hstatus
  · cases hstatus
  · by_cases hfailed : saved.status = 0
    · have hreports : savedExposures (answers.reports.map singleReport) = [] :=
        savedExposures_map (fun _ => ⟨_, rfl⟩) answers.reports
      have hstarted : savedExposures (.startAcquisition :: answers.reports.map singleReport) =
          [] := hreports
      rw [if_neg (not_not.mpr hfailed), savedExposures_append, savedExposures_append,
        savedExposures_append, hstarted, saveImage_saved hsaved hfailed]
      rfl
    · rw [if_pos hfailed] at hstatus
      cases hstatus

theorem rtaTurn_saved {drvNumber : DrvCode → Nat} {params : AndorParameters}
    {fheaders : FitsHeaders} {xpixels ypixels : Int} {turn : RtaTurn} {curImgInSeries : Nat}
    {imgBuffer filled : List Int32} {image : Scan}
    (himage : rtaTurn drvNumber params fheaders xpixels ypixels turn curImgInSeries imgBuffer =
      .ok (image, filled))
    (hstatus : image.status = 0) : savedExposures image.events = [curImgInSeries] := by
  rcases rtaTurn_cases himage with ⟨-, -, message, -, rfl⟩ |
    ⟨-, -, size, -, ⟨-, -, message, -, rfl⟩ | ⟨-, saved, saving, -, hsaved, rfl⟩⟩
  · cases hstatus
  · cases hstatus
  · by_cases hfailed : saved.status = 0
    · have hone := saveImage_saved hsaved hfailed
      rw [if_neg (not_not.mpr hfailed)]
      exact hone
    · rw [if_pos hfailed] at hstatus
      cases hstatus

theorem rtaLoop_saved {drvNumber : DrvCode → Nat} {params : AndorParameters}
    {fheaders : FitsHeaders} {xpixels ypixels : Int} {turns : Nat → RtaTurn}
    {left curimg : Nat} {imgBuffer : List Int32} {series : Scan}
    (hseries : rtaLoop drvNumber params fheaders xpixels ypixels turns left curimg imgBuffer =
      .ok series)
    (hstatus : series.status = 0) :
    savedExposures series.events = List.range' (curimg + 1) left := by
  induction left generalizing curimg imgBuffer series with
  | zero =>
      rw [← Except.ok.inj hseries]
      rfl
  | succ left ih =>
      obtain ⟨⟨image, filled⟩, himage, hrest⟩ := checked_bind_eq_ok.mp hseries
      dsimp only at hrest
      split at hrest
      · rename_i hfailed
        rw [← Except.ok.inj hrest] at hstatus
        exact absurd hstatus hfailed
      · rename_i hgoes
        obtain ⟨later, hlater, hrest⟩ := checked_bind_eq_ok.mp hrest
        rw [← Except.ok.inj hrest] at hstatus ⊢
        rw [savedExposures_append, rtaTurn_saved himage (not_not.mp hgoes), ih hlater hstatus,
          List.range'_succ]
        rfl

theorem rta_saved {drvNumber : DrvCode → Nat} {params : AndorParameters}
    {fheaders : FitsHeaders} {xpixels ypixels : Int} {answers : RtaAnswers}
    {imgBuffer : List Int32} {scan : Scan}
    (hscan : getRtaScan drvNumber params fheaders xpixels ypixels answers imgBuffer = .ok scan)
    (hstatus : scan.status = 0) :
    savedExposures scan.events = List.range' 1 params.numImages.toInt.toNat := by
  rcases getRtaScan_cases hscan with ⟨-, message, -, rfl⟩ |
    ⟨-, series, hseries, ⟨hfailed, rfl⟩ | ⟨hsucceeded, message, -, rfl⟩⟩
  · cases hstatus
  · exact absurd hstatus hfailed
  · have hreports : savedExposures (answers.reports.map seriesReport) = [] :=
      savedExposures_map (fun _ => ⟨_, rfl⟩) answers.reports
    have hstarted : savedExposures (.startAcquisition :: answers.reports.map seriesReport) =
        [] := hreports
    rw [savedExposures_append, savedExposures_append, hstarted,
      rtaLoop_saved hseries hsucceeded]
    exact List.append_nil _

/-- A scan that returns 0 has saved what its path is about. -/
theorem acquisition_saved {drvNumber : DrvCode → Nat} {params : AndorParameters}
    {fheaders : FitsHeaders} {xpixels ypixels : Int} {answers : ScanAnswers}
    {imgBuffer : List Int32} {scan : Scan}
    (hscan : getAcquisition drvNumber params fheaders xpixels ypixels answers imgBuffer =
      .ok (some scan))
    (hstatus : scan.status = 0) (hseries : params.acquisitionMode ≠ .kineticSeries) :
    savedExposures scan.events =
      if params.acquisitionMode = .singleScan then [1]
      else List.range' 1 params.numImages.toInt.toNat := by
  rw [getAcquisition] at hscan
  split at hscan
  · rename_i hmode
    obtain ⟨single, hsingle, hscan⟩ := checked_map_eq_ok.mp hscan
    obtain rfl := Option.some.inj hscan
    rw [if_pos hmode]
    exact single_saved hsingle hstatus
  · rename_i hsingle
    rw [if_neg hsingle]
    split at hscan
    · obtain ⟨series, hrta, hscan⟩ := checked_map_eq_ok.mp hscan
      obtain rfl := Option.some.inj hscan
      exact rta_saved hrta hstatus
    · rw [← Option.some.inj (Except.ok.inj hscan)] at hstatus
      cases hstatus

/-- A command that returns 0 has been accepted, set up and scanned. -/
theorem getImage_succeeded {drvNumber : DrvCode → Nat} {setupAnswers : SetupAnswers}
    {answers : ScanAnswers} {command : CommandBuffer} {params : AndorParameters}
    {run : ImageRun}
    (hrun : getImage drvNumber setupAnswers answers command params = .ok (some run))
    (hstatus : run.status = 0) :
    resolveImageParameters command params = .ok ⟨0, run.params⟩ ∧
      ∃ headers width height array data scan,
        getAcquisition drvNumber run.params headers width height answers array =
          .ok (some scan) ∧
        scan.status = 0 ∧ run.events = allocation data ++ scan.events ++ deletion data := by
  rcases getImage_cases hrun with ⟨status, -, -, hone, -⟩ | ⟨hreply, setup, data, -, hrest⟩
  · rw [hone] at hstatus
    cases hstatus
  · rcases hrest with ⟨-, htwo, -⟩ |
      ⟨-, width, height, array, scan, -, -, hscan, hfinal, hevents⟩
    · rw [htwo] at hstatus
      cases hstatus
    · have hreturned : scan.status = 0 := by
        by_contra hfailed
        rw [hfinal, if_pos hfailed] at hstatus
        cases hstatus
      exact ⟨hreply, setup.headers, width, height, array, data, scan, hscan, hreturned, hevents⟩

theorem requested_eq_some {params next : AndorParameters} {command : Command}
    (hrequested : requested params command = some next) :
    handlerOf command.buffer = .getImage ∧
      resolveImageParameters command.buffer params = .ok ⟨0, next⟩ := by
  unfold requested parserReply at hrequested
  cases hhandler : handlerOf command.buffer with
  | getImage =>
      simp only [hhandler] at hrequested
      cases hreply : resolveImageParameters command.buffer params with
      | error fault =>
          rw [hreply] at hrequested
          cases hrequested
      | ok reply =>
          rw [hreply] at hrequested
          dsimp only at hrequested
          split at hrequested
          · rename_i hstatus
            rw [← hstatus, ← Option.some.inj hrequested]
            exact ⟨rfl, rfl⟩
          · cases hrequested
  | _ =>
      simp only [hhandler] at hrequested
      cases hrequested

/-- In a session whose commands stay within their memory, `get_acquisition` is entered with
members that follow the choice of the commands.  When the `--nimages` read last was accepted
there is an image to take, and unless an `acqmode=` came after it, a single scan is made for
one image only; a command that succeeds without a kinetic series saves every image. -/
theorem acquisition_follows_choice (memory : List UInt8) {commands : List Command}
    {command : Command} {params next : AndorParameters}
    (hwithin : ∀ earlier ∈ commands ++ [command], earlier.StaysWithin)
    (hrun : Runs.run step (AndorParameters.initial memory) commands = some params)
    (hrequested : requested params command = some next) :
    let choice := (commands ++ [command]).foldl Command.choice .start
    (∀ mode, choice.mode = some mode → next.acquisitionMode = mode) ∧
      (choice.refused = false →
        1 ≤ next.numImages ∧
        (choice.mode = none → (next.acquisitionMode = .singleScan ↔ next.numImages = 1) ∧
          ∀ drvNumber setupAnswers answers run,
            getImage drvNumber setupAnswers answers command.buffer params = .ok (some run) →
            run.status = 0 → next.acquisitionMode ≠ .kineticSeries →
            savedExposures run.events = List.range' 1 next.numImages.toInt.toNat)) := by
  intro choice
  have hbefore : ∀ earlier ∈ commands, earlier.StaysWithin := fun earlier hearlier =>
    hwithin earlier (List.mem_append_left _ hearlier)
  obtain ⟨hready, hfollows⟩ := run_follows (ready_initial memory) (follows_initial memory)
    hbefore hrun
  obtain ⟨hhandler, hreply⟩ := requested_eq_some hrequested
  have hserve : serve params command = .ok next := by
    rw [serve, parserReply, hhandler]
    dsimp only
    rw [hreply]
  have hnext : Follows choice next := by
    have hlast := serve_follows hready
      (hwithin command (List.mem_append_right _ List.mem_cons_self)) hfollows hserve
    simp only [choice, List.foldl_append]
    exact hlast
  refine ⟨hnext.mode, fun hrefused => ⟨hnext.numImages hrefused, fun hmode => ?_⟩⟩
  refine ⟨hnext.single hrefused hmode, ?_⟩
  intro drvNumber setupAnswers answers run hrun hstatus hseries
  obtain ⟨haccepted, headers, width, height, array, data, scan, hscan, hreturned, hevents⟩ :=
    getImage_succeeded hrun hstatus
  obtain ⟨-, rfl⟩ := Reply.mk.inj (Except.ok.inj (hreply.symm.trans haccepted))
  have hallocation : savedExposures (allocation data) = [] ∧
      savedExposures (deletion data) = [] := by
    cases data with
    | none => exact ⟨rfl, rfl⟩
    | some array => exact ⟨rfl, rfl⟩
  rw [hevents, savedExposures_append, savedExposures_append, hallocation.1, hallocation.2,
    List.nil_append, List.append_nil, acquisition_saved hscan hreturned hseries]
  split
  · rename_i hsingle
    rw [(hnext.single hrefused hmode).mp hsingle]
    rfl
  · rfl

def threeImages : Command :=
  ⟨ascii "image --nimages 3", by decide, fun _ => willingCamera⟩

def singleMode : Command :=
  ⟨ascii "setparam acqmode=1", by decide, fun _ => willingCamera⟩

def plainImage : Command := ⟨ascii "image", by decide, fun _ => willingCamera⟩

/-- What a session hands to its last command, with the two members. -/
theorem exists_of_session {commands : List Command} {numImages : Int32}
    {mode : AcquisitionMode}
    (hsession : ((Runs.run step (AndorParameters.initial []) commands).bind fun params =>
      requested params plainImage).map (fun next => (next.numImages, next.acquisitionMode)) =
        some (numImages, mode)) :
    ∃ params next, Runs.run step (AndorParameters.initial []) commands = some params ∧
      requested params plainImage = some next ∧ next.numImages = numImages ∧
      next.acquisitionMode = mode := by
  obtain ⟨next, hnext, hmembers⟩ := Option.map_eq_some_iff.mp hsession
  obtain ⟨params, hrun, hrequested⟩ := Option.bind_eq_some_iff.mp hnext
  obtain ⟨hcount, hmode⟩ := Prod.mk.inj hmembers
  exact ⟨params, next, hrun, hrequested, hcount, hmode⟩

theorem three_images_follow_choice :
    ∃ params next,
      Runs.run step (AndorParameters.initial []) [threeImages] = some params ∧
      requested params plainImage = some next ∧ 1 ≤ next.numImages ∧
      (next.acquisitionMode = .singleScan ↔ next.numImages = 1) := by
  have hsession : ((Runs.run step (AndorParameters.initial []) [threeImages]).bind
      fun params => requested params plainImage).map
        (fun next => (next.numImages, next.acquisitionMode)) = some (3, .runTillAbort) := by
    decide +kernel
  have hwithin : ∀ earlier ∈ [threeImages] ++ [plainImage], earlier.StaysWithin := by
    intro earlier hearlier
    rcases List.mem_pair.mp hearlier with rfl | rfl
    · exact ⟨[.numImages, .acquisitionMode, .saveDir], by decide +kernel⟩
    · exact ⟨[.saveDir], by decide +kernel⟩
  have hchoice : ([threeImages] ++ [plainImage]).foldl Command.choice .start = .start := by
    decide +kernel
  obtain ⟨params, next, hrun, hrequested, -⟩ := exists_of_session hsession
  obtain ⟨-, hcoupled⟩ := acquisition_follows_choice [] hwithin hrun hrequested
  rw [hchoice] at hcoupled
  obtain ⟨hcount, hsingle⟩ := hcoupled rfl
  exact ⟨params, next, hrun, hrequested, hcount, (hsingle rfl).1⟩

/-- The mode is set back to a single scan, with three images left to take. -/
theorem acqmode_decouples_members :
    ¬ ∀ (memory : List UInt8) (commands : List Command) (command : Command)
      (params next : AndorParameters),
      Runs.run step (AndorParameters.initial memory) commands = some params →
      requested params command = some next →
      1 ≤ next.numImages ∧ (next.acquisitionMode = .singleScan ↔ next.numImages = 1) := by
  intro hcoupled
  have hsession : ((Runs.run step (AndorParameters.initial []) [threeImages, singleMode]).bind
      fun params => requested params plainImage).map
        (fun next => (next.numImages, next.acquisitionMode)) = some (3, .singleScan) := by
    decide +kernel
  obtain ⟨params, next, hrun, hrequested, hcount, hmode⟩ := exists_of_session hsession
  have hone := (hcoupled [] _ _ params next hrun hrequested).2.mp hmode
  rw [hcount] at hone
  exact absurd hone (by decide)

end Acquisition

end Andor2k
