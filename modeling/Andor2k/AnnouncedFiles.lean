/-
What a client is told of files, and the files there are.  save_as_fits announces every file it
has written; a kinetic series writes its files without a word.
-/
import Andor2k.Archive
import Andor2k.MessageRoom

namespace Andor2k

open CText

def announcement : Text := ascii "info:image saved to FITS;status:FITS file created "

/-- The file a message announces. -/
def announcedFile (message : Text) : Option Text :=
  if startsWith message announcement then some (message.drop announcement.length) else none

def announcedFiles (messages : List Text) : List Text := messages.filterMap announcedFile

theorem announcedFiles_append (first second : List Text) :
    announcedFiles (first ++ second) = announcedFiles first ++ announcedFiles second :=
  List.filterMap_append

theorem announcedFiles_singleton {message : Text} (hmessage : announcedFile message = none) :
    announcedFiles [message] = [] :=
  List.filterMap_cons_none hmessage

theorem announcedFile_of_announcement (path : Text) :
    announcedFile (announcement ++ path) = some path := by
  rw [announcedFile, if_pos (startsWith_iff.mpr (List.prefix_append _ _)), List.drop_left]

namespace Acquisition

/-- The files the client is told of on the way. -/
def toldFiles (events : List ScanEvent) : List Text :=
  announcedFiles (sentMessages (events.map .image))

theorem toldFiles_append (first second : List ScanEvent) :
    toldFiles (first ++ second) = toldFiles first ++ toldFiles second := by
  rw [toldFiles, List.map_append, sentMessages_append, announcedFiles_append]
  rfl

/-- A message that ends the conversation about an image announces no file. -/
theorem announcedFile_of_done {message : Text} (hdone : isDone (.sent message) = true) :
    announcedFile message = none := by
  obtain ⟨rest, rfl⟩ := startsWith_iff.mp hdone
  rfl

/-- The client is told of the files that are written, in their order. -/
def TellsFiles (events : List ScanEvent) : Prop :=
  toldFiles events = (writtenFiles events).map Prod.fst

theorem TellsFiles.nil : TellsFiles [] := rfl

theorem TellsFiles.append {first second : List ScanEvent} (hfirst : TellsFiles first)
    (hsecond : TellsFiles second) : TellsFiles (first ++ second) := by
  rw [TellsFiles, toldFiles_append, writtenFiles_append, List.map_append, hfirst, hsecond]

theorem TellsFiles.cons {event : ScanEvent} {later : List ScanEvent}
    (hevent : TellsFiles [event]) (hlater : TellsFiles later) : TellsFiles (event :: later) :=
  hevent.append hlater

theorem TellsFiles.sent {message : Text} (hmessage : announcedFile message = none) :
    TellsFiles [.sent message] :=
  announcedFiles_singleton hmessage

theorem TellsFiles.done {message : Text} (hdone : isDone (.sent message) = true) :
    TellsFiles [.sent message] := .sent (announcedFile_of_done hdone)

theorem TellsFiles.map {report : Text → ScanEvent} (hreport : ∀ text, TellsFiles [report text])
    (reports : List Text) : TellsFiles (reports.map report) := by
  induction reports with
  | nil => exact .nil
  | cons text later ih => exact .cons (hreport text) ih

section Scans

variable {drvNumber : DrvCode → Nat} {params : AndorParameters} {fheaders : FitsHeaders}
  {xpixels ypixels : Int} {imgBuffer : List Int32}

theorem saveImage_tells {file : FileAnswers} {exposure : Nat} {saved : SavedExposure}
    {saving : List ScanEvent}
    (hsaved : saveImage params fheaders xpixels ypixels file exposure imgBuffer =
      .ok (saved, saving)) : TellsFiles saving := by
  obtain ⟨written, hwritten, hrest⟩ := checked_bind_eq_ok.mp hsaved
  obtain ⟨rfl, rfl⟩ := Prod.mk.inj (Except.ok.inj hrest)
  rcases saveAsFits_cases hwritten with rfl |
    ⟨filename, fits, status, image, -, hwrite, ⟨-, rfl⟩ | ⟨rfl, rfl⟩⟩
  · exact .cons rfl (.sent rfl)
  · exact .cons rfl (.sent rfl)
  · obtain ⟨image, rfl⟩ := Option.isSome_iff_exists.mp (FitsImage.image_of_write_zero hwrite)
    change announcedFiles [announcement ++ filename] = [filename]
    rw [announcedFiles, List.filterMap_cons_some (announcedFile_of_announcement filename)]
    rfl

theorem singleScan_tells {answers : SingleAnswers} {scan : Scan}
    (hscan : getSingleScan drvNumber params fheaders xpixels ypixels answers imgBuffer =
      .ok scan) : TellsFiles scan.events := by
  have hreported : TellsFiles (.startAcquisition :: answers.reports.map singleReport) :=
    .cons rfl (.map (fun _ => .sent rfl) answers.reports)
  rcases getSingleScan_cases hscan with ⟨-, message, hdone, rfl⟩ |
    ⟨-, -, message, hdone, rfl⟩ | ⟨-, -, size, -, ⟨-, message, hdone, rfl⟩ |
      ⟨-, filled, saved, saving, message, -, hsaved, hdone, rfl⟩⟩
  · exact .cons rfl (.cons (.done hdone) (.cons rfl .nil))
  · exact hreported.append (.cons rfl (.done hdone))
  · exact hreported.append (.cons rfl (.cons rfl (.done hdone)))
  · have hsaving := saveImage_tells hsaved
    have hacquired : TellsFiles [.retrieved .acquiredData size,
        .sent (ascii "info:image data acquired;status:saving to FITS ...;image:1/1")] :=
      .cons rfl (.sent rfl)
    split
    · exact (hreported.append hacquired).append hsaving
    · exact ((hreported.append hacquired).append hsaving).append (.done hdone)

theorem rtaTurn_tells {turn : RtaTurn} {curImgInSeries : Nat} {image : Scan}
    {filled : List Int32}
    (himage : rtaTurn drvNumber params fheaders xpixels ypixels turn curImgInSeries imgBuffer =
      .ok (image, filled)) : TellsFiles image.events := by
  rcases rtaTurn_cases himage with ⟨-, -, message, hdone, rfl⟩ |
    ⟨-, -, size, -, ⟨-, -, message, hdone, rfl⟩ | ⟨-, saved, saving, -, hsaved, rfl⟩⟩
  · exact .cons rfl (.done hdone)
  · exact .cons rfl (.cons rfl (.done hdone))
  · have hsaving := saveImage_tells hsaved
    split
    · exact .cons rfl (hsaving.append rfl)
    · exact .cons rfl hsaving

theorem rtaLoop_tells {turns : Nat → RtaTurn} {left curimg : Nat} {series : Scan}
    (hseries : rtaLoop drvNumber params fheaders xpixels ypixels turns left curimg imgBuffer =
      .ok series) : TellsFiles series.events := by
  induction left generalizing curimg imgBuffer series with
  | zero =>
      rw [← Except.ok.inj hseries]
      exact .nil
  | succ left ih =>
      obtain ⟨⟨image, filled⟩, himage, hseries⟩ := checked_bind_eq_ok.mp hseries
      have hfirst := rtaTurn_tells himage
      dsimp only at hseries
      split at hseries
      · rw [← Except.ok.inj hseries]
        exact hfirst
      · obtain ⟨later, hlater, hseries⟩ := checked_bind_eq_ok.mp hseries
        rw [← Except.ok.inj hseries]
        exact hfirst.append (ih hlater)

theorem rtaScan_tells {answers : RtaAnswers} {scan : Scan}
    (hscan : getRtaScan drvNumber params fheaders xpixels ypixels answers imgBuffer =
      .ok scan) : TellsFiles scan.events := by
  have hreported : TellsFiles (.startAcquisition :: answers.reports.map seriesReport) :=
    .cons rfl (.map (fun _ => .sent rfl) answers.reports)
  rcases getRtaScan_cases hscan with ⟨-, message, hdone, rfl⟩ |
    ⟨-, series, hseries, ⟨-, rfl⟩ | ⟨-, message, hdone, rfl⟩⟩
  · exact .cons rfl (.cons (.done hdone) (.cons rfl .nil))
  · exact hreported.append (rtaLoop_tells hseries)
  · exact (hreported.append (rtaLoop_tells hseries)).append (.cons (.done hdone) rfl)

/-- The client is told of no file. -/
def TellsNone (events : List ScanEvent) : Prop := toldFiles events = []

theorem TellsNone.append {first second : List ScanEvent} (hfirst : TellsNone first)
    (hsecond : TellsNone second) : TellsNone (first ++ second) := by
  rw [TellsNone, toldFiles_append, hfirst, hsecond]
  rfl

theorem TellsNone.cons {event : ScanEvent} {later : List ScanEvent}
    (hevent : TellsNone [event]) (hlater : TellsNone later) : TellsNone (event :: later) :=
  hevent.append hlater

theorem TellsNone.done {message : Text} (hdone : isDone (.sent message) = true) :
    TellsNone [.sent message] :=
  announcedFiles_singleton (announcedFile_of_done hdone)

theorem kineticTurn_tellsNone {turn : KineticTurn} {image : Scan} {filled : List Int32}
    (himage : kineticTurn drvNumber params fheaders xpixels ypixels turn imgBuffer =
      .ok (image, filled)) : TellsNone image.events := by
  have hreported : TellsNone (turn.reports.map threadReport) := by
    induction turn.reports with
    | nil => rfl
    | cons report later ih => exact .cons rfl ih
  rcases kineticTurn_cases himage with ⟨-, -, rfl⟩ | ⟨-, ⟨-, -, rfl⟩ | ⟨-, size, -, hdata⟩⟩
  · exact hreported
  · exact hreported.append rfl
  · rcases hdata with ⟨-, -, message, hdone, rfl⟩ | ⟨-, saved, -, hsaved, rfl⟩
    · exact hreported.append (.cons rfl (.cons rfl (.done hdone)))
    · refine hreported.append (.cons rfl ?_)
      rcases saveKineticImage_cases hsaved with ⟨-, rfl⟩ |
        ⟨fitsFilename, filename, fits, status, written, -, -, -, ⟨-, rfl⟩ | ⟨-, rfl⟩⟩
      · rfl
      · rfl
      · rfl

theorem kineticLoop_tellsNone {turns : List KineticTurn} {lAcquired : Int32} {series : Scan}
    (hseries : kineticLoop drvNumber params fheaders xpixels ypixels turns lAcquired imgBuffer =
      .ok (some series)) : TellsNone series.events := by
  induction turns generalizing lAcquired imgBuffer series with
  | nil =>
      rw [kineticLoop] at hseries
      split at hseries
      · rw [← Option.some.inj (Except.ok.inj hseries)]
        rfl
      · cases hseries
  | cons turn later ih =>
      by_cases hall : params.numImages ≤ lAcquired
      · rw [kineticLoop, if_pos hall] at hseries
        rw [← Option.some.inj (Except.ok.inj hseries)]
        rfl
      · obtain ⟨image, filled, himage, hrest⟩ := kineticLoop_cons hall hseries
        have hfirst := kineticTurn_tellsNone himage
        rcases hrest with ⟨-, rfl⟩ | ⟨-, rest, hnext, rfl⟩
        · exact hfirst
        · exact hfirst.append (ih hnext)

/-- The files of a scan that the client is told of: all, or those of a kinetic series not. -/
theorem acquisition_tells {answers : ScanAnswers} {scan : Scan}
    (hscan : getAcquisition drvNumber params fheaders xpixels ypixels answers imgBuffer =
      .ok (some scan)) :
    toldFiles scan.events = if params.acquisitionMode = .kineticSeries then []
      else (writtenFiles scan.events).map Prod.fst := by
  rw [getAcquisition] at hscan
  split at hscan
  · rename_i hmode
    rw [if_neg (by rw [hmode]; decide)]
    obtain ⟨single, hsingle, hscan⟩ := checked_map_eq_ok.mp hscan
    rw [← Option.some.inj hscan]
    exact singleScan_tells hsingle
  · split at hscan
    · rename_i hmode
      rw [if_neg (by rw [hmode]; decide)]
      obtain ⟨series, hseries, hscan⟩ := checked_map_eq_ok.mp hscan
      rw [← Option.some.inj hscan]
      exact rtaScan_tells hseries
    · split at hscan
      · rename_i hmode
        rw [if_pos hmode]
        obtain ⟨series, hseries, hscan⟩ := checked_bind_eq_ok.mp hscan
        obtain ⟨loop, rfl, rfl⟩ := Option.map_eq_some_iff.mp (Except.ok.inj hscan)
        exact TellsNone.cons rfl (kineticLoop_tellsNone hseries)
      · rename_i hmode
        rw [if_neg hmode, ← Option.some.inj (Except.ok.inj hscan)]
        rfl

end Scans

/-- What the client is to be told of an image command. -/
def ImageRun.announced (run : ImageRun) : List Text :=
  if run.params.acquisitionMode = .kineticSeries then []
  else (writtenFiles run.events).map Prod.fst

theorem getImage_tells {drvNumber : DrvCode → Nat} {setupAnswers : SetupAnswers}
    {answers : ScanAnswers} {command : CommandBuffer} {params : AndorParameters} {run : ImageRun}
    (hrun : getImage drvNumber setupAnswers answers command params = .ok (some run)) :
    toldFiles run.events = run.announced := by
  have haround : ∀ data, toldFiles (allocation data) = [] ∧ writtenFiles (allocation data) = [] ∧
      toldFiles (deletion data) = [] ∧ writtenFiles (deletion data) = [] := by
    rintro (_ | array)
    · exact ⟨rfl, rfl, rfl, rfl⟩
    · exact ⟨rfl, rfl, rfl, rfl⟩
  rw [ImageRun.announced]
  rcases getImage_cases hrun with ⟨status, -, -, -, hevents⟩ |
    ⟨-, setup, data, -, ⟨-, -, hevents⟩ |
      ⟨-, width, height, array, scan, -, -, hscan, -, hevents⟩⟩
  · rw [hevents]
    exact (ite_self []).symm
  · obtain ⟨htoldFirst, hfirst, htoldLast, hlast⟩ := haround data
    rw [hevents, toldFiles_append, writtenFiles_append, htoldFirst, hfirst, htoldLast, hlast]
    exact (ite_self []).symm
  · obtain ⟨htoldFirst, hfirst, htoldLast, hlast⟩ := haround data
    rw [hevents, toldFiles_append, toldFiles_append, writtenFiles_append, writtenFiles_append,
      htoldFirst, hfirst, htoldLast, hlast, acquisition_tells hscan]
    simp only [List.nil_append, List.append_nil]

end Acquisition

section Conversations

variable {drvNumber : DrvCode → Nat} {params : AndorParameters}

/-- The run of one message that is an image command and comes to its end. -/
def imageRun (drvNumber : DrvCode → Nat) (received : Received) (params : AndorParameters) :
    List Acquisition.ImageRun :=
  if handlerOf received.command.buffer = .getImage then
    (Acquisition.getImage drvNumber received.answers.setup received.answers.scan
      received.command.buffer params).toOption.join.toList
  else []

/-- The runs of the image commands of a conversation. -/
def imageRuns (drvNumber : DrvCode → Nat) :
    List Received → AndorParameters → List Acquisition.ImageRun
  | [], _ => []
  | received :: later, params =>
      if received.command.message.length < 1 then []
      else
        match resolveCommand drvNumber received params with
        | .ok (some served) =>
            imageRun drvNumber received params ++
              if served.status = -100 then [] else imageRuns drvNumber later served.params
        | _ => []

/-- No file is announced. -/
def Unannounced (events : List DaemonEvent) : Prop := announcedFiles (sentMessages events) = []

theorem Unannounced.append {first second : List DaemonEvent} (hfirst : Unannounced first)
    (hsecond : Unannounced second) : Unannounced (first ++ second) := by
  rw [Unannounced, sentMessages_append, announcedFiles_append, hfirst, hsecond]
  rfl

theorem Unannounced.cons {event : DaemonEvent} {later : List DaemonEvent}
    (hevent : Unannounced [event]) (hlater : Unannounced later) : Unannounced (event :: later) :=
  hevent.append hlater

theorem unannounced_tell (socket : Bool) {message : Text}
    (hmessage : announcedFile message = none) : Unannounced (tell socket message) := by
  cases socket with
  | false => rfl
  | true => exact announcedFiles_singleton hmessage

theorem coolingLoop_unannounced {socket : Bool} {readings : List CoolingReading}
    {wait : Procedure} (hwait : coolingLoop drvNumber socket readings = some wait) :
    Unannounced wait.events := by
  induction readings generalizing wait with
  | nil => cases hwait
  | cons reading later ih =>
      rw [coolingLoop] at hwait
      dsimp only at hwait
      split at hwait
      · rw [← Option.some.inj hwait]
        exact .cons rfl (unannounced_tell socket rfl)
      · split at hwait
        · rw [← Option.some.inj hwait]
          exact .cons rfl (unannounced_tell socket rfl)
        · have hreport : Unannounced (.celsius reading.currentTemp ::
              tell socket (ascii "ctemp:" ++ printTemp reading.currentTemp ++ ascii ";status:" ++
                getTemperatureString reading.status ++ ascii " (" ++
                decimal (drvNumber reading.status) ++ ascii ")") ++
              [.elapsed reading.elapsed]) :=
            .append (.cons rfl (unannounced_tell socket rfl)) rfl
          split at hwait
          · rw [← Option.some.inj hwait]
            exact hreport.append (unannounced_tell socket rfl)
          · obtain ⟨rest, hrest, rfl⟩ := Option.map_eq_some_iff.mp hwait
            exact hreport.append (ih hrest)

theorem coolToTemperature_unannounced {socket : Bool} {tempC : Int32} {answers : CoolingAnswers}
    {procedure : Procedure}
    (hcool : coolToTemperature drvNumber socket tempC answers = some procedure) :
    Unannounced procedure.events := by
  have hstart : Unannounced (.celsius answers.currentTemp ::
      tell socket (ascii "ctemp:" ++ printTemp answers.currentTemp ++
        ascii ";status:got current camera temperature") ++ [.setTemperature tempC]) :=
    .append (.cons rfl (unannounced_tell socket rfl)) rfl
  rw [coolToTemperature] at hcool
  split at hcool
  · rw [← Option.some.inj hcool]
    exact hstart.append (unannounced_tell socket rfl)
  · split at hcool
    · rw [← Option.some.inj hcool]
      exact hstart.append (.cons rfl (unannounced_tell socket rfl))
    · obtain ⟨wait, hwait, rfl⟩ := Option.map_eq_some_iff.mp hcool
      exact hstart.append (.cons rfl (coolingLoop_unannounced hwait))

/-- Only an image command tells the client of files. -/
theorem resolveCommand_tells {received : Received} {served : Served}
    (hserved : resolveCommand drvNumber received params = .ok (some served)) :
    announcedFiles (sentMessages served.events) =
      (imageRun drvNumber received params).flatMap Acquisition.ImageRun.announced := by
  rw [imageRun]
  unfold resolveCommand at hserved
  cases hhandler : handlerOf received.command.buffer with
  | setTemperature =>
      simp only [hhandler] at hserved
      obtain ⟨found, hset, hserved⟩ := checked_map_eq_ok.mp hserved
      obtain ⟨procedure, rfl, rfl⟩ := Option.map_eq_some_iff.mp hserved
      rcases setTemperature_cases hset with rfl | ⟨targetTemp, hcool⟩
      · rfl
      · exact coolToTemperature_unannounced hcool
  | printStatus =>
      simp only [hhandler, Except.ok.injEq, Option.some.injEq] at hserved
      subst served
      rfl
  | getImage =>
      simp only [hhandler] at hserved
      obtain ⟨found, hrun, hserved⟩ := checked_map_eq_ok.mp hserved
      obtain ⟨run, rfl, rfl⟩ := Option.map_eq_some_iff.mp hserved
      rw [if_pos rfl, hrun]
      exact (Acquisition.getImage_tells hrun).trans (List.append_nil _).symm
  | setParamValue =>
      simp only [hhandler] at hserved
      obtain ⟨reply, -, hserved⟩ := checked_map_eq_ok.mp hserved
      obtain rfl := Option.some.inj hserved
      rfl
  | shutdown | abort =>
      simp only [hhandler, Except.ok.injEq, Option.some.injEq] at hserved
      subst served
      rfl
  | unknown =>
      simp only [hhandler] at hserved
      obtain ⟨text, -, hserved⟩ := checked_map_eq_ok.mp hserved
      obtain rfl := Option.some.inj hserved
      rfl

/-- In a conversation the client is told of the files of its single exposures and of its series
that run till they are aborted: of each that has been written, in their order, and of no other.
Of the files of a kinetic series it is told nothing. -/
theorem announced_files_are_written {conversation : List Received} {run : ChatRun}
    (hchat : chat drvNumber conversation params = .ok run) :
    announcedFiles (sentMessages run.events) =
      (imageRuns drvNumber conversation params).flatMap Acquisition.ImageRun.announced := by
  induction conversation generalizing params run with
  | nil =>
      rw [← Except.ok.inj hchat]
      rfl
  | cons received later ih =>
      rw [chat] at hchat
      rw [imageRuns]
      split at hchat
      · rename_i hclosed
        rw [← Except.ok.inj hchat, if_pos hclosed]
        rfl
      · rename_i hopen
        rw [if_neg hopen]
        obtain ⟨found, hserved, hchat⟩ := checked_bind_eq_ok.mp hchat
        rw [hserved]
        cases found with
        | none =>
            rw [← Except.ok.inj hchat]
            rfl
        | some served =>
            have hround := resolveCommand_tells hserved
            dsimp only at hchat ⊢
            split at hchat
            · rename_i hlast
              rw [← Except.ok.inj hchat, if_pos hlast, List.append_nil]
              exact hround
            · rename_i hmore
              obtain ⟨rest, hrest, hchat⟩ := checked_bind_eq_ok.mp hchat
              rw [← Except.ok.inj hchat, if_neg hmore, List.flatMap_append, ← ih hrest, ← hround,
                ← announcedFiles_append, ← sentMessages_append]
              rfl

end Conversations

theorem talkativeClient_is_told :
    ∃ run, chat (fun _ => 20002) talkativeClient (AndorParameters.initial []) = .ok run ∧
      (sentMessages run.events).length = 9 ∧
      announcedFiles (sentMessages run.events) =
        (imageRuns (fun _ => 20002) talkativeClient (AndorParameters.initial [])).flatMap
          Acquisition.ImageRun.announced := by
  obtain ⟨run, hrun, hlength⟩ := talkativeClient_hears
  exact ⟨run, hrun, hlength, announced_files_are_written hrun⟩

end Andor2k
