/-
How the percentages of one image go on, over every run of the polling loops of
AcquisitionReporter::report and AcquisitionSeriesReporter::report.
-/
import Mathlib.Data.List.Induction
import Andor2k.ProgressReports

namespace Andor2k

open CText

/-- The image a message is on; a single exposure is `image 1/1`. -/
def ProgressText.image : ProgressText → Int
  | .done => 1
  | .exposing => 1
  | .acquired curImg _ => curImg
  | .acquiring curImg _ => curImg
  | .seriesAcquired curImg _ => curImg

def SentProgress.image (progress : SentProgress) : Int := progress.message.text.image

def SentProgress.percent (progress : SentProgress) : Int := progress.message.progperc

/-- The values of one image are percentages, none of them below an earlier one. -/
structure SteadyProgress (sent : List SentProgress) : Prop where
  range : ∀ progress ∈ sent, 0 ≤ progress.percent ∧ progress.percent ≤ 100
  sorted : sent.Pairwise fun earlier later =>
    earlier.image = later.image → earlier.percent ≤ later.percent

theorem SteadyProgress.nil : SteadyProgress [] := ⟨List.forall_mem_nil _, List.Pairwise.nil⟩

theorem SteadyProgress.concat {sent : List SentProgress} {progress : SentProgress}
    (hsteady : SteadyProgress sent) (hrange : 0 ≤ progress.percent ∧ progress.percent ≤ 100)
    (hsorted : ∀ earlier ∈ sent, earlier.image = progress.image →
      earlier.percent ≤ progress.percent) : SteadyProgress (sent ++ [progress]) := by
  constructor
  · intro sentProgress hsent
    rcases List.mem_append.mp hsent with hearlier | hlast
    · exact hsteady.range sentProgress hearlier
    · obtain rfl := List.mem_singleton.mp hlast
      exact hrange
  · refine List.pairwise_append.mpr ⟨hsteady.sorted, List.pairwise_singleton _ _, ?_⟩
    intro earlier hearlier later hlater
    obtain rfl := List.mem_singleton.mp hlater
    exact hsorted earlier hearlier

/-- The percentage before it is put into an `int`. -/
def wholePercent (elapsed whole : Int) : Int := (elapsed * 100).tdiv whole

/-- Less than 101 hundredths of the whole are over. -/
def InTime (elapsed whole : Int) : Prop := 0 < whole ∧ elapsed * 100 < 101 * whole

theorem wholePercent_range {elapsed whole : Int} (helapsed : 0 ≤ elapsed)
    (hinTime : InTime elapsed whole) :
    0 ≤ wholePercent elapsed whole ∧ wholePercent elapsed whole ≤ 100 := by
  obtain ⟨hwhole, hless⟩ := hinTime
  have hnonneg : 0 ≤ elapsed * 100 := by omega
  constructor
  · exact Int.tdiv_nonneg hnonneg (Int.le_of_lt hwhole)
  · rw [wholePercent, Int.tdiv_eq_ediv_of_nonneg hnonneg]
    have hbelow : elapsed * 100 / whole < 101 := Int.ediv_lt_of_lt_mul hwhole hless
    omega

theorem percentDone_of_range {elapsed whole : Int} (hwhole : 0 < whole)
    (hrange : 0 ≤ wholePercent elapsed whole ∧ wholePercent elapsed whole ≤ 100) :
    percentDone elapsed whole = .ok (wholePercent elapsed whole) := by
  have hbmod : (wholePercent elapsed whole).bmod (2 ^ 32) = wholePercent elapsed whole := by
    rw [Int.bmod_def]
    omega
  rw [percentDone, if_neg (Int.ne_of_gt hwhole)]
  exact congrArg Except.ok hbmod

/-- A percentage in time is not changed by the `int`. -/
theorem percent_of_inTime {elapsed whole value : Int} (helapsed : 0 ≤ elapsed)
    (hinTime : InTime elapsed whole) (hpercent : percentDone elapsed whole = .ok value) :
    value = wholePercent elapsed whole ∧ 0 ≤ value ∧ value ≤ 100 := by
  have hrange := wholePercent_range helapsed hinTime
  obtain rfl := Except.ok.inj (hpercent.symm.trans (percentDone_of_range hinTime.1 hrange))
  exact ⟨rfl, hrange⟩

theorem durationMs_mono {first second : Int} (hle : first ≤ second) :
    durationMs first ≤ durationMs second :=
  Int.tdiv_le_tdiv (by decide) hle

theorem durationMs_nonneg {nanoseconds : Int} (hnonneg : 0 ≤ nanoseconds) :
    0 ≤ durationMs nanoseconds :=
  Int.tdiv_nonneg hnonneg (by decide)

theorem wholePercent_mono {first second whole : Int} (hwhole : 0 < whole) (hle : first ≤ second) :
    wholePercent first whole ≤ wholePercent second whole :=
  Int.tdiv_le_tdiv hwhole (by omega)

namespace AcquisitionReporter

variable {reporter : AcquisitionReporter}

/-- The message is sent before the exposure is over by more than its hundredth part; a bias
image has no messages. -/
def TurnFits (reporter : AcquisitionReporter) (turn : PollTurn) : Prop :=
  reporter.exposureMs ≠ 0 →
    InTime (durationMs (turn.now - reporter.seriesStart)) reporter.exposureMs

/-- The readings of the clock, from the start on. -/
def clockReadings (reporter : AcquisitionReporter) (turns : List PollTurn) : List Int :=
  reporter.seriesStart :: turns.map PollTurn.now

theorem loop_steady {turns : List PollTurn} {state final : Int} {sent : List SentProgress}
    (hclock : (reporter.clockReadings turns).Pairwise (· ≤ ·))
    (hinTime : ∀ turn ∈ turns,
      InTime (durationMs (turn.now - reporter.seriesStart)) reporter.exposureMs)
    (hloop : pollingLoop reporter.poll state turns = .ok (final, sent)) :
    SteadyProgress sent ∧ ∀ progress ∈ sent, ∃ turn ∈ turns, progress.percent =
      wholePercent (durationMs (turn.now - reporter.seriesStart)) reporter.exposureMs := by
  induction turns using List.reverseRecOn generalizing final sent with
  | nil =>
      cases hloop
      exact ⟨SteadyProgress.nil, List.forall_mem_nil _⟩
  | append_singleton turns last ih =>
      obtain ⟨mid, before, after, hbefore, hlast, rfl⟩ := pollingLoop_concat.mp hloop
      obtain ⟨message, rfl, hpercent⟩ := poll_eq_ok hlast
      have hreadings : reporter.clockReadings (turns ++ [last]) =
          reporter.clockReadings turns ++ [last.now] := by
        simp [clockReadings]
      rw [hreadings] at hclock
      obtain ⟨hclock, -, hlatest⟩ := List.pairwise_append.mp hclock
      have hlastInTime := hinTime last (List.mem_append_right _ (List.mem_singleton_self _))
      obtain ⟨hsteady, hvalues⟩ := ih hclock
        (fun turn hturn => hinTime turn (List.mem_append_left _ hturn)) hbefore
      have hstart : reporter.seriesStart ≤ last.now :=
        hlatest _ List.mem_cons_self _ (List.mem_singleton_self _)
      obtain ⟨hvalue, hrange⟩ := percent_of_inTime
        (durationMs_nonneg (Int.sub_nonneg_of_le hstart)) hlastInTime hpercent
      constructor
      · refine hsteady.concat hrange ?_
        intro earlier hearlier _
        obtain ⟨turn, hturn, hpast⟩ := hvalues earlier hearlier
        have hnow : turn.now ≤ last.now :=
          hlatest _ (List.mem_cons_of_mem _ (List.mem_map_of_mem hturn)) _
            (List.mem_singleton_self _)
        rw [hpast, SentProgress.percent, hvalue]
        exact wholePercent_mono hlastInTime.1 (durationMs_mono (Int.sub_le_sub_right hnow _))
      · intro progress hprogress
        rcases List.mem_append.mp hprogress with hearlier | hlatest
        · obtain ⟨turn, hturn, hpast⟩ := hvalues progress hearlier
          exact ⟨turn, List.mem_append_left _ hturn, hpast⟩
        · obtain rfl := List.mem_singleton.mp hlatest
          exact ⟨last, List.mem_append_right _ (List.mem_singleton_self _), hvalue⟩

theorem report_steady {turns : List PollTurn} {abortSet : Int} {report : ProgressReport}
    (hclock : (reporter.clockReadings turns).Pairwise (· ≤ ·))
    (hfits : ∀ turn ∈ turns, reporter.TurnFits turn)
    (hreport : reporter.report turns abortSet = .ok report) : SteadyProgress report.sent := by
  unfold AcquisitionReporter.report at hreport
  split at hreport
  · obtain rfl := Except.ok.inj hreport
    exact SteadyProgress.nil
  · rename_i hbias
    obtain ⟨⟨fromSeriesStart, sent⟩, hloop, hrest⟩ := checked_bind_eq_ok.mp hreport
    obtain ⟨imageDone, -, hresult⟩ := checked_bind_eq_ok.mp hrest
    obtain rfl := Except.ok.inj hresult
    exact (loop_steady hclock (fun turn hturn => hfits turn hturn hbias) hloop).1

end AcquisitionReporter

namespace AcquisitionSeriesReporter

variable {reporter : AcquisitionSeriesReporter}

/-- The readings of the clock, from the start on.  A turn that goes on with its image reads the
clock and `cur_img_in_series` only once; its `restart` and `latest` stand for any values between
these and the next. -/
def clockReadings (reporter : AcquisitionSeriesReporter) (turns : List SeriesTurn) : List Int :=
  reporter.seriesStart :: turns.flatMap fun turn => [turn.now, turn.restart]

/-- The values read of `cur_img_in_series`. -/
def imagesRead (turns : List SeriesTurn) : List Int :=
  turns.flatMap fun turn => [turn.current, turn.latest]

/-- What the percentage of a turn is taken of. -/
def turnEstimate (reporter : AcquisitionSeriesReporter) (clock : SeriesClock)
    (turn : SeriesTurn) : Int :=
  reporter.estimatedTimePerImage (nextClock clock turn).curImg

/-- The scan has begun, the image does not last longer than estimated, and the turn that meets
a new image is so early that the percentage is the same from either start. -/
structure TurnFits (reporter : AcquisitionSeriesReporter) (clock : SeriesClock)
    (turn : SeriesTurn) : Prop where
  begun : 1 ≤ turn.current
  inTime : InTime (durationMs (turn.now - clock.curImgStart)) (reporter.turnEstimate clock turn)
  ownStart : clock.curImg ≠ turn.current →
    wholePercent (durationMs (turn.now - (nextClock clock turn).curImgStart))
        (reporter.turnEstimate clock turn) =
      wholePercent (durationMs (turn.now - clock.curImgStart)) (reporter.turnEstimate clock turn)

/-- Every turn fits the image that is counted when it comes. -/
def RunFits (reporter : AcquisitionSeriesReporter) (turns : List SeriesTurn) : Prop :=
  ∀ before turn after, turns = before ++ turn :: after →
    reporter.TurnFits (reporter.clockAfter before) turn

/-- The value a turn ends with is that of the image it is on, from the start of that image. -/
def FromOwnStart (reporter : AcquisitionSeriesReporter) (turns : List SeriesTurn) : Prop :=
  ∀ before turn after, turns = before ++ turn :: after →
    ∃ report last, reporter.report (before ++ [turn]) = .ok report ∧
      report.sent.getLast? = some last ∧
      last.image = (reporter.clockAfter (before ++ [turn])).curImg ∧
      percentDone (durationMs (turn.now - (reporter.clockAfter (before ++ [turn])).curImgStart))
          (reporter.estimatedTimePerImage (reporter.clockAfter (before ++ [turn])).curImg) =
        .ok last.percent

theorem acquiredMessage_eq_ok {state : PollState} {turn : SeriesTurn}
    {acquired : List SentProgress}
    (hacquired : reporter.acquiredMessage state turn = .ok acquired) :
    (state.clock.curImg = turn.current ∧ acquired = []) ∨
      (state.clock.curImg ≠ turn.current ∧ ∃ progress, acquired = [progress] ∧
        progress.image = state.clock.curImg ∧ progress.percent = 100) := by
  unfold acquiredMessage at hacquired
  simp only [] at hacquired
  split at hacquired
  · rename_i hchanged
    obtain ⟨seriesDone, -, rfl⟩ := checked_map_eq_ok.mp hacquired
    exact Or.inr ⟨hchanged, _, rfl, rfl, rfl⟩
  · rename_i hsame
    exact Or.inl ⟨not_not.mp hsame, (Except.ok.inj hacquired).symm⟩

/-- The message on the image that is over comes first, then the one on the image that is
counted from now on. -/
theorem poll_messages {state final : PollState} {turn : SeriesTurn} {sent : List SentProgress}
    (hpoll : reporter.poll state turn = .ok (final, sent)) :
    ∃ acquired progress, sent = acquired ++ [progress] ∧
      reporter.acquiredMessage state turn = .ok acquired ∧
      progress.image = (nextClock state.clock turn).curImg ∧
      percentDone (durationMs (turn.now - state.clock.curImgStart))
        (reporter.turnEstimate state.clock turn) = .ok progress.percent := by
  obtain ⟨acquired, hacquired, hrest⟩ := checked_bind_eq_ok.mp hpoll
  obtain ⟨imageDone, hpercent, hrest⟩ := checked_bind_eq_ok.mp hrest
  obtain ⟨seriesDone, -, heq⟩ := checked_bind_eq_ok.mp hrest
  cases heq
  exact ⟨acquired, _, rfl, hacquired, rfl, hpercent⟩

/-- What the loop has sent and where its clock stands after some turns. -/
structure SeriesInv (reporter : AcquisitionSeriesReporter) (turns : List SeriesTurn)
    (clock : SeriesClock) (sent : List SentProgress) : Prop where
  counted : clock.curImg = 1 ∨ clock.curImg ∈ imagesRead turns
  started : ∃ reading ∈ reporter.clockReadings turns, clock.curImgStart ≤ reading
  steady : SteadyProgress sent
  upToCounted : ∀ progress ∈ sent, progress.image ≤ clock.curImg
  reached : ∀ progress ∈ sent, progress.image = clock.curImg →
    ∃ reading ∈ reporter.clockReadings turns, progress.percent ≤
      wholePercent (durationMs (reading - clock.curImgStart))
        (reporter.estimatedTimePerImage clock.curImg)

theorem SeriesInv.start (reporter : AcquisitionSeriesReporter) :
    SeriesInv reporter [] reporter.startClock [] where
  counted := Or.inl rfl
  started := ⟨reporter.seriesStart, List.mem_cons_self, Int.le_refl _⟩
  steady := SteadyProgress.nil
  upToCounted := List.forall_mem_nil _
  reached := List.forall_mem_nil _

theorem clockReadings_append (turns rest : List SeriesTurn) :
    reporter.clockReadings (turns ++ rest) =
      reporter.clockReadings turns ++ rest.flatMap fun turn => [turn.now, turn.restart] := by
  simp [clockReadings]

theorem imagesRead_append (turns rest : List SeriesTurn) :
    imagesRead (turns ++ rest) = imagesRead turns ++ imagesRead rest := by
  simp [imagesRead]

section Step

variable {turns : List SeriesTurn} {turn : SeriesTurn} {clock : SeriesClock}
  {sent : List SentProgress}

theorem clockReadings_concat : reporter.clockReadings (turns ++ [turn]) =
    reporter.clockReadings turns ++ [turn.now, turn.restart] :=
  clockReadings_append turns [turn]

theorem imagesRead_concat :
    imagesRead (turns ++ [turn]) = imagesRead turns ++ [turn.current, turn.latest] :=
  imagesRead_append turns [turn]

theorem nextClock_of_same (hsame : clock.curImg = turn.current) : nextClock clock turn = clock :=
  if_neg (not_not.mpr hsame)

theorem nextClock_of_changed (hchanged : clock.curImg ≠ turn.current) :
    nextClock clock turn = ⟨turn.latest, turn.restart - 100000000⟩ :=
  if_pos hchanged

/-- The counted image is not ahead of the ones that are read. -/
theorem SeriesInv.le_current (hinv : SeriesInv reporter turns clock sent)
    (himages : (imagesRead (turns ++ [turn])).Pairwise (· ≤ ·))
    (hfits : reporter.TurnFits clock turn) : clock.curImg ≤ turn.current := by
  rcases hinv.counted with hfirst | hread
  · rw [hfirst]
    exact hfits.begun
  · rw [imagesRead_concat] at himages
    exact (List.pairwise_append.mp himages).2.2 _ hread _ List.mem_cons_self

theorem SeriesInv.start_le_now (hinv : SeriesInv reporter turns clock sent)
    (hclock : (reporter.clockReadings (turns ++ [turn])).Pairwise (· ≤ ·)) :
    clock.curImgStart ≤ turn.now := by
  obtain ⟨reading, hreading, hstart⟩ := hinv.started
  rw [clockReadings_concat] at hclock
  exact Int.le_trans hstart ((List.pairwise_append.mp hclock).2.2 _ hreading _ List.mem_cons_self)

/-- The value of the message a turn ends with. -/
theorem SeriesInv.percent_eq (hinv : SeriesInv reporter turns clock sent)
    (hclock : (reporter.clockReadings (turns ++ [turn])).Pairwise (· ≤ ·))
    (hfits : reporter.TurnFits clock turn) {value : Int}
    (hpercent : percentDone (durationMs (turn.now - clock.curImgStart))
      (reporter.turnEstimate clock turn) = .ok value) :
    value = wholePercent (durationMs (turn.now - clock.curImgStart))
        (reporter.turnEstimate clock turn) ∧ 0 ≤ value ∧ value ≤ 100 :=
  percent_of_inTime (durationMs_nonneg (Int.sub_nonneg_of_le (hinv.start_le_now hclock)))
    hfits.inTime hpercent

theorem SeriesInv.step_same (hinv : SeriesInv reporter turns clock sent)
    (hclock : (reporter.clockReadings (turns ++ [turn])).Pairwise (· ≤ ·))
    (hfits : reporter.TurnFits clock turn) (hsame : clock.curImg = turn.current)
    {progress : SentProgress} (himage : progress.image = clock.curImg)
    (hpercent : percentDone (durationMs (turn.now - clock.curImgStart))
      (reporter.turnEstimate clock turn) = .ok progress.percent) :
    SeriesInv reporter (turns ++ [turn]) clock (sent ++ [progress]) := by
  obtain ⟨hvalue, hrange⟩ := hinv.percent_eq hclock hfits hpercent
  have hestimate : reporter.turnEstimate clock turn =
      reporter.estimatedTimePerImage clock.curImg := by
    rw [turnEstimate, nextClock_of_same hsame]
  have hwhole := hfits.inTime.1
  rw [hestimate] at hvalue hwhole
  rw [clockReadings_concat] at hclock
  have hlatest := (List.pairwise_append.mp hclock).2.2
  have hbelow : ∀ earlier ∈ sent, earlier.image = progress.image →
      earlier.percent ≤ progress.percent := by
    intro earlier hearlier hsameImage
    obtain ⟨reading, hreading, hreached⟩ :=
      hinv.reached earlier hearlier (hsameImage.trans himage)
    have hnow : reading ≤ turn.now := hlatest reading hreading _ List.mem_cons_self
    rw [hvalue]
    exact Int.le_trans hreached
      (wholePercent_mono hwhole (durationMs_mono (Int.sub_le_sub_right hnow _)))
  constructor
  · rw [imagesRead_concat]
    exact hinv.counted.imp_right (List.mem_append_left _)
  · obtain ⟨reading, hreading, hstart⟩ := hinv.started
    rw [clockReadings_concat]
    exact ⟨reading, List.mem_append_left _ hreading, hstart⟩
  · exact hinv.steady.concat hrange hbelow
  · intro sentProgress hsent
    rcases List.mem_append.mp hsent with hearlier | hlast
    · exact hinv.upToCounted sentProgress hearlier
    · obtain rfl := List.mem_singleton.mp hlast
      exact Int.le_of_eq himage
  · intro sentProgress hsent hcounted
    rw [clockReadings_concat]
    rcases List.mem_append.mp hsent with hearlier | hlast
    · obtain ⟨reading, hreading, hreached⟩ := hinv.reached sentProgress hearlier hcounted
      exact ⟨reading, List.mem_append_left _ hreading, hreached⟩
    · obtain rfl := List.mem_singleton.mp hlast
      exact ⟨turn.now, List.mem_append_right _ List.mem_cons_self, Int.le_of_eq hvalue⟩

/-- The image that is over ends with 100; nothing has been sent on the new one. -/
theorem SeriesInv.step_changed (hinv : SeriesInv reporter turns clock sent)
    (hclock : (reporter.clockReadings (turns ++ [turn])).Pairwise (· ≤ ·))
    (himages : (imagesRead (turns ++ [turn])).Pairwise (· ≤ ·))
    (hfits : reporter.TurnFits clock turn) (hchanged : clock.curImg ≠ turn.current)
    {acquired progress : SentProgress} (hended : acquired.image = clock.curImg)
    (hcomplete : acquired.percent = 100)
    (himage : progress.image = (nextClock clock turn).curImg)
    (hpercent : percentDone (durationMs (turn.now - clock.curImgStart))
      (reporter.turnEstimate clock turn) = .ok progress.percent) :
    SeriesInv reporter (turns ++ [turn]) (nextClock clock turn)
      (sent ++ ([acquired] ++ [progress])) := by
  obtain ⟨hvalue, hrange⟩ := hinv.percent_eq hclock hfits hpercent
  have hown := hfits.ownStart hchanged
  have hcurrent := hinv.le_current himages hfits
  have hnext : clock.curImg < (nextClock clock turn).curImg := by
    have hlatest : turn.current ≤ turn.latest := by
      rw [imagesRead_concat] at himages
      exact List.rel_of_pairwise_cons (List.pairwise_append.mp himages).2.1 List.mem_cons_self
    rw [nextClock_of_changed hchanged]
    simp only []
    omega
  have hwithOver : SteadyProgress (sent ++ [acquired]) := by
    refine hinv.steady.concat (by omega) ?_
    intro earlier hearlier _
    rw [hcomplete]
    exact (hinv.steady.range earlier hearlier).2
  have hold : ∀ earlier ∈ sent ++ [acquired], earlier.image ≤ clock.curImg := by
    intro earlier hearlier
    rcases List.mem_append.mp hearlier with hbefore | hlast
    · exact hinv.upToCounted earlier hbefore
    · obtain rfl := List.mem_singleton.mp hlast
      exact Int.le_of_eq hended
  rw [← List.append_assoc]
  constructor
  · rw [imagesRead_concat, nextClock_of_changed hchanged]
    exact Or.inr (List.mem_append_right _ (List.mem_cons_of_mem _ (List.mem_singleton_self _)))
  · rw [clockReadings_concat, nextClock_of_changed hchanged]
    exact ⟨turn.restart,
      List.mem_append_right _ (List.mem_cons_of_mem _ (List.mem_singleton_self _)),
      Int.sub_le_self _ (by decide)⟩
  · refine hwithOver.concat hrange ?_
    intro earlier hearlier hsameImage
    have hle := hold earlier hearlier
    omega
  · intro sentProgress hsent
    rcases List.mem_append.mp hsent with hearlier | hlast
    · have hle := hold sentProgress hearlier
      omega
    · obtain rfl := List.mem_singleton.mp hlast
      exact Int.le_of_eq himage
  · intro sentProgress hsent hcounted
    rcases List.mem_append.mp hsent with hearlier | hlast
    · have hle := hold sentProgress hearlier
      omega
    · obtain rfl := List.mem_singleton.mp hlast
      refine ⟨turn.now, ?_, Int.le_of_eq (hvalue.trans hown.symm)⟩
      rw [clockReadings_concat]
      exact List.mem_append_right _ List.mem_cons_self

theorem SeriesInv.step {state final : PollState} {later : List SentProgress}
    (hinv : SeriesInv reporter turns state.clock sent)
    (hclock : (reporter.clockReadings (turns ++ [turn])).Pairwise (· ≤ ·))
    (himages : (imagesRead (turns ++ [turn])).Pairwise (· ≤ ·))
    (hfits : reporter.TurnFits state.clock turn)
    (hpoll : reporter.poll state turn = .ok (final, later)) :
    SeriesInv reporter (turns ++ [turn]) final.clock (sent ++ later) := by
  obtain ⟨acquired, progress, rfl, hacquired, himage, hpercent⟩ := poll_messages hpoll
  rw [(poll_eq_ok hpoll).1]
  rcases acquiredMessage_eq_ok hacquired with ⟨hsame, rfl⟩ |
    ⟨hchanged, ended, rfl, hended, hcomplete⟩
  · rw [nextClock_of_same hsame] at himage ⊢
    exact hinv.step_same hclock hfits hsame himage hpercent
  · exact hinv.step_changed hclock himages hfits hchanged hended hcomplete himage hpercent

end Step

/-- A loop that ends has come through every part of its turns it begins with. -/
theorem loop_of_append {turns rest : List SeriesTurn} {state : PollState}
    {result : PollState × List SentProgress}
    (hloop : pollingLoop reporter.poll state (turns ++ rest) = .ok result) :
    ∃ mid, pollingLoop reporter.poll state turns = .ok mid := by
  induction rest using List.reverseRecOn generalizing result with
  | nil =>
      rw [List.append_nil] at hloop
      exact ⟨result, hloop⟩
  | append_singleton rest last ih =>
      rw [← List.append_assoc] at hloop
      obtain ⟨mid, before, after, hbefore, -, -⟩ := pollingLoop_concat.mp hloop
      exact ih hbefore

theorem clockAfter_concat (turns : List SeriesTurn) (turn : SeriesTurn) :
    reporter.clockAfter (turns ++ [turn]) = nextClock (reporter.clockAfter turns) turn := by
  simp [clockAfter]

theorem RunFits.of_append {turns rest : List SeriesTurn}
    (hfits : reporter.RunFits (turns ++ rest)) : reporter.RunFits turns := by
  rintro before turn after rfl
  exact hfits before turn (after ++ rest) (by simp)

/-- The clock and the numbers of the images do not go back, and every turn fits. -/
structure FittingRun (reporter : AcquisitionSeriesReporter) (turns : List SeriesTurn) : Prop where
  clock : (reporter.clockReadings turns).Pairwise (· ≤ ·)
  images : (imagesRead turns).Pairwise (· ≤ ·)
  fits : reporter.RunFits turns

theorem FittingRun.of_append {turns rest : List SeriesTurn}
    (hrun : reporter.FittingRun (turns ++ rest)) : reporter.FittingRun turns := by
  refine ⟨?_, ?_, RunFits.of_append hrun.fits⟩
  · have hclock := hrun.clock
    rw [clockReadings_append] at hclock
    exact (List.pairwise_append.mp hclock).1
  · have himages := hrun.images
    rw [imagesRead_append] at himages
    exact (List.pairwise_append.mp himages).1

theorem loop_inv {turns : List SeriesTurn} {final : PollState} {sent : List SentProgress}
    (hrun : reporter.FittingRun turns)
    (hloop : pollingLoop reporter.poll ⟨reporter.startClock, 0, 0, 0⟩ turns =
      .ok (final, sent)) : SeriesInv reporter turns final.clock sent := by
  induction turns using List.reverseRecOn generalizing final sent with
  | nil =>
      cases hloop
      exact SeriesInv.start reporter
  | append_singleton turns last ih =>
      obtain ⟨mid, before, after, hbefore, hlast, rfl⟩ := pollingLoop_concat.mp hloop
      have hinv := ih hrun.of_append hbefore
      have hfits := hrun.fits turns last [] rfl
      rw [← show mid.clock = reporter.clockAfter turns from clock_of_loop hbefore] at hfits
      exact hinv.step hrun.clock hrun.images hfits hlast

theorem report_steady {turns : List SeriesTurn} {report : ProgressReport}
    (hrun : reporter.FittingRun turns) (hreport : reporter.report turns = .ok report) :
    SteadyProgress report.sent := by
  obtain ⟨⟨final, sent⟩, hloop, hresult⟩ := checked_bind_eq_ok.mp hreport
  obtain rfl := Except.ok.inj hresult
  exact (loop_inv hrun hloop).steady

/-- The value of the last turn, from the start of the image that is counted then. -/
theorem last_fromOwnStart {turns : List SeriesTurn} {last : SeriesTurn}
    {result : PollState × List SentProgress} (hrun : reporter.FittingRun (turns ++ [last]))
    (hloop : pollingLoop reporter.poll ⟨reporter.startClock, 0, 0, 0⟩ (turns ++ [last]) =
      .ok result) :
    ∃ progress, result.2.getLast? = some progress ∧
      progress.image = (reporter.clockAfter (turns ++ [last])).curImg ∧
      percentDone
          (durationMs (last.now - (reporter.clockAfter (turns ++ [last])).curImgStart))
          (reporter.estimatedTimePerImage (reporter.clockAfter (turns ++ [last])).curImg) =
        .ok progress.percent := by
  obtain ⟨mid, before, after, hbefore, hlast, hsent⟩ := pollingLoop_concat.mp hloop
  have hinv := loop_inv hrun.of_append hbefore
  have hfits := hrun.fits turns last [] rfl
  have hclock : mid.clock = reporter.clockAfter turns := clock_of_loop hbefore
  rw [hclock] at hinv
  obtain ⟨acquired, progress, rfl, -, himage, hpercent⟩ := poll_messages hlast
  rw [hclock] at himage hpercent
  obtain ⟨hvalue, hrange⟩ := hinv.percent_eq hrun.clock hfits hpercent
  refine ⟨progress, ?_, ?_, ?_⟩
  · rw [hsent, ← List.append_assoc]
    exact List.getLast?_concat
  · rw [clockAfter_concat]
    exact himage
  · rw [clockAfter_concat]
    by_cases hsame : (reporter.clockAfter turns).curImg = last.current
    · rw [turnEstimate] at hpercent
      rw [nextClock_of_same hsame] at hpercent ⊢
      exact hpercent
    · have hown := hvalue.trans (hfits.ownStart hsame).symm
      rw [hown] at hrange ⊢
      exact percentDone_of_range hfits.inTime.1 hrange

theorem report_fromOwnStart {turns : List SeriesTurn} {report : ProgressReport}
    (hrun : reporter.FittingRun turns) (hreport : reporter.report turns = .ok report) :
    reporter.FromOwnStart turns := by
  rintro before turn after rfl
  obtain ⟨result, hloop, -⟩ := checked_bind_eq_ok.mp hreport
  have hsplit : before ++ turn :: after = (before ++ [turn]) ++ after := by simp
  rw [hsplit] at hloop hrun
  obtain ⟨mid, hmid⟩ := loop_of_append hloop
  obtain ⟨progress, hlast, himage, hpercent⟩ := last_fromOwnStart hrun.of_append hmid
  exact ⟨_, progress, checked_bind_eq_ok.mpr ⟨mid, hmid, rfl⟩, hlast, himage, hpercent⟩

end AcquisitionSeriesReporter

/-- If the clock and the numbers of the images do not go back and every turn fits, the
percentages of an image go on between 0 and 100 without a step back, and those of a new image
are taken from its own start. -/
theorem progress_steady {reporter : AcquisitionReporter} {turns : List PollTurn} {abortSet : Int}
    {report : ProgressReport} {series : AcquisitionSeriesReporter}
    {seriesTurns : List SeriesTurn} {seriesReport : ProgressReport}
    (hclock : (reporter.clockReadings turns).Pairwise (· ≤ ·))
    (hfits : ∀ turn ∈ turns, reporter.TurnFits turn)
    (hreport : reporter.report turns abortSet = .ok report)
    (hseriesClock : (series.clockReadings seriesTurns).Pairwise (· ≤ ·))
    (himages : (AcquisitionSeriesReporter.imagesRead seriesTurns).Pairwise (· ≤ ·))
    (hseriesFits : series.RunFits seriesTurns)
    (hseries : series.report seriesTurns = .ok seriesReport) :
    SteadyProgress report.sent ∧ SteadyProgress seriesReport.sent ∧
      series.FromOwnStart seriesTurns := by
  have hrun : series.FittingRun seriesTurns := ⟨hseriesClock, himages, hseriesFits⟩
  exact ⟨AcquisitionReporter.report_steady hclock hfits hreport,
    AcquisitionSeriesReporter.report_steady hrun hseries,
    AcquisitionSeriesReporter.report_fromOwnStart hrun hseries⟩

/-- Two exposures of one second. -/
def pairSeries : AcquisitionSeriesReporter := ⟨1000, 0, 2, fun exposure => exposure + 961⟩

/-- The second image is met so early that its start is put where the first one began. -/
def earlyChange : List SeriesTurn :=
  [⟨5000000, 1, 5000000, false, 1, false⟩, ⟨17000000, 2, 100000000, false, 2, true⟩]

theorem early_change_fits : pairSeries.RunFits earlyChange := by
  intro before turn after hturns
  rcases before with _ | ⟨first, _ | ⟨second, before⟩⟩
  · obtain ⟨rfl, -⟩ := List.cons.inj hturns
    exact ⟨by decide, ⟨by decide, by decide⟩, by decide⟩
  · obtain ⟨rfl, hrest⟩ := List.cons.inj hturns
    obtain ⟨rfl, -⟩ := List.cons.inj hrest
    exact ⟨by decide, ⟨by decide, by decide⟩, by decide⟩
  · simp [earlyChange] at hturns

theorem early_turns_steady :
    ∃ report seriesReport, secondReporter.report earlyTurns 0 = .ok report ∧
      pairSeries.report earlyChange = .ok seriesReport ∧
      SteadyProgress report.sent ∧ SteadyProgress seriesReport.sent ∧
      pairSeries.FromOwnStart earlyChange := by
  have hfits : ∀ turn ∈ earlyTurns, secondReporter.TurnFits turn := by
    refine List.forall_mem_cons.mpr ⟨fun _ => ⟨by decide, by decide⟩, ?_⟩
    exact List.forall_mem_singleton.mpr fun _ => ⟨by decide, by decide⟩
  exact ⟨_, _, rfl, rfl, progress_steady (by decide) hfits
    (show secondReporter.report earlyTurns 0 = .ok _ from rfl) (by decide) (by decide)
    early_change_fits rfl⟩

/-- The read-out goes on for half a second behind the exposure. -/
def readOutTurns : List PollTurn := [⟨500000000, false⟩, ⟨1500000000, false⟩]

/-- The second image is met after 1.6 seconds, and polled again 0.2 seconds later. -/
def changingTurns : List SeriesTurn :=
  [⟨500000000, 1, 500000000, false, 1, false⟩, ⟨1600000000, 2, 1601000000, false, 2, false⟩,
    ⟨1800000000, 2, 1800000000, false, 2, false⟩]

/-- A single exposure gets to 150 per cent; the second image of a series begins with the 94 per
cent of the first one and goes on with 17. -/
theorem read_out_and_change_not_steady :
    (secondReporter.clockReadings readOutTurns).Pairwise (· ≤ ·) ∧
      (∃ report, secondReporter.report readOutTurns 0 = .ok report ∧
        report.sent.map SentProgress.percent = [50, 150] ∧ ¬ SteadyProgress report.sent) ∧
      (pairSeries.clockReadings changingTurns).Pairwise (· ≤ ·) ∧
      (AcquisitionSeriesReporter.imagesRead changingTurns).Pairwise (· ≤ ·) ∧
      (∃ report, pairSeries.report changingTurns = .ok report ∧
        report.sent.map SentProgress.percent = [29, 100, 94, 17] ∧
        ¬ SteadyProgress report.sent) ∧
      ¬ pairSeries.FromOwnStart changingTurns := by
  refine ⟨by decide, ⟨_, rfl, rfl, ?_⟩, by decide, by decide, ⟨_, rfl, rfl, ?_⟩, ?_⟩
  · intro hsteady
    have hlast := hsteady.range _ (List.mem_cons_of_mem _ (List.mem_singleton_self _))
    exact absurd hlast.2 (by decide)
  · intro hsteady
    exact absurd hsteady.sorted (by decide)
  · intro hown
    obtain ⟨report, last, hreport, hlast, -, hpercent⟩ :=
      hown [⟨500000000, 1, 500000000, false, 1, false⟩]
        ⟨1600000000, 2, 1601000000, false, 2, false⟩
        [⟨1800000000, 2, 1800000000, false, 2, false⟩] rfl
    cases hreport
    cases hlast
    exact absurd hpercent (by decide)

end Andor2k
