/-
Left-over memory.  set_defaults and the member initialisers cover every member but the name
of the filter; what that member held before is recorded by every exposure until a command
stores a filter.
-/
import Andor2k.SetupAcquisition
import Andor2k.UnreadMembers

namespace Andor2k

open CText Ieee

/-- Two arrays with the same bytes, or with the same C string in them. -/
def SameText {size : Nat} (first second : CharArray size) : Prop :=
  first = second ∨ ∃ text, first.text = .ok text ∧ second.text = .ok text

instance {size : Nat} (first second : CharArray size) : Decidable (SameText first second) :=
  match hfirst : first.text with
  | .error fault => decidable_of_iff (first = second)
      ⟨Or.inl, fun hsame => hsame.resolve_right fun ⟨text, htext, _⟩ => by
        rw [hfirst] at htext
        cases htext⟩
  | .ok text => decidable_of_iff (first = second ∨ second.text = .ok text)
      ⟨fun hsame => hsame.imp_right fun htext => ⟨text, hfirst, htext⟩,
        fun hsame => hsame.imp_right fun ⟨other, hother, htext⟩ => by
          rw [hfirst, Except.ok.injEq] at hother
          rw [hother]
          exact htext⟩

theorem SameText.refl {size : Nat} (array : CharArray size) : SameText array array :=
  Or.inl rfl

theorem SameText.text_eq {size : Nat} {first second : CharArray size}
    (hsame : SameText first second) : second.text = first.text := by
  rcases hsame with rfl | ⟨text, hfirst, hsecond⟩
  · rfl
  · rw [hfirst, hsecond]

/-- Every member has the same value; of the two names only the text counts. -/
structure SameValues (params other : AndorParameters) : Prop where
  members : ∀ field, field ≠ .objectName → field ≠ .filterName →
    other.fieldBytes field = params.fieldBytes field
  objectName : SameText params.objectName other.objectName
  filterName : SameText params.filterName other.filterName

/-- The same values, and the same header table of every exposure that is set up. -/
def SameRecord (params other : AndorParameters) : Prop :=
  SameValues params other ∧ ∀ answers headers,
    setupAcquisition other answers headers = setupAcquisition params answers headers

/-- The parameters of the exposures that the accepted commands of a run set up, in order. -/
def requestedAlong : AndorParameters → List Command → List AndorParameters
  | _, [] => []
  | params, command :: rest =>
      (requested params command).toList ++
        match step params command with
        | none => []
        | some next => requestedAlong next rest

/-- The same record of a whole run: of every exposure on the way, and at the end. -/
def SameHistory (params other : AndorParameters) (commands : List Command) : Prop :=
  List.Forall₂ SameRecord (requestedAlong params commands) (requestedAlong other commands) ∧
    ∃ final twin, Runs.run step params commands = some final ∧
      Runs.run step other commands = some twin ∧ SameRecord final twin

/-- The loop over the words comes to the option `name` with a value it accepts. -/
def storesOption (name : ImageOption) : Tokens → Bool
  | .done => false
  | .overrun => false
  | .token word rest =>
      match ImageOption.ofWord word with
      | none => storesOption name rest
      | some option =>
          match rest with
          | .done => false
          | .overrun => false
          | .token value rest =>
              !option.refuses value && (option == name || storesOption name rest)

/-- The command is an `image` command whose parser stores the option `name`. -/
def Command.stores (command : Command) (name : ImageOption) (mode : ReadOutMode) : Bool :=
  handlerOf command.buffer = .getImage && mode = .image && storesOption name command.words

/-- A command stores the option `name` before the first exposure is set up, or with it. -/
def storedInTime (name : ImageOption) : AndorParameters → List Command → Bool
  | _, [] => false
  | params, command :: rest =>
      command.stores name params.readOutMode ||
        match requested params command, step params command with
        | none, some next => storedInTime name next rest
        | _, _ => false

/-- What is left of the other contents of a name. -/
def leftOver {size : Nat} (stored : Bool) (content : Option (CharArray size)) :
    Option (CharArray size) := if stored then none else content

theorem leftOver_leftOver {size : Nat} (first second : Bool) (content : Option (CharArray size)) :
    leftOver second (leftOver first content) = leftOver (first || second) content := by
  cases first with
  | true => exact ite_self _
  | false => rfl

theorem afterOption_names {option : ImageOption} {value : Text}
    (haccepts : option.refuses value = false) (object : Option (CharArray maxObjectNameChars))
    (filter : Option (CharArray maxFilterNameChars)) :
    (Unread.mk none object filter).afterOption option value =
      ⟨none, leftOver (option == .object) object, leftOver (option == .filter) filter⟩ := by
  simp only [Unread.afterOption, haccepts, Bool.false_eq_true, if_false]
  cases option with
  | _ => rfl

theorem afterImage_names (tokens : Tokens) (object : Option (CharArray maxObjectNameChars))
    (filter : Option (CharArray maxFilterNameChars)) :
    (Unread.mk none object filter).afterImage tokens =
      ⟨none, leftOver (storesOption .object tokens) object,
        leftOver (storesOption .filter tokens) filter⟩ := by
  induction tokens using storesOption.induct generalizing object filter with
  | case1 => rfl
  | case2 => rfl
  | case3 word rest hoption ih =>
      simp only [Unread.afterImage, storesOption, hoption]
      exact ih object filter
  | case4 word option hoption =>
      simp only [Unread.afterImage, storesOption, hoption]
      rfl
  | case5 word option hoption =>
      simp only [Unread.afterImage, storesOption, hoption]
      rfl
  | case6 word option hoption value rest ih =>
      simp only [Unread.afterImage, storesOption, hoption]
      cases hrefuses : option.refuses value with
      | true => rfl
      | false =>
          have hlater := ih (leftOver (option == .object) object)
            (leftOver (option == .filter) filter)
          rw [leftOver_leftOver, leftOver_leftOver] at hlater
          rw [afterOption_names hrefuses]
          exact hlater

theorem after_names (command : Command) (mode : ReadOutMode)
    (object : Option (CharArray maxObjectNameChars))
    (filter : Option (CharArray maxFilterNameChars)) :
    (Unread.mk none object filter).after command mode =
      ⟨none, leftOver (command.stores .object mode) object,
        leftOver (command.stores .filter mode) filter⟩ := by
  by_cases himage : handlerOf command.buffer = .getImage
  · by_cases hmode : mode = .image
    · simp only [Unread.after, Command.stores, himage, hmode, ne_eq, not_true_eq_false, if_false,
        decide_true, Bool.true_and]
      exact afterImage_names command.words object filter
    · simp only [Unread.after, Command.stores, himage, hmode, ne_eq, not_false_eq_true, if_true,
        decide_true, decide_false, Bool.true_and, Bool.false_and]
      rfl
  · rw [Unread.after_of_other himage]
    simp only [Command.stores, himage, decide_false, Bool.false_and]
    rfl

section Twins

variable {params next : AndorParameters} {command : Command}
  (object : Option (CharArray maxObjectNameChars)) (filter : Option (CharArray maxFilterNameChars))

/-- What is left of other contents of the two names behind a command. -/
def Command.leaves (command : Command) (mode : ReadOutMode) : Unread :=
  ⟨none, leftOver (command.stores .object mode) object,
    leftOver (command.stores .filter mode) filter⟩

/-- A command on other contents of the names goes through as well, and what it does not store
is left of them. -/
theorem step_twin (hstep : step params command = some next) :
    step (params.replace ⟨none, object, filter⟩) command =
      some (next.replace (command.leaves object filter params.readOutMode)) := by
  rw [step_replace, hstep, after_names]
  rfl

theorem requested_twin (params : AndorParameters) (command : Command) :
    requested (params.replace ⟨none, object, filter⟩) command =
      (requested params command).map
        (AndorParameters.replace · (command.leaves object filter params.readOutMode)) := by
  unfold requested
  rw [parserReply_replace, after_names]
  cases handlerOf command.buffer with
  | getImage =>
      cases parserReply command params with
      | none => rfl
      | some computation =>
          cases computation with
          | error fault => rfl
          | ok reply =>
              change (if reply.status = 0 then _ else none) = Option.map _ (if _ then _ else none)
              split
              · rfl
              · rfl
  | _ => rfl

end Twins

/-- An exposure is set up with the parameters its command leaves. -/
theorem step_of_requested {params asked : AndorParameters} {command : Command}
    (hasked : requested params command = some asked) : step params command = some asked := by
  unfold requested at hasked
  split at hasked
  · rename_i reply hhandler hreply
    split at hasked
    · rw [step, serve, hreply]
      exact hasked
    · cases hasked
  · cases hasked

/-- As long as nobody asks for a shutdown, these are the acquisitions of the run. -/
theorem acquisitions_eq_requestedAlong {params final : AndorParameters} {commands : List Command}
    (hopen : ∀ command ∈ commands, handlerOf command.buffer ≠ .shutdown)
    (hrun : Runs.run step params commands = some final) :
    acquisitions params commands = .ok (requestedAlong params commands) := by
  induction commands generalizing params with
  | nil => rfl
  | cons command rest ih =>
      obtain ⟨hgoes, hlater⟩ := List.forall_mem_cons.mp hopen
      obtain ⟨next, hstep, hrest⟩ := Runs.run_cons_eq_some.mp hrun
      rw [acquisitions, if_neg hgoes, requestedAlong, hstep]
      rw [step] at hstep
      cases hserve : serve params command with
      | error fault =>
          rw [hserve] at hstep
          cases hstep
      | ok served =>
          rw [hserve] at hstep
          obtain rfl : served = next := Option.some.inj hstep
          dsimp only
          rw [ih hlater hrest]
          rfl

/-- A name is what it was before, unless the command stores it. -/
theorem names_of_step {params next : AndorParameters} {command : Command}
    (hstep : step params command = some next) :
    (command.stores .object params.readOutMode = false →
        next.objectName = params.objectName) ∧
      (command.stores .filter params.readOutMode = false →
        next.filterName = params.filterName) := by
  have hself : step params command = some (next.replace
      (command.leaves (some params.objectName) (some params.filterName) params.readOutMode)) :=
    step_twin (some params.objectName) (some params.filterName) hstep
  rw [hstep, Option.some.injEq] at hself
  constructor
  · intro hstored
    have hname := congrArg AndorParameters.objectName hself
    simp only [Command.leaves, hstored] at hname
    exact hname
  · intro hstored
    have hname := congrArg AndorParameters.filterName hself
    simp only [Command.leaves, hstored] at hname
    exact hname

/-- The header table looks at the texts of the two names. -/
theorem setupAcquisition_replace {params : AndorParameters} {unread : Unread}
    (hobject : (params.replace unread).objectName.text = params.objectName.text)
    (hfilter : (params.replace unread).filterName.text = params.filterName.text)
    (answers : SetupAnswers) (headers : FitsHeaders) :
    setupAcquisition (params.replace unread) answers headers =
      setupAcquisition params answers headers := by
  have hcamera : ∀ (size : Nat × Nat) (table : FitsHeaders),
      cameraHeaders (params.replace unread) answers size table =
        cameraHeaders params answers size table := by
    intro size table
    unfold cameraHeaders
    rw [hobject, hfilter]
    rfl
  unfold setupAcquisition
  simp only [hcamera]
  rfl

theorem sameRecord_replace {params : AndorParameters}
    {object : Option (CharArray maxObjectNameChars)}
    {filter : Option (CharArray maxFilterNameChars)}
    (hobject : SameText params.objectName (object.getD params.objectName))
    (hfilter : SameText params.filterName (filter.getD params.filterName)) :
    SameRecord params (params.replace ⟨none, object, filter⟩) := by
  refine ⟨⟨?_, hobject, hfilter⟩, ?_⟩
  · intro field hnotObject hnotFilter
    cases field with
    | objectName => exact absurd rfl hnotObject
    | filterName => exact absurd rfl hnotFilter
    | _ => rfl
  · exact setupAcquisition_replace hobject.text_eq hfilter.text_eq

/-- Memory reaches the parameters through the two names only. -/
theorem initial_eq_replace (memory other : List UInt8) :
    AndorParameters.initial other =
      (AndorParameters.initial memory).replace
        ⟨none, some (AndorParameters.initial other).objectName,
          some (AndorParameters.initial other).filterName⟩ := rfl

theorem text_strcpy {size : Nat} (array : CharArray size) {text : Text}
    (hfits : text.length < size) (htext : 0 ∉ text) :
    (array.strcpy text hfits).text = .ok text := by
  have hbytes : (array.strcpy text hfits).bytes =
      text ++ 0 :: array.bytes.drop (0 + (text ++ [0]).length) := by
    simp only [CharArray.strcpy, overlay, List.take_zero, List.nil_append, List.append_assoc,
      List.singleton_append]
  rw [CharArray.text, hbytes]
  exact cString_append_nul htext _

/-- The name of the object is a blank whatever lies behind its NUL. -/
theorem text_objectName_initial (memory : List UInt8) :
    (AndorParameters.initial memory).objectName.text = .ok (ascii " ") :=
  @text_strcpy maxObjectNameChars _ (ascii " ") (by decide) (by decide)

section Histories

/-- The contents of a name agree behind a command if it stores the name, or if they agreed. -/
theorem sameText_leftOver {size : Nat} {stored : Bool} {before after : CharArray size}
    (content : Option (CharArray size)) (hkept : stored = false → after = before) :
    SameText after ((leftOver stored content).getD after) ↔
      stored = true ∨ SameText before (content.getD before) := by
  cases stored with
  | true => exact iff_of_true (SameText.refl after) (Or.inl rfl)
  | false =>
      rw [hkept rfl]
      exact (or_iff_right (by decide)).symm

variable {params next final : AndorParameters} {command : Command} {rest : List Command}
  {object : Option (CharArray maxObjectNameChars)} {filter : Option (CharArray maxFilterNameChars)}

/-- A command without an exposure leaves the record to those behind it. -/
theorem sameHistory_cons_of_none (hrequested : requested params command = none)
    (hstep : step params command = some next) :
    SameHistory params (params.replace ⟨none, object, filter⟩) (command :: rest) ↔
      SameHistory next (next.replace (command.leaves object filter params.readOutMode)) rest := by
  have hother := step_twin object filter hstep
  have hnone := requested_twin object filter params command
  rw [hrequested, Option.map_none] at hnone
  simp only [SameHistory, requestedAlong, hrequested, hnone, hstep, hother, Option.toList_none,
    List.nil_append, Runs.run_cons_eq_some, Option.some.injEq, exists_eq_left']

/-- An exposure is on record, and so are those behind it. -/
theorem sameHistory_cons_of_some (hrequested : requested params command = some next) :
    SameHistory params (params.replace ⟨none, object, filter⟩) (command :: rest) ↔
      SameRecord next (next.replace (command.leaves object filter params.readOutMode)) ∧
        SameHistory next (next.replace (command.leaves object filter params.readOutMode))
          rest := by
  have hstep := step_of_requested hrequested
  have hother := step_twin object filter hstep
  have hsome := requested_twin object filter params command
  rw [hrequested, Option.map_some] at hsome
  simp only [SameHistory, requestedAlong, hrequested, hsome, hstep, hother, Option.toList_some,
    List.singleton_append, List.forall₂_cons, Runs.run_cons_eq_some, Option.some.injEq,
    exists_eq_left', and_assoc]

/-- The names are the only difference: what a run records is the same exactly when a filter is
stored in time, or the two filters were the same. -/
theorem sameHistory_iff {commands : List Command}
    (hrun : Runs.run step params commands = some final)
    (hobject : SameText params.objectName (object.getD params.objectName)) :
    SameHistory params (params.replace ⟨none, object, filter⟩) commands ↔
      storedInTime .filter params commands = true ∨
        SameText params.filterName (filter.getD params.filterName) := by
  induction commands generalizing params object filter with
  | nil =>
      constructor
      · rintro ⟨-, _, _, ⟨⟩, ⟨⟩, hsame, -⟩
        exact Or.inr hsame.filterName
      · intro hfilter
        exact ⟨.nil, params, _, rfl, rfl,
          sameRecord_replace hobject (hfilter.resolve_left (by rintro ⟨⟩))⟩
  | cons command rest ih =>
      obtain ⟨next, hstep, hrest⟩ := Runs.run_cons_eq_some.mp hrun
      obtain ⟨hobjectKept, hfilterKept⟩ := names_of_step hstep
      have hobjectNext := (sameText_leftOver object hobjectKept).mpr (Or.inr hobject)
      have hfilterNext := sameText_leftOver filter hfilterKept
      have hlater : SameHistory next
          (next.replace (command.leaves object filter params.readOutMode)) rest ↔
            storedInTime .filter next rest = true ∨ SameText next.filterName _ :=
        ih hrest hobjectNext
      cases hrequested : requested params command with
      | none =>
          -- nothing is on record yet, so a later command may still store the filter
          rw [sameHistory_cons_of_none hrequested hstep]
          refine hlater.trans ?_
          rw [hfilterNext, storedInTime, hrequested, hstep, Bool.or_eq_true, or_assoc,
            or_left_comm]
      | some asked =>
          -- the table shows the filter as this command leaves it
          obtain rfl := Option.some.inj ((step_of_requested hrequested).symm.trans hstep)
          have hstored : storedInTime .filter params (command :: rest) =
              command.stores .filter params.readOutMode := by
            rw [storedInTime, hrequested, Bool.or_false]
          rw [sameHistory_cons_of_some hrequested, hstored, ← hfilterNext]
          constructor
          · rintro ⟨⟨hsame, -⟩, -⟩
            exact hsame.filterName
          · intro hkept
            exact ⟨sameRecord_replace hobjectNext hkept, hlater.mpr (Or.inr hkept)⟩

end Histories

/-- What the daemon records is independent of the initial memory if and only if a filter is
stored no later than by the command of the first exposure, or the memory held the same filter
name. -/
theorem record_independent_iff (memory other : List UInt8) {commands : List Command}
    {params : AndorParameters}
    (hrun : Runs.run step (AndorParameters.initial memory) commands = some params) :
    SameHistory (AndorParameters.initial memory) (AndorParameters.initial other) commands ↔
      storedInTime .filter (AndorParameters.initial memory) commands = true ∨
        SameText (AndorParameters.initial memory).filterName
          (AndorParameters.initial other).filterName := by
  have hobject : SameText (AndorParameters.initial memory).objectName
      (AndorParameters.initial other).objectName :=
    Or.inr ⟨_, text_objectName_initial memory, text_objectName_initial other⟩
  rw [initial_eq_replace memory other]
  exact sameHistory_iff hrun hobject

/-- Memory that holds V where the name of the filter will be. -/
def leftOverMemory : List UInt8 := List.replicate 444 0 ++ ascii "V"

def filterCommand : Command :=
  ⟨ascii "image --bin 2 --filter R", by decide, fun _ => willingCamera⟩

theorem filterCommand_within : filterCommand.StaysWithin :=
  ⟨[.imageVbin, .imageHbin, .filterName, .saveDir], by decide +kernel⟩

/-- Two exposures, for the first of which the filter is given. -/
theorem filterCommand_record_independent :
    SameHistory (AndorParameters.initial []) (AndorParameters.initial leftOverMemory)
      [filterCommand, binCommand] := by
  have hwithin : ∀ command ∈ [filterCommand, binCommand], command.StaysWithin :=
    List.forall_mem_cons.mpr
      ⟨filterCommand_within, List.forall_mem_singleton.mpr ⟨_, binCommand_written⟩⟩
  have hstored : storedInTime .filter (AndorParameters.initial []) [filterCommand, binCommand] =
      true := by
    decide +kernel
  obtain ⟨params, hrun, -⟩ := run_ready (ready_initial []) hwithin
  exact (record_independent_iff [] leftOverMemory hrun).mpr (Or.inl hstored)

/-- A camera that is set up without an error. -/
def setupCamera : SetupAnswers :=
  { setupReadOutMode := 0, setupAcquisitionMode := 0, setFastestRecomendedVhSpeeds := 0,
    vsspeed := ⟨0⟩, hsspeedMhz := ⟨0⟩, setShutter := .success, getDetector := .success,
    xpixels := 2048, ypixels := 2048, arHeaders := [], getAcquisitionTimings := .success,
    actualExposure := ⟨0⟩, getPreAmpGain := .success, factor := ⟨0⟩, lcorrNs := fun _ _ => 0,
    getTemperatureF := .tempStabilized, tempf := ⟨0⟩ }

/-- The header table of the first exposure of a run. -/
def firstTable (memory : List UInt8) (commands : List Command) : Option (Checked Setup) :=
  (requestedAlong (AndorParameters.initial memory) commands).head?.map fun params =>
    setupAcquisition params setupCamera (FitsHeaders.construct 100)

theorem SameHistory.firstTable_eq {memory other : List UInt8} {commands : List Command}
    (hsame : SameHistory (AndorParameters.initial memory) (AndorParameters.initial other)
      commands) : firstTable memory commands = firstTable other commands := by
  obtain ⟨hall, -⟩ := hsame
  rw [firstTable, firstTable]
  generalize requestedAlong (AndorParameters.initial memory) commands = exposures at hall ⊢
  generalize requestedAlong (AndorParameters.initial other) commands = others at hall ⊢
  cases hall with
  | nil => rfl
  | cons hfirst _ => exact congrArg some (hfirst.2 setupCamera (FitsHeaders.construct 100)).symm

/-- When the filter is given with the second exposure, the FILTER entry of the first is what the
memory held. -/
theorem leftOverFilter_recorded :
    ¬ ∀ params, Runs.run step (AndorParameters.initial []) [binCommand, filterCommand] =
        some params →
      SameHistory (AndorParameters.initial []) (AndorParameters.initial leftOverMemory)
        [binCommand, filterCommand] := by
  have hwithin : ∀ command ∈ [binCommand, filterCommand], command.StaysWithin :=
    List.forall_mem_cons.mpr
      ⟨⟨_, binCommand_written⟩, List.forall_mem_singleton.mpr filterCommand_within⟩
  have htables : firstTable [] [binCommand, filterCommand] ≠
      firstTable leftOverMemory [binCommand, filterCommand] := by
    decide +kernel
  obtain ⟨params, hrun, -⟩ := run_ready (ready_initial []) hwithin
  intro hall
  exact htables (hall params hrun).firstTable_eq

end Andor2k
