/-
What commands do to the parameters over a whole session: which members a command may
change, what a rejected command leaves behind, and which later acquisitions see it.
-/
import Andor2k.WrittenFields

namespace Andor2k

open CText

/-- The words behind the command word. -/
def Command.words (command : Command) : Tokens :=
  match strtok blank command.buffer.bytes with
  | .done => .done
  | .overrun => .overrun
  | .token _ rest => rest

/-- The members the options of an `image` command are about. -/
def imageNamed : Tokens → List Field
  | .done => []
  | .overrun => []
  | .token word rest =>
      match ImageOption.ofWord word with
      | none => imageNamed rest
      | some option =>
          match rest with
          | .done => option.fields
          | .overrun => option.fields
          | .token _ rest => option.fields ++ imageNamed rest

/-- The members the words of a `setparam` command are about. -/
def setNamed : Tokens → List Field
  | .done => []
  | .overrun => []
  | .token word rest =>
      match SetOption.ofWord word with
      | none => setNamed rest
      | some option => option.fields ++ setNamed rest

/-- The members a command names. -/
def Command.namedFields (command : Command) : List Field :=
  match handlerOf command.buffer with
  | .getImage => imageNamed command.words
  | .setParamValue => setNamed command.words
  | _ => []

/-- The members a command writes, when nothing it does leaves its buffer or the member
it copies to. -/
def Command.written (command : Command) (mode : ReadOutMode) : Checked (List Field) :=
  match handlerOf command.buffer with
  | .getImage => if mode ≠ .image then .ok [] else imageWritten command.words
  | .setParamValue => setWritten command.sdk 0 command.words
  | _ => .ok []

/-- Every string the handler scans ends inside the command buffer, and every observer
name it copies has room in its member. -/
def Command.StaysWithin (command : Command) : Prop :=
  ∃ fields, command.written .image = .ok fields

theorem startsWith_image_of_handlerOf {buffer : CommandBuffer}
    (hhandler : handlerOf buffer = .getImage) :
    startsWith buffer.bytes (ascii "image") = true := by
  unfold handlerOf at hhandler
  split_ifs at hhandler with _ _ _ _ himage
  exact himage

theorem startsWith_setparam_of_handlerOf {buffer : CommandBuffer}
    (hhandler : handlerOf buffer = .setParamValue) :
    startsWith buffer.bytes (ascii "setparam") = true := by
  unfold handlerOf at hhandler
  split_ifs at hhandler with _ _ _ hsetparam
  exact hsetparam

theorem parserReply_getImage {command : Command} (params : AndorParameters)
    (hhandler : handlerOf command.buffer = .getImage) :
    parserReply command params =
      some (if params.readOutMode ≠ .image then .ok ⟨4, params⟩
        else resolveOptions command.words params) := by
  have hstart := startsWith_image_of_handlerOf hhandler
  simp only [parserReply, hhandler, resolveImageParameters, hstart, not_true_eq_false,
    ↓reduceIte, Command.words]
  split
  · rfl
  · cases strtok blank command.buffer.bytes with
    | done => rfl
    | overrun => rfl
    | token word rest => rfl

theorem parserReply_setParamValue {command : Command} (params : AndorParameters)
    (hhandler : handlerOf command.buffer = .setParamValue) :
    parserReply command params = some (setOptions command.sdk 0 command.words params) := by
  have hstart := startsWith_setparam_of_handlerOf hhandler
  simp only [parserReply, hhandler, setParamValue, hstart, not_true_eq_false, ↓reduceIte,
    Command.words]
  cases strtok blank command.buffer.bytes with
  | done => rfl
  | overrun => rfl
  | token word rest => rfl

theorem parserReply_other {command : Command} (params : AndorParameters)
    (himage : handlerOf command.buffer ≠ .getImage)
    (hset : handlerOf command.buffer ≠ .setParamValue) :
    parserReply command params = none := by
  unfold parserReply
  cases hhandler : handlerOf command.buffer with
  | getImage => exact absurd hhandler himage
  | setParamValue => exact absurd hhandler hset
  | _ => rfl

/-- What one command leaves behind, as long as it stays within its memory. -/
structure Leaves (fields : List Field) (params next : AndorParameters) : Prop where
  agree : AgreeOff fields params next
  saveDir : SaveDirFixed params next

theorem Leaves.refl (fields : List Field) (params : AndorParameters) :
    Leaves fields params params := ⟨AgreeOff.refl _ _, Or.inl rfl⟩

theorem not_mem_imageNamed {field : Field}
    (hfield : ∀ option : ImageOption, field ∉ option.fields) (tokens : Tokens) :
    field ∉ imageNamed tokens := by
  induction tokens using imageNamed.induct with
  | case1 => simp [imageNamed]
  | case2 => simp [imageNamed]
  | case3 word rest hoption ih => simpa only [imageNamed, hoption] using ih
  | case4 word option hoption => simpa only [imageNamed, hoption] using hfield option
  | case5 word option hoption => simpa only [imageNamed, hoption] using hfield option
  | case6 word option hoption value rest ih =>
      simp only [imageNamed, hoption, List.mem_append, not_or]
      exact ⟨hfield option, ih⟩

theorem not_mem_setNamed {field : Field}
    (hfield : ∀ option : SetOption, field ∉ option.fields) (tokens : Tokens) :
    field ∉ setNamed tokens := by
  induction tokens with
  | done => simp [setNamed]
  | overrun => simp [setNamed]
  | token word rest ih =>
      cases hoption : SetOption.ofWord word with
      | none => simpa only [setNamed, hoption] using ih
      | some option =>
          simp only [setNamed, hoption, List.mem_append, not_or]
          exact ⟨hfield option, ih⟩

theorem imageWritten_subset {tokens : Tokens} {fields : List Field}
    (hwritten : imageWritten tokens = .ok fields) :
    fields ⊆ .saveDir :: imageNamed tokens := by
  induction tokens using imageNamed.induct generalizing fields with
  | case1 =>
      simp only [imageWritten, Except.ok.injEq] at hwritten
      subst fields
      simp
  | case2 => simp [imageWritten] at hwritten
  | case3 word rest hoption ih =>
      simp only [imageWritten, hoption] at hwritten
      simpa only [imageNamed, hoption] using ih hwritten
  | case4 word option hoption =>
      simp only [imageWritten, hoption, Except.ok.injEq] at hwritten
      subst fields
      exact List.nil_subset _
  | case5 word option hoption => simp [imageWritten, hoption] at hwritten
  | case6 word option hoption value rest ih =>
      have hoptionFields := option.written_subset_fields value
      simp only [imageWritten, hoption] at hwritten
      simp only [imageNamed, hoption]
      by_cases hrefuses : option.refuses value = true
      · simp only [hrefuses, ↓reduceIte, Except.ok.injEq] at hwritten
        subst fields
        intro field hfield
        simp [hoptionFields hfield]
      · simp only [hrefuses, Bool.false_eq_true, ↓reduceIte] at hwritten
        obtain ⟨later, hlater, rfl⟩ := checked_map_eq_ok.mp hwritten
        intro field hfield
        rcases List.mem_append.mp hfield with hnow | hthen
        · simp [hoptionFields hnow]
        · have hlate := ih hlater hthen
          simp only [List.mem_cons] at hlate
          simp only [List.mem_cons, List.mem_append]
          exact hlate.imp_right Or.inr

theorem setWritten_subset {sdk : Nat → SetParamAnswers} {index : Nat} {tokens : Tokens}
    {fields : List Field} (hwritten : setWritten sdk index tokens = .ok fields) :
    fields ⊆ setNamed tokens := by
  induction tokens generalizing index fields with
  | done =>
      simp only [setWritten, Except.ok.injEq] at hwritten
      simp [← hwritten]
  | overrun => simp [setWritten] at hwritten
  | token word rest ih =>
      cases hoption : SetOption.ofWord word with
      | none =>
          simp only [setWritten, hoption] at hwritten
          simpa only [setNamed, hoption] using ih hwritten
      | some option =>
          have hoptionFields := option.written_subset_fields (sdk index) word
          simp only [setWritten, hoption] at hwritten
          simp only [setNamed, hoption]
          split_ifs at hwritten with hfits hrefuses
          · simp only [Except.ok.injEq] at hwritten
            subst fields
            exact List.subset_append_of_subset_left _ hoptionFields
          · obtain ⟨later, hlater, rfl⟩ := checked_map_eq_ok.mp hwritten
            exact List.append_subset.mpr
              ⟨List.subset_append_of_subset_left _ hoptionFields,
                List.subset_append_of_subset_right _ (ih hlater)⟩

theorem SetOption.saveDir_not_mem_fields (option : SetOption) : .saveDir ∉ option.fields := by
  cases option <;> simp [SetOption.fields]

/-- A handler that stays within its memory comes to a reply. -/
theorem parserReply_leaves {command : Command} {params : AndorParameters}
    {fields : List Field} {computation : Checked Reply}
    (hwritten : command.written params.readOutMode = .ok fields)
    (hparser : parserReply command params = some computation) :
    ∃ reply, computation = .ok reply ∧ Leaves fields params reply.params := by
  by_cases himage : handlerOf command.buffer = .getImage
  · rw [parserReply_getImage params himage, Option.some.injEq] at hparser
    simp only [Command.written, himage] at hwritten
    by_cases hmode : params.readOutMode = .image
    · simp only [hmode, ne_eq, not_true_eq_false, ↓reduceIte] at hparser hwritten
      subst computation
      obtain ⟨reply, hreply, hagree, hfixed⟩ := resolveOptions_agreeOff hmode hwritten
      exact ⟨reply, hreply, hagree, hfixed⟩
    · simp only [ne_eq, hmode, not_false_eq_true, ↓reduceIte] at hparser
      subst computation
      exact ⟨_, rfl, Leaves.refl _ _⟩
  · by_cases hset : handlerOf command.buffer = .setParamValue
    · rw [parserReply_setParamValue params hset, Option.some.injEq] at hparser
      simp only [Command.written, hset] at hwritten
      subst computation
      obtain ⟨reply, hreply, hagree⟩ := setOptions_agreeOff params hwritten
      exact ⟨reply, hreply, hagree,
        Or.inl (hagree.saveDir_eq fun hmem =>
          not_mem_setNamed SetOption.saveDir_not_mem_fields _ (setWritten_subset hwritten hmem))⟩
    · rw [parserReply_other params himage hset] at hparser
      simp at hparser

theorem serve_leaves {command : Command} {params : AndorParameters} {fields : List Field}
    (hwritten : command.written params.readOutMode = .ok fields) :
    ∃ next, serve params command = .ok next ∧ Leaves fields params next := by
  unfold serve
  cases hparser : parserReply command params with
  | none => exact ⟨params, rfl, Leaves.refl _ _⟩
  | some computation =>
      obtain ⟨reply, rfl, hleaves⟩ := parserReply_leaves hwritten hparser
      exact ⟨reply.params, rfl, hleaves⟩

theorem written_subset {command : Command} {mode : ReadOutMode} {fields : List Field}
    (hwritten : command.written mode = .ok fields) :
    fields ⊆ .saveDir :: command.namedFields := by
  unfold Command.written at hwritten
  unfold Command.namedFields
  cases hhandler : handlerOf command.buffer with
  | getImage =>
      simp only [hhandler] at hwritten
      split at hwritten
      · simp only [Except.ok.injEq] at hwritten
        subst fields
        exact List.nil_subset _
      · exact imageWritten_subset hwritten
  | setParamValue =>
      simp only [hhandler] at hwritten
      exact List.subset_cons_of_subset _ (setWritten_subset hwritten)
  | _ =>
      simp only [hhandler, Except.ok.injEq] at hwritten
      subst fields
      exact List.nil_subset _

theorem readOutMode_not_mem_namedFields (command : Command) :
    .readOutMode ∉ command.namedFields := by
  unfold Command.namedFields
  cases handlerOf command.buffer with
  | getImage => exact not_mem_imageNamed ImageOption.readOutMode_not_mem_fields _
  | setParamValue => exact not_mem_setNamed SetOption.readOutMode_not_mem_fields _
  | _ => simp

/-- What holds of the parameters between two commands. -/
structure Ready (params : AndorParameters) : Prop where
  readOutMode : params.readOutMode = .image
  saveDir : params.saveDir = AndorParameters.fixedSaveDir

theorem ready_initial (memory : List UInt8) : Ready (AndorParameters.initial memory) :=
  ⟨AndorParameters.readOutMode_initial memory, AndorParameters.saveDir_initial memory⟩

theorem step_ready {params : AndorParameters} {command : Command} (hready : Ready params)
    (hwithin : command.StaysWithin) :
    ∃ next, step params command = some next ∧ Ready next ∧
      AgreeOff command.namedFields params next := by
  obtain ⟨fields, hwritten⟩ := hwithin
  rw [← hready.readOutMode] at hwritten
  obtain ⟨next, hserve, hagree, hfixed⟩ := serve_leaves hwritten
  have hdir : next.saveDir = AndorParameters.fixedSaveDir := by
    rcases hfixed with hkept | hset
    · exact hkept.trans hready.saveDir
    · exact hset
  have hnamed : AgreeOff command.namedFields params next := by
    intro field hfield
    by_cases hsave : field = .saveDir
    · subst field
      change next.saveDir.bytes = params.saveDir.bytes
      rw [hdir, hready.saveDir]
    · refine hagree field fun hmem => ?_
      rcases List.mem_cons.mp (written_subset hwritten hmem) with heq | hmem
      · exact hsave heq
      · exact hfield hmem
  have hmode : next.readOutMode = .image :=
    (hnamed.readOutMode_eq (readOutMode_not_mem_namedFields command)).trans
      hready.readOutMode
  refine ⟨next, ?_, ⟨hmode, hdir⟩, hnamed⟩
  rw [step, hserve]
  rfl

theorem run_ready {params : AndorParameters} {commands : List Command}
    (hready : Ready params) (hwithin : ∀ command ∈ commands, command.StaysWithin) :
    ∃ final, Runs.run step params commands = some final ∧ Ready final := by
  induction commands generalizing params with
  | nil => exact ⟨params, rfl, hready⟩
  | cons command rest ih =>
      obtain ⟨next, hstep, hnext, -⟩ := step_ready hready (hwithin command List.mem_cons_self)
      obtain ⟨final, hrun, hfinal⟩ :=
        ih hnext fun later hlater => hwithin later (List.mem_cons_of_mem command hlater)
      exact ⟨final, Runs.run_cons_eq_some.mpr ⟨next, hstep, hrun⟩, hfinal⟩

/-- In a session whose commands stay within their memory, every command changes the
members it names only, and the read-out mode stays what it was set to at the start. -/
theorem command_changes_named_fields_only (memory : List UInt8) (commands : List Command)
    (hwithin : ∀ command ∈ commands, command.StaysWithin)
    (before : List Command) (command : Command) (after : List Command)
    (hsession : commands = before ++ command :: after) :
    ∃ params next,
      Runs.run step (AndorParameters.initial memory) before = some params ∧
      step params command = some next ∧
      AgreeOff command.namedFields params next ∧
      params.readOutMode = .image ∧ next.readOutMode = .image := by
  subst commands
  have hbefore : ∀ earlier ∈ before, earlier.StaysWithin := fun earlier hearlier =>
    hwithin earlier (List.mem_append_left _ hearlier)
  obtain ⟨params, hrun, hready⟩ := run_ready (ready_initial memory) hbefore
  obtain ⟨next, hstep, hnext, hagree⟩ := step_ready hready
    (hwithin command (List.mem_append_right _ List.mem_cons_self))
  exact ⟨params, next, hrun, hstep, hagree, hready.readOutMode, hnext.readOutMode⟩

/-- Answers of a camera that accepts everything. -/
def willingCamera : SetParamAnswers :=
  { getNumberHSSpeeds := .success, numSpeeds := 4, getHSSpeed := .success,
    getPreAmpGain := .success }

def binCommand : Command :=
  ⟨ascii "image --hbin 2 --filename m31", by decide, fun _ => willingCamera⟩

def gainCommand : Command :=
  ⟨ascii "setparam observername=night preampgain=9", by decide, fun _ => willingCamera⟩

theorem binCommand_written :
    binCommand.written .image = .ok [.imageHbin, .imageFilename, .saveDir] := by
  decide +kernel

theorem gainCommand_written : gainCommand.written .image = .ok [.observerName] := by
  decide +kernel

theorem gainCommand_changes_named_fields_only :
    ∃ params next,
      Runs.run step (AndorParameters.initial []) [binCommand] = some params ∧
      step params gainCommand = some next ∧
      AgreeOff gainCommand.namedFields params next ∧
      params.readOutMode = .image ∧ next.readOutMode = .image := by
  refine command_changes_named_fields_only [] [binCommand, gainCommand] ?_
    [binCommand] gainCommand [] rfl
  intro command hcommand
  simp only [List.mem_cons, List.not_mem_nil, or_false] at hcommand
  rcases hcommand with rfl | rfl
  · exact ⟨_, binCommand_written⟩
  · exact ⟨_, gainCommand_written⟩

/-- An observer name of 32 characters: its terminating NUL is the first byte behind the
member. -/
def overlongCommand : Command :=
  ⟨ascii "setparam observername=abcdefghijklmnopqrstuvwxyz012345", by decide,
    fun _ => willingCamera⟩

theorem overlong_observername_changes_readOutMode :
    ∃ next, step (AndorParameters.initial []) overlongCommand = some next ∧
      .readOutMode ∉ overlongCommand.namedFields ∧ next.readOutMode ≠ .image := by
  have hmode : (step (AndorParameters.initial []) overlongCommand).map
      AndorParameters.readOutMode = some .fullVerticalBinning := by
    decide +kernel
  obtain ⟨next, hstep, hnext⟩ := Option.map_eq_some_iff.mp hmode
  refine ⟨next, hstep, readOutMode_not_mem_namedFields _, ?_⟩
  rw [hnext]
  decide

end Andor2k
