/-
Rejected commands.  A command is not undone when it is refused, so the question is what
it leaves behind.  The save directory may be left changed without harm: every later
command does the same whatever it holds, and an accepted `image` command sets it anew.
-/
import Andor2k.UnreadMembers

namespace Andor2k

open CText Ieee

def AndorParameters.withSaveDir (params : AndorParameters) (dir : CharArray 128) :
    AndorParameters := { params with saveDir := dir }

/-- Parameters that differ in the save directory at most. -/
def SameButSaveDir (params other : AndorParameters) : Prop :=
  ∃ dir, other = params.withSaveDir dir

theorem sameButSaveDir_of_fieldBytes {params other : AndorParameters}
    (hbytes : ∀ field, field ≠ .saveDir →
      other.fieldBytes field = params.fieldBytes field) :
    SameButSaveDir params other := by
  refine ⟨other.saveDir, AndorParameters.eq_of_fieldBytes_eq ?_⟩
  funext field
  by_cases hfield : field = .saveDir
  · subst field
    rfl
  · rw [hbytes field hfield]
    cases field <;> first | rfl | simp at hfield

def OptionResult.withSaveDir (dir : CharArray 128) : OptionResult → OptionResult
  | .kept params => .kept (params.withSaveDir dir)
  | .refused status params => .refused status (params.withSaveDir dir)

/-- Another save directory, everything else as it was. -/
def onlySaveDir (dir : CharArray 128) : Unread := ⟨some dir, none, none⟩

theorem afterOption_onlySaveDir (dir : CharArray 128) (option : ImageOption) (value : Text) :
    (onlySaveDir dir).afterOption option value = onlySaveDir dir := by
  unfold Unread.afterOption
  split
  · rfl
  · cases option with
    | _ => rfl

theorem ImageOption.store_withSaveDir (option : ImageOption) (params : AndorParameters)
    (dir : CharArray 128) (value : Text) :
    option.store (params.withSaveDir dir) value =
      (option.store params value).withSaveDir dir := by
  have hstore := option.store_replace params (onlySaveDir dir) value
  rw [afterOption_onlySaveDir] at hstore
  refine hstore.trans ?_
  cases option.store params value with
  | kept after => rfl
  | refused status after => rfl

/-- The same status, and parameters that differ in the save directory at most. -/
inductive SameReply : Checked Reply → Checked Reply → Prop where
  | fault (fault : Fault) : SameReply (.error fault) (.error fault)
  | reply (status : Int) {params other : AndorParameters}
      (hsame : SameButSaveDir params other) :
      SameReply (.ok ⟨status, params⟩) (.ok ⟨status, other⟩)

theorem setOptions_same {params other : AndorParameters}
    (hsame : SameButSaveDir params other) (sdk : Nat → SetParamAnswers) (index : Nat)
    (tokens : Tokens) :
    SameReply (setOptions sdk index tokens params) (setOptions sdk index tokens other) := by
  obtain ⟨dir, rfl⟩ := hsame
  have hreplace := setOptions_replace params (onlySaveDir dir) sdk index tokens
  change setOptions sdk index tokens (params.withSaveDir dir) = _ at hreplace
  rw [hreplace]
  cases setOptions sdk index tokens params with
  | error fault => exact .fault fault
  | ok reply => exact .reply reply.status ⟨dir, rfl⟩

theorem finishImage_withSaveDir (params : AndorParameters) (dir : CharArray 128) :
    finishImage (params.withSaveDir dir) = finishImage params := rfl

/-- An accepted `image` command even ends in the same parameters. -/
theorem resolveOptions_same {params other : AndorParameters}
    (hsame : SameButSaveDir params other) (hmode : params.readOutMode = .image)
    (tokens : Tokens) :
    SameReply (resolveOptions tokens params) (resolveOptions tokens other) ∧
      ∀ after, resolveOptions tokens params = .ok ⟨0, after⟩ →
        resolveOptions tokens other = .ok ⟨0, after⟩ := by
  induction tokens, params using resolveOptions.induct generalizing other with
  | case1 params =>
      obtain ⟨dir, rfl⟩ := hsame
      simp only [resolveOptions, finishImage_withSaveDir]
      exact ⟨.reply (finishImage params).status ⟨_, rfl⟩, fun after hafter => hafter⟩
  | case2 params => exact ⟨.fault .outOfBounds, fun after hafter => hafter⟩
  | case3 word rest params hoption ih =>
      simp only [resolveOptions, hoption]
      exact ih hsame hmode
  | case4 word params option hoption =>
      simp only [resolveOptions, hoption]
      exact ⟨.reply 1 hsame, by simp⟩
  | case5 word params option hoption =>
      simp only [resolveOptions, hoption]
      exact ⟨.fault .outOfBounds, by simp⟩
  | case6 word params option hoption value rest status after hstore =>
      obtain ⟨dir, rfl⟩ := hsame
      obtain ⟨-, hstatus⟩ := ImageOption.refused_of_store hmode hstore
      simp only [resolveOptions, hoption, option.store_withSaveDir, hstore,
        OptionResult.withSaveDir]
      exact ⟨.reply status ⟨dir, rfl⟩, by simp [hstatus]⟩
  | case7 word params option hoption value rest after hstore ih =>
      obtain ⟨dir, rfl⟩ := hsame
      obtain ⟨-, hstill⟩ := ImageOption.kept_of_store hmode hstore
      simp only [resolveOptions, hoption, option.store_withSaveDir, hstore,
        OptionResult.withSaveDir]
      exact ih ⟨dir, rfl⟩ hstill

theorem parserReply_same {params other : AndorParameters}
    (hsame : SameButSaveDir params other) (command : Command) :
    (parserReply command params = none ∧ parserReply command other = none) ∨
      ∃ first second, parserReply command params = some first ∧
        parserReply command other = some second ∧ SameReply first second ∧
        (handlerOf command.buffer = .getImage →
          ∀ after, first = .ok ⟨0, after⟩ → second = .ok ⟨0, after⟩) := by
  by_cases himage : handlerOf command.buffer = .getImage
  · have hmode : other.readOutMode = params.readOutMode := by
      obtain ⟨dir, rfl⟩ := hsame
      rfl
    refine Or.inr ⟨_, _, parserReply_getImage params himage,
      parserReply_getImage other himage, ?_⟩
    rw [hmode]
    by_cases hready : params.readOutMode = .image
    · simp only [hready, ne_eq, not_true_eq_false, ↓reduceIte]
      have hreplies := resolveOptions_same hsame hready command.words
      exact ⟨hreplies.1, fun _ => hreplies.2⟩
    · simp only [ne_eq, hready, not_false_eq_true, ↓reduceIte]
      exact ⟨.reply 4 hsame, by simp⟩
  · by_cases hset : handlerOf command.buffer = .setParamValue
    · exact Or.inr ⟨_, _, parserReply_setParamValue params hset,
        parserReply_setParamValue other hset, setOptions_same hsame _ _ _,
        fun hcontra => absurd hcontra himage⟩
    · exact Or.inl ⟨parserReply_other params himage hset,
        parserReply_other other himage hset⟩

theorem serve_same {params other : AndorParameters} (hsame : SameButSaveDir params other)
    (command : Command) :
    (∃ fault, serve params command = .error fault ∧ serve other command = .error fault) ∨
      ∃ next later, serve params command = .ok next ∧ serve other command = .ok later ∧
        SameButSaveDir next later := by
  unfold serve
  rcases parserReply_same hsame command with
    ⟨hfirst, hsecond⟩ | ⟨_, _, hfirst, hsecond, hreplies, -⟩
  · rw [hfirst, hsecond]
    exact Or.inr ⟨params, other, rfl, rfl, hsame⟩
  · rw [hfirst, hsecond]
    cases hreplies with
    | fault fault => exact Or.inl ⟨fault, rfl, rfl⟩
    | reply status hparams => exact Or.inr ⟨_, _, rfl, rfl, hparams⟩

theorem requested_same {params other : AndorParameters}
    (hsame : SameButSaveDir params other) (command : Command) :
    requested params command = requested other command := by
  unfold requested
  cases hhandler : handlerOf command.buffer with
  | getImage =>
      rcases parserReply_same hsame command with
        ⟨hfirst, hsecond⟩ | ⟨first, second, hfirst, hsecond, hreplies, haccepted⟩
      · rw [hfirst, hsecond]
      · rw [hfirst, hsecond]
        cases hreplies with
        | fault fault => rfl
        | @reply status after later hparams =>
            by_cases hstatus : status = 0
            · subst status
              have heq := haccepted hhandler after rfl
              simp only [Except.ok.injEq, Reply.mk.injEq, true_and] at heq
              simp only [↓reduceIte, heq]
            · simp only [hstatus, ↓reduceIte]
  | _ => rfl

/-- The save directory a command leaves behind has no influence on later acquisitions. -/
theorem acquisitions_same {params other : AndorParameters}
    (hsame : SameButSaveDir params other) (commands : List Command) :
    acquisitions params commands = acquisitions other commands := by
  induction commands generalizing params other with
  | nil => rfl
  | cons command rest ih =>
      simp only [acquisitions, requested_same hsame command]
      split
      · rfl
      · rcases serve_same hsame command with
          ⟨fault, hfirst, hsecond⟩ | ⟨next, later, hfirst, hsecond, hnext⟩
        · rw [hfirst, hsecond]
        · rw [hfirst, hsecond]
          simp only [ih hnext]

/-- A rejected command keeps everything except what it had already written, asks for no
acquisition, and where what it had written was there before, no later acquisition
depends on it. -/
theorem rejected_command_keeps_unwritten_fields {params : AndorParameters}
    {command : Command} {fields : List Field} {reply : Reply}
    (hwritten : command.written params.readOutMode = .ok fields)
    (hreply : parserReply command params = some (.ok reply)) (hrejected : reply.status ≠ 0) :
    AgreeOff fields params reply.params ∧
      requested params command = none ∧
      ((∀ field ∈ fields, field ≠ .saveDir →
          reply.params.fieldBytes field = params.fieldBytes field) →
        ∀ later, acquisitions params (command :: later) = acquisitions params later) := by
  obtain ⟨same, hsame, hleaves⟩ := parserReply_leaves hwritten hreply
  simp only [Except.ok.injEq] at hsame
  subst same
  have hnone : requested params command = none := by
    unfold requested
    rw [hreply]
    split
    · rename_i heq
      simp only [Option.some.injEq, Except.ok.injEq] at heq
      rw [← heq, if_neg hrejected]
    · rfl
  have hserve : serve params command = .ok reply.params := by
    rw [serve, hreply]
  have hshutdown : handlerOf command.buffer ≠ .shutdown := by
    intro hhandler
    simp [parserReply, hhandler] at hreply
  refine ⟨hleaves.agree, hnone, fun hrewritten later => ?_⟩
  have hbytes : ∀ field, field ≠ .saveDir →
      reply.params.fieldBytes field = params.fieldBytes field := by
    intro field hfield
    by_cases hmem : field ∈ fields
    · exact hrewritten field hmem hfield
    · exact hleaves.agree field hmem
  have hlater := acquisitions_same (sameButSaveDir_of_fieldBytes hbytes) later
  simp only [acquisitions, if_neg hshutdown, hserve, hnone, Option.toList_none,
    List.nil_append, ← hlater]
  cases acquisitions params later with
  | error fault => rfl
  | ok performed => rfl

def zeroBinCommand : Command :=
  ⟨ascii "image --hbin 0", by decide, fun _ => willingCamera⟩

theorem imageWord_fits : (ascii "image").length ≤ maxSocketBufferSize := by decide

def plainCommand : Command := ⟨ascii "image", imageWord_fits, fun _ => willingCamera⟩

/-- The parameters behind `image --hbin 0` at the start of a session. -/
def zeroBinParams : AndorParameters :=
  { AndorParameters.initial [] with
    imageHbin := 0, saveDir := AndorParameters.fixedSaveDir }

theorem parserReply_zeroBinCommand :
    parserReply zeroBinCommand (AndorParameters.initial []) =
      some (.ok ⟨2, zeroBinParams⟩) := by
  decide +kernel

theorem zero_bin_keeps_unwritten_fields :
    AgreeOff [.imageHbin, .saveDir] (AndorParameters.initial []) zeroBinParams ∧
      requested (AndorParameters.initial []) zeroBinCommand = none ∧
      ((∀ field ∈ [Field.imageHbin, Field.saveDir], field ≠ .saveDir →
          zeroBinParams.fieldBytes field =
            (AndorParameters.initial []).fieldBytes field) →
        ∀ later, acquisitions (AndorParameters.initial []) (zeroBinCommand :: later) =
          acquisitions (AndorParameters.initial []) later) :=
  rejected_command_keeps_unwritten_fields (by decide +kernel) parserReply_zeroBinCommand
    (by decide)

/-- The rejected command leaves its binning behind, and the next one is refused for it. -/
theorem rejected_zero_bin_refuses_next_image :
    ∃ reply,
      parserReply zeroBinCommand (AndorParameters.initial []) = some (.ok reply) ∧
      reply.status ≠ 0 ∧ reply.params ≠ AndorParameters.initial [] ∧
      acquisitions (AndorParameters.initial []) [zeroBinCommand, plainCommand] ≠
        acquisitions (AndorParameters.initial []) [plainCommand] := by
  have hwith : (acquisitions (AndorParameters.initial [])
      [zeroBinCommand, plainCommand]).map List.length = .ok 0 := by decide +kernel
  have hwithout : (acquisitions (AndorParameters.initial [])
      [plainCommand]).map List.length = .ok 1 := by decide +kernel
  refine ⟨⟨2, zeroBinParams⟩, parserReply_zeroBinCommand, by decide, ?_, ?_⟩
  · intro heq
    have hbin : zeroBinParams.imageHbin = (AndorParameters.initial []).imageHbin := by
      rw [← heq]
    exact absurd hbin (by decide)
  · intro heq
    rw [heq, hwithout] at hwith
    exact absurd hwith (by decide)

end Andor2k
