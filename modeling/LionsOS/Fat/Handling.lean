/-
This file follows one command through its handler. From each call of FatFs the
handler goes on with the reply, and around the call others may have changed what
the handlers share; which changes these are is a parameter, so that a handler may
be followed on its own or among others. Every command that a worker handles is
handled in this way, whatever the other workers do meanwhile.
-/

import LionsOS.Fat.FatFsModel

open Function

namespace LionsOS.Fat

open LionsOS.Fs StepRun

variable {fatfs : FatFs} {Worker : Type} {segment last : Segment fatfs} {reply : FatFsReply}
  {fd status' : UInt64T}

variable {result : Option UInt64T} {status : UInt64T} {files after : FatFiles fatfs} {fuel : Nat}
  {params : CmdParams} {type : CmdType}

/-- A call of FatFs with what it returned. -/
structure Answer where
  call : FatFsCall
  reply : FatFsReply

variable {answers : List Answer} {Allowed : Answer → Prop}

/-- From one segment a handler gets to another by these calls, where others may change what the
handlers share as `between` says before and after FatFs acts. -/
inductive Handles (between : FatFiles fatfs → FatFiles fatfs → Prop) :
    Segment fatfs → List Answer → Segment fatfs → Prop
  | stays (segment : Segment fatfs) : Handles between segment [] segment
  | calls {segment last : Segment fatfs} {call : FatFsCall} {stage : HandlerStage}
      {reply : FatFsReply} {before after : FatFiles fatfs} {volume : fatfs.Volume}
      {share : Nat → UInt8T} {answers : List Answer}
      (waits : segment.progress = .inCall call stage) (others : between segment.files before)
      (acts : fatfs.Acts call before.volume before.share reply volume share)
      (othersAgain : between { before with volume, share } after)
      (rest : Handles between (resume after reply stage) answers last) :
      Handles between segment (⟨call, reply⟩ :: answers) last

/-- A command is handled, from its first segment to its completion. -/
def Handled (between : FatFiles fatfs → FatFiles fatfs → Prop) (type : CmdType)
    (params : CmdParams) (files : FatFiles fatfs) (answers : List Answer) (status : UInt64T)
    (result : Option UInt64T) (after : FatFiles fatfs) : Prop :=
  ∃ last, Handles between (operationFunctions type params files) answers last ∧
    last.progress = .finished status result ∧ last.files = after

namespace Handles

variable {between : FatFiles fatfs → FatFiles fatfs → Prop} {middle : Segment fatfs}
  {later : List Answer}

variable {result' : Option UInt64T}

theorem trans (first : Handles between segment answers middle)
    (second : Handles between middle later last) :
    Handles between segment (answers ++ later) last := by
  induction first with
  | stays => exact second
  | calls waits others acts othersAgain _ inductionHypothesis =>
    exact calls waits others acts othersAgain (inductionHypothesis second)

theorem mono {wider : FatFiles fatfs → FatFiles fatfs → Prop}
    (handles : Handles between segment answers last)
    (allows : ∀ files after, between files after → wider files after) :
    Handles wider segment answers last := by
  induction handles with
  | stays => exact stays _
  | calls waits others acts othersAgain _ inductionHypothesis =>
    exact calls waits (allows _ _ others) acts (allows _ _ othersAgain) inductionHypothesis

/-- What holds of a segment and goes on to hold with each reply that is allowed holds of the last. -/
theorem rule {Holds : Segment fatfs → Prop} {Allowed : Answer → Prop}
    (handles : Handles between segment answers last)
    (step : ∀ segment call stage reply (before after : FatFiles fatfs) volume share,
      Holds segment → segment.progress = .inCall call stage → Allowed ⟨call, reply⟩ →
        between segment.files before →
          fatfs.Acts call before.volume before.share reply volume share →
            between { before with volume, share } after → Holds (resume after reply stage))
    (first : Holds segment) (allowed : ∀ answer ∈ answers, Allowed answer) : Holds last := by
  induction handles with
  | stays => exact first
  | calls waits others acts othersAgain _ inductionHypothesis =>
    exact inductionHypothesis
      (step _ _ _ _ _ _ _ _ first waits (allowed _ List.mem_cons_self) others acts othersAgain)
      fun answer member => allowed answer (List.mem_cons_of_mem _ member)

section

variable (handles : Handles between segment answers last)
include handles

theorem all_of_acts
    (allowed : ∀ {call volume share reply volume' share'},
      fatfs.Acts call volume share reply volume' share' → Allowed ⟨call, reply⟩) :
    ∀ answer ∈ answers, Allowed answer := by
  induction handles with
  | stays => exact fun answer member => absurd member List.not_mem_nil
  | calls _ _ acts _ _ inductionHypothesis =>
    exact List.forall_mem_cons.mpr ⟨allowed acts, inductionHypothesis⟩

theorem of_finished (finished : segment.progress = .finished status result) :
    answers = [] ∧ last = segment := by
  cases handles with
  | stays => exact ⟨rfl, rfl⟩
  | calls waits =>
    rw [finished] at waits
    cases waits

theorem of_failed (failed : segment.progress = .failedAssertion) :
    answers = [] ∧ last = segment := by
  cases handles with
  | stays => exact ⟨rfl, rfl⟩
  | calls waits =>
    rw [failed] at waits
    cases waits

/-- A handler that is in a call and finishes in the end goes on with a reply. -/
theorem of_inCall {call : FatFsCall} {stage : HandlerStage}
    (waits : segment.progress = .inCall call stage)
    (finished : last.progress = .finished status result) :
    ∃ reply before after volume share rest, answers = ⟨call, reply⟩ :: rest ∧
      between segment.files before ∧
      fatfs.Acts call before.volume before.share reply volume share ∧
      between { before with volume, share } after ∧
      Handles between (resume after reply stage) rest last := by
  cases handles with
  | stays =>
    rw [waits] at finished
    cases finished
  | calls inCall others acts othersAgain rest =>
    rw [waits] at inCall
    cases inCall
    exact ⟨_, _, _, _, _, _, rfl, others, acts, othersAgain, rest⟩

end

theorem volume_of_endOp
    (handles : Handles between (endOp files fd fun files => finish files status result) answers
      last) (finished : last.progress = .finished status' result') :
    last.files.volume = files.volume := by
  unfold endOp asserting at handles
  split at handles
  · obtain ⟨_, rfl⟩ := handles.of_failed rfl
    cases finished
  · rename_i ended
    obtain ⟨table, _, rfl⟩ := Option.map_eq_some_iff.mp ended
    obtain ⟨_, rfl⟩ := handles.of_finished rfl
    rfl

theorem completion_of_endOp
    (handles : Handles between (endOp files fd fun files => finish files status' result') answers
      last) (finished : last.progress = .finished status result) :
    answers = [] ∧ status = status' ∧ result = result' := by
  unfold endOp asserting at handles
  split at handles
  · obtain ⟨_, rfl⟩ := handles.of_failed rfl
    cases finished
  · obtain ⟨none, rfl⟩ := handles.of_finished rfl
    cases finished
    exact ⟨none, rfl, rfl⟩

end Handles

/-! ### Commands on their own -/

/-- A command is handled while nobody else changes anything. -/
abbrev HandledAlone (type : CmdType) (params : CmdParams) (files : FatFiles fatfs)
    (answers : List Answer) (status : UInt64T) (result : Option UInt64T)
    (after : FatFiles fatfs) : Prop :=
  Handled Eq type params files answers status result after

/-- What a FatFs that is computed does in its calls, on its own. -/
abbrev Performing (fatfs : FatFs) : Type :=
  FatFsCall → fatfs.Volume → (Nat → UInt8T) → FatFsReply × fatfs.Volume × (Nat → UInt8T)

variable {perform : Performing fatfs}

/-- Follow a handler for at most so many calls. -/
def follow (perform : Performing fatfs) : Nat → Segment fatfs → Option (List Answer × Segment fatfs)
  | 0, segment =>
    match segment.progress with
    | .inCall _ _ => none
    | _ => some ([], segment)
  | fuel + 1, segment =>
    match segment.progress with
    | .inCall call stage =>
      let acted := perform call segment.files.volume segment.files.share
      let files := { segment.files with volume := acted.2.1, share := acted.2.2 }
      (follow perform fuel (resume files acted.1 stage)).map fun rest =>
        (⟨call, acted.1⟩ :: rest.1, rest.2)
    | _ => some ([], segment)

/-- The status and the result with which a segment finishes. -/
def Segment.completion (segment : Segment fatfs) : Option (UInt64T × Option UInt64T) :=
  match segment.progress with
  | .finished status result => some (status, result)
  | _ => none

section

variable
  (acts : ∀ call volume share reply volume' share', perform call volume share = (reply, volume',
    share') → fatfs.Acts call volume share reply volume' share')
include acts

theorem handles_of_follow (followed : follow perform fuel segment = some (answers, last)) :
    Handles Eq segment answers last := by
  induction fuel generalizing segment answers with
  | zero =>
    unfold follow at followed
    split at followed
    · cases followed
    · cases followed
      exact .stays _
  | succ fuel inductionHypothesis =>
    unfold follow at followed
    split at followed
    · rename_i call stage waits
      obtain ⟨⟨later, _⟩, rest, same⟩ := Option.map_eq_some_iff.mp followed
      cases same
      exact .calls waits rfl (acts _ _ _ _ _ _ rfl) rfl (inductionHypothesis rest)
    · cases followed
      exact .stays _

/-- A command whose completion is computed is handled on its own. -/
theorem handledAlone_of_follow {answers : List Answer} {last : Segment fatfs}
    (followed : follow perform fuel (operationFunctions type params files) = some (answers, last))
    (finished : last.completion = some (status, result)) :
    HandledAlone type params files answers status result last.files := by
  refine ⟨last, handles_of_follow acts followed, ?_, rfl⟩
  unfold Segment.completion at finished
  split at finished
  · cases finished
    assumption
  · cases finished

end

/-! ### Commands in turn -/

/-- A command with the status and the result of its completion. -/
structure CompletedCommand where
  type : CmdType
  params : CmdParams
  status : UInt64T
  result : Option UInt64T

/-- Commands are handled one after the other, each on its own. -/
inductive HandledInTurn : FatFiles fatfs → List CompletedCommand → FatFiles fatfs → Prop
  | nil (files : FatFiles fatfs) : HandledInTurn files [] files
  | cons {files middle after : FatFiles fatfs} {command : CompletedCommand}
      {later : List CompletedCommand} {answers : List Answer}
      (handled : HandledAlone command.type command.params files answers command.status
        command.result middle)
      (rest : HandledInTurn middle later after) : HandledInTurn files (command :: later) after

/-- Follow commands one after the other, each for at most so many calls. -/
def followInTurn (perform : Performing fatfs) (fuel : Nat) :
    List (CmdType × CmdParams) → FatFiles fatfs → Option (List CompletedCommand × FatFiles fatfs)
  | [], files => some ([], files)
  | (type, params) :: commands, files =>
    (follow perform fuel (operationFunctions type params files)).bind fun followed =>
      followed.2.completion.bind fun (status, result) =>
        (followInTurn perform fuel commands followed.2.files).map fun rest =>
          ({ type, params, status, result } :: rest.1, rest.2)

/-- Commands whose completions are computed are handled in turn. -/
theorem handledInTurn_of_follow
    (acts : ∀ call volume share reply volume' share', perform call volume share =
      (reply, volume', share') → fatfs.Acts call volume share reply volume' share')
    {commands : List (CmdType × CmdParams)} {completed : List CompletedCommand}
    (followed : followInTurn perform fuel commands files = some (completed, after)) :
    HandledInTurn files completed after := by
  induction commands generalizing files completed with
  | nil =>
    cases followed
    exact .nil _
  | cons command commands inductionHypothesis =>
    obtain ⟨⟨answers, last⟩, first, goesOn⟩ := Option.bind_eq_some_iff.mp followed
    obtain ⟨⟨status, result⟩, finished, goesOn⟩ := Option.bind_eq_some_iff.mp goesOn
    obtain ⟨⟨later, _⟩, rest, same⟩ := Option.map_eq_some_iff.mp goesOn
    cases same
    exact .cons (handledAlone_of_follow acts first finished) (inductionHypothesis rest)

/-! ### Commands of the workers -/

namespace FatWorkers

variable [DecidableEq Worker] {workers next : FatWorkers fatfs Worker}

variable {worker : Worker}

/-- An operation has come from the start of its command, and its reply is one of FatFs. -/
def Follows (fatfs : FatFs) (operation : Operation) : Prop :=
  ∃ (files : FatFiles fatfs) (answers : List Answer) (segment : Segment fatfs),
    Handles (fun _ _ => True) (operationFunctions operation.type operation.params files) answers
        segment ∧
      segment.progress = .inCall operation.call operation.stage ∧
      ∀ reply, operation.reply = some reply →
        ∃ (before : FatFiles fatfs) (volume : fatfs.Volume) (share : Nat → UInt8T),
          fatfs.Acts operation.call before.volume before.share reply volume share

/-- Every operation in progress has come from the start of its command. -/
def Followed (workers : FatWorkers fatfs Worker) : Prop :=
  ∀ worker operation, workers.working worker = some operation → Follows fatfs operation

/-- What a handler gets to with the reply to its call, whatever others have changed. -/
theorem Follows.resume {operation : Operation} {reply : FatFsReply}
    (follows : Follows fatfs operation) (replied : operation.reply = some reply)
    (after : FatFiles fatfs) :
    ∃ (files : FatFiles fatfs) (answers : List Answer),
      Handles (fun _ _ => True) (operationFunctions operation.type operation.params files) answers
        (Fat.resume after reply operation.stage) := by
  obtain ⟨files, answers, segment, handles, waits, replies⟩ := follows
  obtain ⟨before, volume, share, acts⟩ := replies reply replied
  exact ⟨files, _, handles.trans (.calls waits trivial acts trivial (.stays _))⟩

theorem Followed.advance (followed : workers.Followed)
    (handles : ∃ (files : FatFiles fatfs) (answers : List Answer),
      Handles (fun _ _ => True) (operationFunctions type params files) answers segment) :
    (workers.advance worker type params segment).Followed := by
  intro other operation working
  rcases eq_or_ne other worker with rfl | different
  · rw [working_advance_self] at working
    obtain ⟨call, stage, ended, rfl⟩ := afterSegment_eq_some working
    obtain ⟨files, answers, handles⟩ := handles
    refine ⟨files, answers, segment, handles, ended, ?_⟩
    rintro _ ⟨⟩
  · rw [working_advance_of_ne different] at working
    exact followed other operation working

theorem Followed.step {event : WorkerEvent fatfs Worker} (followed : workers.Followed)
    (step : Step workers event next) : next.Followed := by
  cases step with
  | spawn alive idle => exact followed.advance ⟨_, [], .stays _⟩
  | act alive working waiting acts =>
    rename_i worker operation reply volume share
    intro other after found
    dsimp only at found
    rcases eq_or_ne other worker with rfl | different
    · rw [update_self] at found
      cases found
      obtain ⟨files, answers, segment, handles, waits, _⟩ := followed other operation working
      refine ⟨files, answers, segment, handles, waits, ?_⟩
      rintro _ ⟨⟩
      exact ⟨workers.files, volume, share, acts⟩
    · rw [update_of_ne different] at found
      exact followed other after found
  | resume alive working replied => exact followed.advance ((followed _ _ working).resume replied _)
  | writeShare alive => exact followed

/-- The segment that a worker is in, alone. -/
theorem run_of_handles (handles : Handles Eq segment answers last)
    (finished : last.progress = .finished status result) (alive : workers.assertionFailed = false) :
    ∃ events final, Run Step (workers.advance worker type params segment) events final ∧
      final.files = last.files ∧ final.working worker = none ∧ final.assertionFailed = false := by
  induction handles generalizing workers with
  | stays segment =>
    refine ⟨[], _, Run.nil, rfl, ?_, ?_⟩
    · rw [working_advance_self, finished]
      rfl
    · simp only [advance, finished, alive]
  | @calls segment _ call stage reply before after volume share _ waits others acts othersAgain _
      inductionHypothesis =>
    subst others othersAgain
    have aliveNow : (workers.advance worker type params segment).assertionFailed = false := by
      simp only [advance, waits, alive]
    have working : (workers.advance worker type params segment).working worker =
        some { type, params, call, stage, reply := none } := by
      rw [working_advance_self, waits]
      rfl
    have acted := Step.act aliveNow working rfl acts
    obtain ⟨middle, same⟩ : ∃ middle, middle =
        { workers.advance worker type params segment with
          files := { segment.files with volume, share }
          working := update (workers.advance worker type params segment).working worker
            (some { type, params, call, stage, reply := some reply }) } := ⟨_, rfl⟩
    have aliveMiddle : middle.assertionFailed = false := by rw [same]; exact aliveNow
    have workingMiddle : middle.working worker =
        some { type, params, call, stage, reply := some reply } := by
      rw [same]
      exact update_self _ _ _
    have resumed := Step.resume aliveMiddle workingMiddle rfl
    obtain ⟨events, final, run, rest⟩ := inductionHypothesis finished aliveMiddle
    have files : middle.files = { segment.files with volume, share } := by rw [same]
    rw [← files] at run
    exact ⟨_, final, ((Run.single (same ▸ acted)).snoc resumed).trans run, rest⟩

/-- An idle worker can do what is done of a command alone. -/
theorem run_of_handledAlone
    (handled : HandledAlone type params workers.files answers status result files)
    (alive : workers.assertionFailed = false) (idle : workers.working worker = none) :
    ∃ events final, Run Step workers events final ∧ final.files = files ∧
      final.working worker = none ∧ final.assertionFailed = false := by
  obtain ⟨last, handles, finished, rfl⟩ := handled
  obtain ⟨events, final, run, rest⟩ := run_of_handles handles finished alive
  exact ⟨_, final, (Run.single (.spawn alive idle)).trans run, rest⟩

/-- An idle worker can do what is done of commands in turn. -/
theorem run_of_handledInTurn {commands : List CompletedCommand}
    (handled : HandledInTurn files commands after) (same : workers.files = files)
    (alive : workers.assertionFailed = false) (idle : workers.working worker = none) :
    ∃ events final, Run Step workers events final ∧ final.files = after ∧
      final.working worker = none ∧ final.assertionFailed = false := by
  induction handled generalizing workers with
  | nil => exact ⟨[], workers, Run.nil, same, idle, alive⟩
  | cons handled _ inductionHypothesis =>
    subst same
    obtain ⟨events, middle, run, files, idle, alive⟩ := run_of_handledAlone handled alive idle
    obtain ⟨later, final, rest, ends⟩ := inductionHypothesis files alive idle
    exact ⟨_, final, run.trans rest, ends⟩

end FatWorkers

end LionsOS.Fat
