/-
This file is about the size that a file object keeps. It is found when the file is
opened and from then on only corrected by the object itself: by writes behind the end,
and by seeks. A truncation does not reset it, and a seek behind the end moves it.
-/

import LionsOS.Micropython.OpenFailures

namespace LionsOS.Micropython

open StepRun
open Fs (fsStatusSuccess)

/-! ### Servers that keep sizes -/

/-- A file server with the sizes of its files. Reads that begin in a file leave its size, and bytes
that are written extend it. What else a server does to a file is its own affair: one moves the end
of a file to where a read behind it begins, and another does not. -/
structure SizedServer (Server : Type) extends FileServer Server where
  sizeOf : Server → UInt64T → UInt64T
  size : ∀ fd buffers server,
    (answer (.fileSize fd) buffers server).completion.status = fsStatusSuccess →
    (answer (.fileSize fd) buffers server).completion.data = sizeOf server fd
  sizeKept : ∀ fd buffers server,
    sizeOf (answer (.fileSize fd) buffers server).server fd = sizeOf server fd
  truncated : ∀ fd length buffers server,
    (answer (.fileTruncate fd length) buffers server).completion.status = fsStatusSuccess →
    sizeOf (answer (.fileTruncate fd length) buffers server).server fd = length
  readInside : ∀ fd offset buf buffers server, offset ≤ sizeOf server fd →
    sizeOf (answer (.fileRead fd offset buf) buffers server).server fd = sizeOf server fd
  wrote : ∀ fd offset buf buffers server,
    (answer (.fileWrite fd offset buf) buffers server).completion.status = fsStatusSuccess →
    (answer (.fileWrite fd offset buf) buffers server).completion.data ≠ 0 →
    (sizeOf (answer (.fileWrite fd offset buf) buffers server).server fd).toNat =
      max (sizeOf server fd).toNat
        (offset.toNat + (answer (.fileWrite fd offset buf) buffers server).completion.data.toNat)

/-! ### One object -/

/-- One file object, once it is opened. -/
structure Session (Server : Type) where
  client : FsClient Server
  object : Option VfsFsFile
  /-- The offset of the last call, if it was a seek from the end. -/
  sought : Option UInt64T

inductive FileEvent where
  | opens (text : Bool) (fileIn : FileIn) (modeIn : List Char) (locals : Completion)
    (fresh : VfsFsFile)
  | reads (size : UInt64T) (locals : Completion)
  | writes (buf : List UInt8T) (locals : Completion)
  | seeks (whence : Whence) (offset : UInt64T)

namespace Session

variable {Server : Type}

/-- No file has been opened. -/
def initial (client : FsClient Server) : Session Server where
  client
  object := none
  sought := none

end Session

/-- A step of the object. Calls in which an assertion fires do not end. -/
inductive FileStep {Server : Type} (env : SizedServer Server) (session : Session Server) :
    FileEvent → Session Server → Prop
  | raises {text : Bool} {fileIn : FileIn} {modeIn : List Char} {locals : Completion}
    {fresh : VfsFsFile} {errno : UInt64T} {next : FsClient Server}
    (unopened : session.object = none)
    (opened : mpVfsFsFileOpen env.toFileServer locals fresh session.client.start text fileIn
      modeIn = some (.raises errno, next)) :
    FileStep env session (.opens text fileIn modeIn locals fresh) ⟨next, none, none⟩
  | opens {text : Bool} {fileIn : FileIn} {modeIn : List Char} {locals : Completion}
    {fresh o : VfsFsFile} {next : FsClient Server} (unopened : session.object = none)
    (opened : mpVfsFsFileOpen env.toFileServer locals fresh session.client.start text fileIn
      modeIn = some (.returns o, next)) :
    FileStep env session (.opens text fileIn modeIn locals fresh) ⟨next, some o, none⟩
  | reads {o next : VfsFsFile} {size : UInt64T} {locals : Completion} {result : StreamResult}
    {bytes : List UInt8T} {client : FsClient Server} (object : session.object = some o)
    (read : vfsFsFileRead env.toFileServer locals session.client o size =
      some (result, bytes, next, client)) :
    FileStep env session (.reads size locals) ⟨client, some next, none⟩
  | writes {o next : VfsFsFile} {buf : List UInt8T} {locals : Completion} {result : StreamResult}
    {client : FsClient Server} (object : session.object = some o)
    (written : vfsFsFileWrite env.toFileServer locals session.client o buf =
      some (result, next, client)) :
    FileStep env session (.writes buf locals) ⟨client, some next, none⟩
  | seeks {o : VfsFsFile} {whence : Whence} {offset : UInt64T} (object : session.object = some o) :
    FileStep env session (.seeks whence offset)
      ⟨session.client, some (o.seek whence offset),
        match whence with | .fromEnd => some offset | _ => none⟩

/-! ### What is claimed of the size -/

section Sizes

variable {Server : Type} (env : SizedServer Server)

/-- The object has the size of the file, and a seek from the end has come to where it should. -/
def SizeCached (session : Session Server) : Prop :=
  ∀ o, session.object = some o → o.size = env.sizeOf session.client.server o.fd ∧
      ∀ offset, session.sought = some offset →
        (o.pos.toNat : Int) = (env.sizeOf session.client.server o.fd).toNat + offset.toInt

/-- The answer to a command, if it can be issued. -/
def FsClient.asked (client : FsClient Server) (command : FsCommand) : Option (Answered Server) :=
  if env.available client.server then some (env.answer command client.buffers client.server)
  else none

/-- A file that is opened is not truncated unless it is empty. Where no size can be asked for, what
the object takes for one is right. -/
def SizeFoundWith (mode : OpenMode) (opening : Issued Server) (freed : FsClient Server) : Prop :=
  opening.completion.status = fsStatusSuccess →
  let fd := opening.completion.data
  let sizing := sizeIssued env.toFileServer opening freed
  sizing.completion.status = fsStatusSuccess →
  match (if mode.truncate then sizing.client.asked env (.fileTruncate fd 0) else none) with
  | none => sizing.err = true → fd = env.sizeOf freed.server fd
  | some truncating =>
    truncating.completion.status = fsStatusSuccess → sizing.completion.data = 0

def SizeFound (text : Bool) (fname : List UInt8T) (modeIn : List Char) (locals : Completion)
    (client : FsClient Server) : Prop :=
  ∀ buffer taken freed, client.start.fsBufferAllocate = some (buffer, taken) →
    let opening := openIssued env.toFileServer locals text fname modeIn buffer taken
    opening.client.fsBufferFree buffer = some freed →
    SizeFoundWith env (OpenMode.parse text modeIn) opening freed

/-- The answer to the command of a read, if there is a buffer and an id. -/
def readAnswer (o : VfsFsFile) (size : UInt64T) (client : FsClient Server) :
    Option (Answered Server) :=
  client.fsBufferAllocate.bind fun (buffer, taken) =>
    taken.asked env (.fileRead o.fd o.pos { offset := BitVec.ofNat 64 buffer, size })

/-- Where a read begins behind the end of the file, the server leaves the size. -/
def SizeLeft (o : VfsFsFile) (size : UInt64T) (client : FsClient Server) : Prop :=
  ∀ answered, readAnswer env o size client = some answered → o.pos ≤ env.sizeOf client.server o.fd ∨
      env.sizeOf answered.server o.fd = env.sizeOf client.server o.fd

/-- A write of nothing has the server's file end where the object takes it to end, a write that
fails leaves the size, and where no write can be issued, the object takes no size from it. -/
def SizeFollows (o : VfsFsFile) (buf : List UInt8T) (locals : Completion)
    (client : FsClient Server) : Prop :=
  ∀ buffer taken, client.fsBufferAllocate = some (buffer, taken) →
    match (taken.copyTo buffer buf).asked env
      (.fileWrite o.fd o.pos (bufferAt buffer buf.length)) with
    | none => locals.status = fsStatusSuccess → ¬ o.size < o.pos + locals.data
    | some answered =>
      if answered.completion.status = fsStatusSuccess then
        answered.completion.data = 0 →
          env.sizeOf answered.server o.fd = if o.size < o.pos then o.pos else o.size
      else env.sizeOf answered.server o.fd = env.sizeOf client.server o.fd

/-- The condition on an event. A seek from the end has to stay in the file. -/
def KeepsSize (session : Session Server) : FileEvent → Prop
  | .opens _ (.smallInt fd) _ _ fresh => fresh.size = env.sizeOf session.client.server fd
  | .opens text (.path fname) modeIn locals _ =>
    SizeFound env text fname modeIn locals session.client
  | .reads size _ => ∀ o, session.object = some o → SizeLeft env o size session.client
  | .writes buf locals => ∀ o, session.object = some o →
    SizeFollows env o buf locals session.client
  | .seeks .fromEnd offset => ∀ o, session.object = some o →
    offset.toInt ≤ 0 ∧ 0 ≤ o.size.toNat + offset.toInt
  | .seeks _ _ => True

end Sizes

/-! ### What a call comes to -/

section Steps

variable {Server : Type} {env : SizedServer Server} {client taken after : FsClient Server}
  {buffer : Nat} {completion locals : Completion} {command : FsCommand} {o next : VfsFsFile}
  {bytes : List UInt8T} {buf : List UInt8T}

variable {answered : Answered Server} {result : StreamResult} {size : UInt64T}

theorem asked_eq_some (issued : client.asked env command = some answered) :
    answered = env.answer command client.buffers client.server := by
  unfold FsClient.asked at issued
  split_ifs at issued
  exact (Option.some.inj issued).symm

theorem issued_of_none (unissued : client.asked env command = none) :
    client.fsCommandBlocking env.toFileServer completion command =
      { err := true, completion, client } := by
  unfold FsClient.asked at unissued
  split_ifs at unissued with available
  exact if_neg available

/-- A command that is answered. -/
structure Issued.Answers (issued : Issued Server) (answered : Answered Server) : Prop where
  err : issued.err = false
  completion : issued.completion = answered.completion
  server : issued.client.server = answered.server

theorem issued_of_some (issued : client.asked env command = some answered) :
    (client.fsCommandBlocking env.toFileServer completion command).Answers answered := by
  unfold FsClient.asked at issued
  split_ifs at issued with available
  cases issued
  rw [FsClient.fsCommandBlocking, if_pos available]
  exact ⟨rfl, rfl, rfl⟩

theorem fsBufferAllocate_server (allocated : client.fsBufferAllocate = some (buffer, taken)) :
    taken.server = client.server := by
  obtain ⟨i, _, _, rfl⟩ := FsClient.fsBufferAllocate_eq_some allocated
  rfl

theorem sizeCached_iff : SizeCached env ⟨client, some o, none⟩ ↔
    o.size = env.sizeOf client.server o.fd := by
  constructor
  · exact fun cached => (cached o rfl).1
  · rintro same _ ⟨⟩
    exact ⟨same, fun _ impossible => by cases impossible⟩

/-- A read changes the position only, and the server as it answers. -/
theorem vfsFsFileRead_spec
    (read : vfsFsFileRead env.toFileServer locals client o size = some (result, bytes, next, after)) :
    next.size = o.size ∧ next.fd = o.fd ∧
      after.server = ((readAnswer env o size client).elim client.server Answered.server) := by
  unfold vfsFsFileRead at read
  unfold readAnswer
  cases allocated : client.fsBufferAllocate with
  | none =>
    rw [allocated] at read
    cases read
    exact ⟨rfl, rfl, rfl⟩
  | some held =>
    obtain ⟨buffer, taken⟩ := held
    have server := fsBufferAllocate_server allocated
    rw [allocated] at read
    dsimp only at read
    have issuedServer : (taken.fsCommandBlocking env.toFileServer locals
        (.fileRead o.fd o.pos { offset := BitVec.ofNat 64 buffer, size })).client.server =
        (taken.asked env (.fileRead o.fd o.pos { offset := BitVec.ofNat 64 buffer, size })).elim
          client.server Answered.server := by
      cases asked : taken.asked env
          (.fileRead o.fd o.pos { offset := BitVec.ofNat 64 buffer, size }) with
      | none =>
        rw [issued_of_none asked]
        exact server
      | some answered => exact (issued_of_some asked).server
    split_ifs at read
    · obtain ⟨freed, released, same⟩ := Option.map_eq_some_iff.mp read
      cases same
      exact ⟨rfl, rfl, (FsClient.fsBufferFree_server released).trans issuedServer⟩
    · obtain ⟨freed, released, same⟩ := Option.map_eq_some_iff.mp read
      cases same
      exact ⟨rfl, rfl, (FsClient.fsBufferFree_server released).trans issuedServer⟩

theorem read_sizeCached_iff (cached : o.size = env.sizeOf client.server o.fd)
    (read : vfsFsFileRead env.toFileServer locals client o size = some (result, bytes, next, after)) :
    SizeCached env ⟨after, some next, none⟩ ↔ SizeLeft env o size client := by
  obtain ⟨sameSize, sameFd, server⟩ := vfsFsFileRead_spec read
  rw [sizeCached_iff, sameSize, sameFd, cached, server, SizeLeft]
  cases asked : readAnswer env o size client with
  | none => exact iff_of_true rfl fun _ impossible => by cases impossible
  | some answered =>
    simp only [Option.some.injEq, forall_eq']
    constructor
    · exact fun left => .inr left.symm
    · rintro (inside | left)
      · obtain ⟨⟨buffer, taken⟩, allocated, issued⟩ := Option.bind_eq_some_iff.mp asked
        rw [asked_eq_some issued]
        rw [← fsBufferAllocate_server allocated] at inside ⊢
        exact (env.readInside _ _ _ _ _ inside).symm
      · exact left.symm

/-- The size of an object behind a write. -/
theorem written_size (o : VfsFsFile) (completion : Completion) :
    (o.written completion).2.fd = o.fd ∧ (o.written completion).2.size =
      if completion.status = fsStatusSuccess ∧ o.size < o.pos + completion.data then
        o.pos + completion.data else o.size := by
  unfold VfsFsFile.written
  by_cases succeeded : completion.status = fsStatusSuccess
  · rw [if_neg (not_not_intro succeeded)]
    simp only [succeeded, true_and]
  · rw [if_pos succeeded, if_neg fun both => succeeded both.1]
    exact ⟨rfl, rfl⟩

/-- Without a buffer nothing happens; with one, the object follows the answer, or what is in the
completion that was not filled. -/
theorem vfsFsFileWrite_spec
    (written : vfsFsFileWrite env.toFileServer locals client o buf = some (result, next, after)) :
    (client.fsBufferAllocate = none ∧ next = o ∧ after.server = client.server) ∨
    ∃ buffer taken, client.fsBufferAllocate = some (buffer, taken) ∧
      let asked := (taken.copyTo buffer buf).asked env
        (.fileWrite o.fd o.pos (bufferAt buffer buf.length))
      next = (o.written (asked.elim locals Answered.completion)).2 ∧
        after.server = asked.elim client.server Answered.server := by
  unfold vfsFsFileWrite at written
  cases allocated : client.fsBufferAllocate with
  | none =>
    rw [allocated] at written
    cases written
    exact .inl ⟨rfl, rfl, rfl⟩
  | some held =>
    obtain ⟨buffer, taken⟩ := held
    rw [allocated] at written
    obtain ⟨freed, released, same⟩ := Option.map_eq_some_iff.mp written
    cases same
    refine .inr ⟨buffer, taken, rfl, ?_⟩
    have server := fsBufferAllocate_server allocated
    rw [FsClient.fsBufferFree_server released]
    cases asked : (taken.copyTo buffer buf).asked env
        (.fileWrite o.fd o.pos (bufferAt buffer buf.length)) with
    | none =>
      rw [issued_of_none asked]
      exact ⟨rfl, server⟩
    | some answered =>
      have answers := @issued_of_some _ _ _ locals _ _ asked
      rw [answers.completion, answers.server]
      exact ⟨rfl, rfl⟩

theorem written_size_of_wrote {before pos moved : UInt64T}
    (grown : size.toNat = max before.toNat (pos.toNat + moved.toNat)) :
    (if before < pos + moved then pos + moved else before) = size := by
  have noOverflow : (pos + moved).toNat = pos.toNat + moved.toNat := by
    exact Nat.mod_eq_of_lt (by omega)
  refine BitVec.eq_of_toNat_eq ?_
  split_ifs with behind
  · have behind := BitVec.lt_def.mp behind
    omega
  · have inside := BitVec.le_def.mp (BitVec.not_lt.mp behind)
    omega

theorem write_sizeCached_iff (cached : o.size = env.sizeOf client.server o.fd)
    (written : vfsFsFileWrite env.toFileServer locals client o buf = some (result, next, after)) :
    SizeCached env ⟨after, some next, none⟩ ↔ SizeFollows env o buf locals client := by
  rw [sizeCached_iff, SizeFollows]
  rcases vfsFsFileWrite_spec written with ⟨none, rfl, server⟩ |
    ⟨buffer, taken, allocated, same, server⟩
  · rw [none, server]
    exact iff_of_true cached fun _ _ impossible => by cases impossible
  · have sameServer := fsBufferAllocate_server allocated
    obtain ⟨sameFd, sameSize⟩ := written_size o
      (((taken.copyTo buffer buf).asked env
        (.fileWrite o.fd o.pos (bufferAt buffer buf.length))).elim locals Answered.completion)
    rw [same, sameFd, sameSize, server, allocated]
    simp only [Option.some.injEq, Prod.mk.injEq, and_imp, forall_eq', forall_apply_eq_imp_iff]
    cases asked : (taken.copyTo buffer buf).asked env
        (.fileWrite o.fd o.pos (bufferAt buffer buf.length)) with
    | none =>
      dsimp only [Option.elim_none]
      rw [← cached]
      constructor
      · intro kept succeeded behind
        simp only [succeeded, behind] at kept
        exact absurd behind (kept ▸ BitVec.lt_irrefl _)
      · exact fun inside => if_neg fun moved => inside moved.1 moved.2
    | some answered =>
      have answer := asked_eq_some asked
      dsimp only [Option.elim_some]
      by_cases succeeded : answered.completion.status = fsStatusSuccess
      · simp only [succeeded, true_and]
        by_cases nothing : answered.completion.data = 0
        · have still : o.pos + 0 = o.pos := BitVec.add_zero _
          simp only [nothing, still, forall_const]
          exact eq_comm
        · refine iff_of_true (written_size_of_wrote ?_) fun zero => absurd zero nothing
          rw [answer] at succeeded nothing ⊢
          rw [env.wrote _ _ _ _ _ succeeded nothing, cached]
          exact congrArg (fun server => max (env.sizeOf server o.fd).toNat _) sameServer
      · simp only [succeeded, cached]
        exact eq_comm

/-- A call that raises has made no object. -/
def ResultCached (env : SizedServer Server) (result : Opened × FsClient Server) : Prop :=
  match result.1 with
  | .raises _ => True
  | .returns o => o.size = env.sizeOf result.2.server o.fd

theorem truncateOrAppend_cached_iff (mode : OpenMode) (o : VfsFsFile)
    (before : completion.status = fsStatusSuccess) :
    ResultCached env (truncateOrAppend env.toFileServer mode o completion client) ↔
      match (if mode.truncate then client.asked env (.fileTruncate o.fd 0) else none) with
      | none => o.size = env.sizeOf client.server o.fd
      | some truncating => truncating.completion.status = fsStatusSuccess → o.size = 0 := by
  unfold truncateOrAppend
  by_cases truncates : mode.truncate = true
  · rw [if_pos truncates, if_pos truncates]
    cases asked : client.asked env (.fileTruncate o.fd 0) with
    | none =>
      rw [issued_of_none asked]
      rw [if_neg (not_not_intro before)]
      exact Iff.rfl
    | some truncating =>
      obtain ⟨_, sameCompletion, sameServer⟩ := @issued_of_some _ _ _ completion _ _ asked
      have answer := asked_eq_some asked
      by_cases refused : truncating.completion.status = fsStatusSuccess
      · rw [if_neg (by rw [sameCompletion]; exact not_not_intro refused)]
        show o.size = env.sizeOf _ o.fd ↔ _
        rw [sameServer, answer] at *
        rw [env.truncated _ _ _ _ refused]
        exact ⟨fun zero _ => zero, fun zero => zero refused⟩
      · rw [if_pos (by rw [sameCompletion]; exact refused)]
        exact iff_of_true trivial fun impossible => absurd impossible refused
  · split_ifs <;> exact Iff.rfl

theorem sizing_data_iff {opening : Issued Server} {freed : FsClient Server} :
    let sizing := sizeIssued env.toFileServer opening freed
    let fd := opening.completion.data
    sizing.completion.status = fsStatusSuccess →
    (sizing.completion.data = env.sizeOf sizing.client.server fd ↔
      (sizing.err = true → fd = env.sizeOf freed.server fd)) := by
  intro sizing fd succeeded
  cases asked : freed.asked env (.fileSize fd) with
  | none =>
    have same : sizing = { err := true, completion := opening.completion, client := freed } :=
      issued_of_none asked
    rw [same]
    exact ⟨fun right _ => right, fun right => right rfl⟩
  | some answered =>
    obtain ⟨err, sameCompletion, sameServer⟩ :=
      @issued_of_some _ _ _ opening.completion _ _ asked
    have answer := asked_eq_some asked
    have found : sizing.completion.data = env.sizeOf freed.server fd := by
      rw [show sizing.completion = answered.completion from sameCompletion, answer] at succeeded ⊢
      exact env.size _ _ _ succeeded
    have kept : env.sizeOf sizing.client.server fd = env.sizeOf freed.server fd := by
      rw [show sizing.client.server = answered.server from sameServer, answer]
      exact env.sizeKept _ _ _
    refine iff_of_true (found.trans kept.symm) fun impossible => ?_
    exact absurd (err.symm.trans impossible) Bool.false_ne_true

theorem open_cached_iff {fresh : VfsFsFile} {text : Bool} {fname : List UInt8T}
    {modeIn : List Char} {result : Opened × FsClient Server}
    (opened : mpVfsFsFileOpen env.toFileServer locals fresh client.start text (.path fname) modeIn =
      some result) : ResultCached env result ↔ SizeFound env text fname modeIn locals client := by
  unfold mpVfsFsFileOpen at opened
  cases allocated : client.start.fsBufferAllocate with
  | none =>
    rw [allocated] at opened
    cases opened
    exact iff_of_true trivial fun _ _ _ some => by cases allocated.symm.trans some
  | some held =>
    obtain ⟨buffer, taken⟩ := held
    obtain ⟨_, ⟨freed, released⟩, _⟩ :=
      @openIssued_cases _ env.toFileServer locals client text fname modeIn _ _ allocated
    rw [allocated] at opened
    dsimp only at opened
    rw [← openIssued, released] at opened
    dsimp only at opened
    have here : SizeFound env text fname modeIn locals client ↔
        SizeFoundWith env (OpenMode.parse text modeIn)
          (openIssued env.toFileServer locals text fname modeIn buffer taken) freed := by
      refine ⟨fun all => all _ _ _ allocated released, fun this other held after same free => ?_⟩
      cases allocated.symm.trans same
      cases released.symm.trans free
      exact this
    rw [here, SizeFoundWith]
    generalize openIssued env.toFileServer locals text fname modeIn buffer taken = opening at *
    by_cases succeeded : opening.completion.status = fsStatusSuccess
    · rw [if_neg (not_not_intro succeeded), sizeOpened] at opened
      rw [← sizeIssued] at opened
      by_cases found : (sizeIssued env.toFileServer opening freed).completion.status =
          fsStatusSuccess
      · rw [if_neg (not_not_intro found)] at opened
        cases opened
        rw [truncateOrAppend_cached_iff _ _ found]
        simp only [succeeded, found, forall_const]
        rw [← sizing_data_iff found]
      · rw [if_pos found] at opened
        obtain ⟨_, _, same⟩ := Option.map_eq_some_iff.mp opened
        cases same
        exact iff_of_true trivial fun _ impossible => absurd impossible found
    · rw [if_pos succeeded] at opened
      cases opened
      exact iff_of_true trivial fun impossible => absurd impossible succeeded

/-! ### Seeking -/

theorem position_from_end_iff (size offset : UInt64T) :
    ¬ size < size + offset ∧ ((size + offset).toNat : Int) = size.toNat + offset.toInt ↔
      offset.toInt ≤ 0 ∧ 0 ≤ size.toNat + offset.toInt := by
  have sum : (size + offset).toNat = (size.toNat + offset.toNat) % 2 ^ 64 := BitVec.toNat_add _ _
  rw [BitVec.lt_def, BitVec.toInt_eq_toNat_cond]
  split_ifs <;> omega

theorem seek_sizeCached_iff {offset : UInt64T} (cached : o.size = env.sizeOf client.server o.fd) :
    SizeCached env ⟨client, some (o.seek .fromEnd offset), some offset⟩ ↔
      offset.toInt ≤ 0 ∧ 0 ≤ o.size.toNat + offset.toInt := by
  rw [← position_from_end_iff]
  have moved : (if o.size < o.size + offset then o.size + offset else o.size) = o.size ↔
      ¬ o.size < o.size + offset := by
    split_ifs with behind
    · refine iff_of_false (fun same => ?_) (not_not_intro behind)
      rw [same] at behind
      exact BitVec.lt_irrefl _ behind
    · exact iff_of_true rfl behind
  rw [← moved]
  constructor
  · intro kept
    obtain ⟨size, position⟩ := kept _ rfl
    refine ⟨size.trans cached.symm, ?_⟩
    exact (position offset rfl).trans (by rw [cached]; rfl)
  · rintro ⟨size, position⟩ _ ⟨⟩
    refine ⟨size.trans cached, ?_⟩
    rintro _ ⟨⟩
    exact position.trans (by rw [cached]; rfl)

/-! ### Runs -/

theorem step_sizeCached_iff {session reached : Session Server} {event : FileEvent}
    (cached : SizeCached env session) (step : FileStep env session event reached) :
    SizeCached env reached ↔ KeepsSize env session event := by
  have onlyObject (Holds : VfsFsFile → Prop) {o : VfsFsFile} (object : session.object = some o) :
      (∀ other, session.object = some other → Holds other) ↔ Holds o := by
    rw [object]
    exact ⟨fun all => all _ rfl, fun here _ same => Option.some.inj same ▸ here⟩
  cases step with
  | @raises text fileIn modeIn locals fresh errno next unopened opened =>
    have nothing : SizeCached env ⟨next, none, none⟩ := fun _ impossible => by cases impossible
    cases fileIn with
    | smallInt fd => cases opened
    | path fname =>
      exact iff_of_true nothing ((open_cached_iff opened).mp trivial)
  | @opens text fileIn modeIn locals fresh o next unopened opened =>
    cases fileIn with
    | smallInt fd =>
      cases opened
      exact sizeCached_iff
    | path fname => exact sizeCached_iff.trans (open_cached_iff opened)
  | reads object read =>
    exact (read_sizeCached_iff (cached _ object).1 read).trans
      (onlyObject (fun o => SizeLeft env o _ session.client) object).symm
  | writes object written =>
    exact (write_sizeCached_iff (cached _ object).1 written).trans
      (onlyObject (fun o => SizeFollows env o _ _ session.client) object).symm
  | @seeks o whence offset object =>
    have right := (cached _ object).1
    cases whence with
    | set | cur => exact iff_of_true (sizeCached_iff.mpr right) trivial
    | fromEnd =>
      exact (seek_sizeCached_iff right).trans
        (onlyObject (fun o => offset.toInt ≤ 0 ∧ 0 ≤ o.size.toNat + offset.toInt) object).symm

/-- However one object reads, writes and seeks, it has the size of its file and comes to the right
positions from its end, exactly as long as each event keeps the size. -/
theorem size_cached_iff {events : List FileEvent} {session : Session Server} :
    Run (Within (SizeCached env) (FileStep env)) (.initial client) events session ↔
      Run (Guarded (KeepsSize env) (FileStep env)) (.initial client) events session := by
  refine run_within_iff_guarded (fun _ => True) trivial (fun _ impossible => by cases impossible)
    (fun _ _ _ _ _ => trivial) ?_
  exact fun _ _ _ _ cached step => step_sizeCached_iff cached step

end Steps

/-- A file server with one file, that can be opened and truncated. -/
def oneFile : SizedServer UInt64T where
  clientShareSize := 0x4000000
  available _ := true
  answer command buffers size :=
    { completion :=
        match command with
        | .fileOpen .. => ⟨fsStatusSuccess, 3⟩
        | .fileSize _ => ⟨fsStatusSuccess, size⟩
        | .fileTruncate .. => ⟨fsStatusSuccess, 0⟩
        | _ => ⟨Fs.fsStatusError, 0⟩
      buffers
      server := match command with | .fileTruncate _ length => length | _ => size
      accessed := [] }
  allowed _ _ _ _ member := by cases member
  read _ _ _ _ _ succeeded := by cases succeeded
  kept _ _ _ _ _ used := used
  sizeOf size _ := size
  size _ _ _ _ := rfl
  sizeKept _ _ _ := rfl
  truncated _ _ _ _ _ := rfl
  readInside _ _ _ _ _ _ := rfl
  wrote _ _ _ _ _ succeeded := by cases succeeded

/-- Nothing is in use, and the file has ten bytes. -/
def tenBytes : FsClient UInt64T where
  buffers := FsClient.unused.buffers
  server := 10
  record := .empty

/-- The file has ten bytes when it is opened for writing, and none then, but the object has ten. -/
theorem truncated_file_keeps_size : ∃ session, Run (FileStep oneFile) (.initial tenBytes)
      [.opens true (.path [0x61]) ['w'] ⟨0, 0⟩ ⟨true, 0, 0, 0⟩] session ∧
    ¬ SizeCached oneFile session := by
  obtain ⟨⟨buffer, taken⟩, allocated⟩ := Option.isSome_iff_exists.mp
    (FsClient.fsBufferAllocate_isSome (show 0 < Fs.numBuffers by decide)
      (rfl : tenBytes.start.buffers.used 0 = false))
  obtain ⟨_, ⟨freed, released⟩, _⟩ :=
    @openIssued_cases _ oneFile.toFileServer ⟨0, 0⟩ _ true [0x61] ['w'] _ _ allocated
  have opened : ∃ o next, mpVfsFsFileOpen oneFile.toFileServer ⟨0, 0⟩ ⟨true, 0, 0, 0⟩
      tenBytes.start true (.path [0x61]) ['w'] = some (.returns o, next) ∧
        next.server = 0 ∧ o.size = freed.server := by
    unfold mpVfsFsFileOpen
    rw [allocated]
    dsimp only
    rw [← openIssued, released]
    exact ⟨_, _, rfl, rfl, rfl⟩
  obtain ⟨o, next, opened, server, size⟩ := opened
  have sizes : freed.server = 10 :=
    (FsClient.fsBufferFree_server released).trans (fsBufferAllocate_server allocated)
  refine ⟨_, .snoc .nil (.opens rfl opened), fun cached => ?_⟩
  have wrong := (cached o rfl).1
  rw [size, sizes] at wrong
  exact absurd (wrong.trans server) (by decide)

end LionsOS.Micropython
