/-
This file is about the iteration over a directory in `vfs_fs.c`. The server writes the
name of an entry to a buffer that still holds what was there before, and no zero behind
it. Each pass of the loop in `vfs_fs_ilistdir_it_iternext` is an event of its own, so
that others can use the share and the server in between.
-/

import LionsOS.Micropython.FsClient

open Function

namespace LionsOS.Micropython

open Fs (FsBuffer ShareBuffers bytesAt fsBufferSize fsStatusSuccess)
open StepRun List

/-! ### State and events -/

abbrev DirName := List UInt8T

/-- What is still to be read from each directory that the server has open. -/
abbrev Directories := UInt64T → Option (List DirName)

inductive DirCommand where
  | dirRead (fd : UInt64T) (buf : FsBuffer)
  | dirClose (fd : UInt64T)

/-- What is made about an entry. -/
structure DirTuple where
  isStr : Bool
  name : DirName
  type : Nat
  inode : Nat

structure Ilistdir where
  buffers : ShareBuffers
  directories : Directories
  isStr : Bool
  dir : UInt64T
  /-- The commands that were issued for the iteration so far. -/
  commands : List DirCommand
  /-- What the calls have returned so far, `none` for the end of the iteration. -/
  results : List (Option DirTuple)

inductive ListingEvent where
  /-- A pass of the loop. -/
  | pass
  /-- Others use the buffers of the share, and other directories. -/
  | others (buffers : ShareBuffers) (directories : Directories)

def dot : UInt8T := 0x2e

/-- Whether an entry is passed over, by the bytes at its name. -/
def Skipped (share : Nat → UInt8T) (fn : Nat) : Prop :=
  share fn = dot ∧ (share (fn + 1) = 0 ∨ share (fn + 1) = dot)

instance (share : Nat → UInt8T) (fn : Nat) : Decidable (Skipped share fn) :=
  inferInstanceAs (Decidable (_ ∧ _))

/-- The server's `memcpy` of a name to a buffer. -/
def writeName (share : Nat → UInt8T) (buffer : Nat) (name : DirName) : Nat → UInt8T :=
  Bytes.copy share ⟨buffer, name.length⟩ (fun index => name[index]?.getD 0) 0

namespace Ilistdir

def fsBufferFree (listing : Ilistdir) (buffer : Nat) : Option Ilistdir :=
  (listing.buffers.fsBufferFree buffer).map fun buffers => { listing with buffers }

/-- The directory is closed after the loop. -/
def close (listing : Ilistdir) : Ilistdir :=
  { listing with
    directories := update listing.directories listing.dir none
    commands := listing.commands ++ [.dirClose listing.dir]
    dir := 0
    results := listing.results ++ [none] }

/-- A pass of the loop, `none` when an assertion fires. -/
def iternext (listing : Ilistdir) : Option Ilistdir :=
  listing.buffers.fsBufferAllocate.bind fun (buffer, buffers) =>
    let command := .dirRead listing.dir (bufferAt buffer fsBufferSize)
    let asked := { listing with buffers, commands := listing.commands ++ [command] }
    match listing.directories listing.dir with
    | some (name :: rest) =>
      let share := writeName buffers.share buffer name
      let answered :=
        { asked with
          buffers := { buffers with share }
          directories := update listing.directories listing.dir (some rest) }
      if Skipped share buffer then answered.fsBufferFree buffer
      else
        let tuple : DirTuple := ⟨listing.isStr, bytesAt share ⟨buffer, name.length⟩, 0, 0⟩
        { answered with results := listing.results ++ [some tuple] }.fsBufferFree buffer
    | _ => (asked.fsBufferFree buffer).map close

end Ilistdir

/-- Begin to iterate over a directory, `none` where an error is raised. `issue` is the command that
opens it, which may fail or not be issued. -/
def vfsFsIlistdir (buffers : ShareBuffers) (isStr : Bool) (path : List UInt8T)
    (issue : ShareBuffers → FsBuffer → Option (Completion × ShareBuffers × Directories)) :
    Option Ilistdir :=
  let path := if cString path = [] then [dot] else cString path
  buffers.fsBufferAllocate.bind fun (buffer, buffers) =>
    (issue { buffers with share := writeName buffers.share buffer path }
      (bufferAt buffer path.length)).bind fun (completion, buffers, directories) =>
        (buffers.fsBufferFree buffer).bind fun buffers =>
          if completion.status ≠ fsStatusSuccess then none
          else some
            { buffers, directories, isStr, dir := completion.data, commands := [], results := [] }

variable {opened : UInt64T} {entries : List DirName} {listing next start : Ilistdir}
  {share : Nat → UInt8T} {isStr : Bool} {buffer index : Nat} {name : DirName}

/-- While the iteration goes on, others leave its directory open and as it is. -/
def ListingStep (listing : Ilistdir) : ListingEvent → Ilistdir → Prop
  | .pass, next => listing.iternext = some next
  | .others buffers directories, next =>
    (none ∉ listing.results → directories listing.dir = listing.directories listing.dir) ∧
      next = { listing with buffers, directories }

/-- The entries of the directory itself and of its parent. -/
def dotNames : List DirName := [[dot], [dot, dot]]

/-- What should be returned for the entries. -/
def shown (isStr : Bool) (names : List DirName) : List (Option DirTuple) :=
  (names.filter (· ∉ dotNames)).map fun name => some ⟨isStr, name, 0, 0⟩

/-- The entries so far were returned, each once and in order, and after the last one the end. Only
the directory that was opened was read, and it was closed at the end. -/
inductive Lists (opened : UInt64T) (entries : List DirName) (listing : Ilistdir) : Prop
  | reading (read rest : List DirName) (buffers : List FsBuffer)
      (dir : listing.dir = opened)
      (remaining : listing.directories opened = some rest)
      (all : entries = read ++ rest)
      (results : listing.results = shown listing.isStr read)
      (commands : listing.commands = buffers.map (.dirRead opened))
  | ended (buffers : List FsBuffer)
      (results : listing.results = shown listing.isStr entries ++ [none])
      (commands : listing.commands = buffers.map (.dirRead opened) ++ [.dirClose opened])

/-- Whether an entry is one of the two that are passed over can be told from the bytes at its name,
where these lie in a buffer that held this. -/
structure ToldApart (name : DirName) (share : Nat → UInt8T) (buffer : Nat) : Prop where
  /-- No other name begins with two dots, or with a dot and a zero. -/
  dots : ∀ second rest, name = dot :: second :: rest → second = 0 ∨ second = dot →
    second = dot ∧ rest = []
  /-- Behind a single dot there is a zero or another dot. -/
  single : name = [dot] → share (buffer + 1) = 0 ∨ share (buffer + 1) = dot
  nameless : name = [] → ¬Skipped share buffer

/-- The end was not returned yet, and the next entry can be told apart. -/
def TellsApart (listing : Ilistdir) : ListingEvent → Prop
  | .pass => none ∉ listing.results ∧
    ∀ name rest, listing.directories listing.dir = some (name :: rest) →
      ∀ buffer buffers, listing.buffers.fsBufferAllocate = some (buffer, buffers) →
        ToldApart name listing.buffers.share buffer
  | .others _ _ => True

/-! ### Names in a buffer -/

theorem writeName_of_lt (inside : index < name.length) :
    writeName share buffer name (buffer + index) = name[index] := by
  have within : buffer + index ∈ (⟨buffer, name.length⟩ : Bytes.Range) :=
    ⟨Nat.le_add_right _ _, Nat.add_lt_add_left inside _⟩
  rw [writeName, Bytes.copy_of_mem within, Nat.zero_add, Nat.add_sub_cancel_left,
    getElem?_eq_getElem inside, Option.getD_some]

theorem writeName_of_le (behind : name.length ≤ index) :
    writeName share buffer name (buffer + index) = share (buffer + index) :=
  Bytes.copy_of_not_mem fun inside => absurd inside.2 (by simp only; omega)

theorem toldApart_iff :
    ToldApart name share buffer ↔
      (Skipped (writeName share buffer name) buffer ↔ name ∈ dotNames) := by
  match name with
  | [] =>
    have zeroth : writeName share buffer [] buffer = share buffer :=
      @writeName_of_le share buffer 0 [] le_rfl
    rw [Skipped, zeroth, writeName_of_le (Nat.zero_le 1)]
    exact ⟨fun apart => iff_of_false (apart.nameless rfl) (by decide),
      fun same => ⟨nofun, nofun, fun _ skipped => absurd (same.mp skipped) (by decide)⟩⟩
  | [first] =>
    have zeroth : writeName share buffer [first] buffer = first :=
      @writeName_of_lt share buffer 0 [first] Nat.one_pos
    rw [Skipped, zeroth, @writeName_of_le share buffer 1 [first] le_rfl]
    constructor
    · rintro ⟨-, single, -⟩
      simpa [dotNames] using single
    · intro same
      refine ⟨nofun, fun only => ?_, nofun⟩
      cases only
      exact (same.mpr (mem_cons_self ..)).2
  | first :: second :: rest =>
    have zeroth : writeName share buffer (first :: second :: rest) buffer = first :=
      @writeName_of_lt share buffer 0 (first :: second :: rest) (Nat.succ_pos _)
    rw [Skipped, zeroth, @writeName_of_lt share buffer 1 (first :: second :: rest)
      (Nat.succ_lt_succ (Nat.succ_pos _))]
    constructor
    · rintro ⟨dots, -, -⟩
      constructor
      · rintro ⟨rfl, begins⟩
        obtain ⟨rfl, rfl⟩ := dots second rest rfl begins
        simp [dotNames]
      · intro named
        simp only [dotNames, mem_cons, cons.injEq, reduceCtorEq, and_false, false_or,
          not_mem_nil, or_false] at named
        exact ⟨named.1, .inr named.2.1⟩
    · intro same
      refine ⟨fun other others begins ends => ?_, nofun, nofun⟩
      cases begins
      simpa [dotNames] using same.mp ⟨rfl, ends⟩

/-! ### One pass -/

/-- What a pass does. -/
inductive Passed (listing next : Ilistdir) (buffer : Nat) : Prop
  | entry (name : DirName) (rest : List DirName)
      (there : listing.directories listing.dir = some (name :: rest))
      (dir : next.dir = listing.dir)
      (isStr : next.isStr = listing.isStr)
      (remaining : next.directories listing.dir = some rest)
      (commands : next.commands =
        listing.commands ++ [.dirRead listing.dir (bufferAt buffer fsBufferSize)])
      (results : next.results = listing.results ++
        if Skipped (writeName listing.buffers.share buffer name) buffer then []
        else [some ⟨listing.isStr, name, 0, 0⟩])
  | close (atEnd : ∀ name rest, listing.directories listing.dir ≠ some (name :: rest))
      (isStr : next.isStr = listing.isStr)
      (commands : next.commands =
        listing.commands ++ [.dirRead listing.dir (bufferAt buffer fsBufferSize)] ++
          [.dirClose listing.dir])
      (results : next.results = listing.results ++ [none])

theorem passed_of_iternext (performed : listing.iternext = some next) :
    ∃ buffer buffers, listing.buffers.fsBufferAllocate = some (buffer, buffers) ∧
      Passed listing next buffer := by
  obtain ⟨⟨buffer, buffers⟩, allocated, passed⟩ := Option.bind_eq_some_iff.mp performed
  have same : buffers.share = listing.buffers.share := by
    obtain ⟨_, _, same⟩ := Option.map_eq_some_iff.mp allocated
    cases same
    rfl
  refine ⟨buffer, buffers, allocated, ?_⟩
  dsimp only at passed
  split at passed
  case h_1 name rest there =>
    rw [same] at passed
    split_ifs at passed with skipped
    · obtain ⟨_, _, rfl⟩ := Option.map_eq_some_iff.mp passed
      exact .entry name rest there rfl rfl (update_self ..) rfl (by rw [if_pos skipped, append_nil])
    · obtain ⟨_, _, rfl⟩ := Option.map_eq_some_iff.mp passed
      refine .entry name rest there rfl rfl (update_self ..) rfl ?_
      rw [if_neg skipped, writeName, Fs.bytesAt_copy]
  case h_2 atEnd =>
    obtain ⟨_, freed, rfl⟩ := Option.map_eq_some_iff.mp passed
    obtain ⟨_, _, rfl⟩ := Option.map_eq_some_iff.mp freed
    exact .close atEnd rfl rfl rfl

theorem shown_append {read rest : List DirName} :
    shown isStr (read ++ rest) = shown isStr read ++ shown isStr rest := by
  rw [shown, filter_append, map_append]
  rfl

theorem none_not_mem_shown {names : List DirName} : none ∉ shown isStr names := by
  simp [shown]

theorem eq_shown_iff {skipped : Prop} [Decidable skipped] :
    (if skipped then [] else [some ⟨isStr, name, 0, 0⟩]) = shown isStr [name] ↔
      (skipped ↔ name ∈ dotNames) := by
  by_cases passes : skipped <;> by_cases named : name ∈ dotNames <;>
    simp [shown, passes, named]

theorem Lists.last (lists : Lists opened entries listing) {earlier later : List DirCommand}
    (commands : listing.commands = earlier ++ .dirClose opened :: later) : later = [] := by
  have unread : ∀ (buffers : List FsBuffer) (before after : List DirCommand),
      buffers.map (.dirRead opened) ≠ before ++ .dirClose opened :: after := by
    intro buffers before after same
    have closed : DirCommand.dirClose opened ∈ buffers.map (.dirRead opened) := by simp [same]
    simp at closed
  cases lists with
  | reading _ _ buffers _ _ _ _ reads => exact (unread _ _ _ (reads.symm.trans commands)).elim
  | ended buffers _ reads =>
    rcases eq_nil_or_concat later with none | ⟨before, last, rfl⟩
    · exact none
    · rw [reads, concat_eq_append, ← cons_append, ← append_assoc] at commands
      exact (unread _ _ _ (append_inj_left' commands rfl)).elim

theorem Passed.commands_eq (passed : Passed listing next buffer) :
    ∃ command later, next.commands = listing.commands ++ command :: later := by
  cases passed with
  | entry _ _ _ _ _ _ commands => exact ⟨_, _, commands⟩
  | close _ _ commands => exact ⟨_, _, commands.trans (append_assoc ..)⟩

theorem Lists.pass_iff (lists : Lists opened entries listing)
    (performed : listing.iternext = some next) :
    Lists opened entries next ↔ TellsApart listing .pass := by
  obtain ⟨buffer, buffers, allocated, passed⟩ := passed_of_iternext performed
  cases lists with
  | reading read rest before dir remaining all results commands =>
    have goesOn : none ∉ listing.results := results ▸ none_not_mem_shown
    cases passed with
    | entry name rest there sameDir isStr left asked returned =>
      subst dir
      cases there.symm.trans remaining
      have tells : TellsApart listing .pass ↔
          (Skipped (writeName listing.buffers.share buffer name) buffer ↔ name ∈ dotNames) := by
        rw [← toldApart_iff]
        refine ⟨fun tells => tells.2 _ _ there _ _ allocated, fun apart => ⟨goesOn, ?_⟩⟩
        intro other later also otherBuffer otherBuffers also'
        cases there.symm.trans also
        cases allocated.symm.trans also'
        exact apart
      rw [tells, ← @eq_shown_iff listing.isStr]
      constructor
      · intro after
        cases after with
        | reading read' rest' _ _ remaining' all' results' =>
          cases left.symm.trans remaining'
          have same : read' = read ++ [name] := by
            rw [all, append_cons] at all'
            exact (append_cancel_right all').symm
          rw [same, shown_append, isStr, returned, results] at results'
          exact append_cancel_left results'
        | ended _ results' =>
          have none : none ∈ next.results := by simp [results']
          rw [returned, results, mem_append] at none
          rcases none with shown | last
          · exact absurd shown none_not_mem_shown
          · split_ifs at last <;> simp at last
      · intro right
        refine .reading (read ++ [name]) rest (before ++ [bufferAt buffer fsBufferSize])
          sameDir left ?_ ?_ ?_
        · rw [all, append_cons]
        · rw [returned, right, results, isStr, shown_append]
        · rw [asked, commands, map_append]
          rfl
    | close atEnd isStr asked returned =>
      subst dir
      have empty : rest = [] := by
        cases rest with
        | nil => rfl
        | cons name rest => exact absurd remaining (atEnd name rest)
      refine iff_of_true (.ended (before ++ [bufferAt buffer fsBufferSize]) ?_ ?_)
        ⟨goesOn, fun name rest there => absurd there (atEnd name rest)⟩
      · rw [returned, results, all, empty, append_nil, isStr]
      · rw [asked, commands, map_append]
        rfl
  | ended before results commands =>
    refine iff_of_false (fun after => ?_) fun tells => tells.1 (by simp [results])
    obtain ⟨command, later, asked⟩ := passed.commands_eq
    rw [commands, append_assoc] at asked
    cases after.last asked

/-! ### Every run -/

theorem Lists.step_iff {event : ListingEvent} (lists : Lists opened entries listing)
    (taken : ListingStep listing event next) :
    Lists opened entries next ↔ TellsApart listing event := by
  cases event with
  | pass => exact lists.pass_iff taken
  | others buffers directories =>
    obtain ⟨kept, rfl⟩ := taken
    refine iff_of_true ?_ trivial
    cases lists with
    | reading read rest before dir remaining all results commands =>
      subst dir
      exact .reading read rest before rfl
        ((kept (results ▸ none_not_mem_shown)).trans remaining) all results commands
    | ended before results commands => exact .ended before results commands

/-- However often an iteration over a directory goes on, its entries are returned as they should
be, and only the commands for it are issued, exactly while the end was not returned and each entry
can be told apart. -/
theorem ilistdir_lists_iff {buffers : ShareBuffers} {isStr : Bool} {path : List UInt8T}
    {issue : ShareBuffers → FsBuffer → Option (Completion × ShareBuffers × Directories)}
    {events : List ListingEvent} (begun : vfsFsIlistdir buffers isStr path issue = some start)
    (holds : start.directories start.dir = some entries) :
    Run (Within (Lists start.dir entries) ListingStep) start events listing ↔
      Run (Guarded TellsApart ListingStep) start events listing := by
  have initial : Lists start.dir entries start := by
    simp only [vfsFsIlistdir, Option.bind_eq_some_iff] at begun
    obtain ⟨_, _, _, _, _, _, begun⟩ := begun
    split_ifs at begun
    cases begun
    exact .reading [] entries [] rfl holds rfl rfl rfl
  exact run_within_iff_guarded (fun _ => True) trivial initial (fun _ _ _ _ _ => trivial)
    fun _ _ _ _ lists taken => lists.step_iff taken

/-- The command that opens the directory succeeds, and these are the entries. -/
def opensDirectory (entries : List DirName) (buffers : ShareBuffers) (_ : FsBuffer) :
    Option (Completion × ShareBuffers × Directories) :=
  some (⟨fsStatusSuccess, 1⟩, buffers, fun fd => if fd = 1 then some entries else none)

set_option maxRecDepth 8192 in
/-- A directory has one entry, which is returned. -/
theorem ilistdir_lists_iff_entry : ∃ start listing,
    vfsFsIlistdir FsClient.unused.buffers true [] (opensDirectory [[0x61]]) = some start ∧
      Run (Within (Lists start.dir [[0x61]]) ListingStep) start [.pass] listing := by
  have begun : vfsFsIlistdir FsClient.unused.buffers true [] (opensDirectory [[0x61]]) = some _ :=
    rfl
  refine ⟨_, _, begun, (ilistdir_lists_iff begun rfl).mpr
    (Run.single ⟨⟨not_mem_nil, fun name rest there _ _ _ => ?_⟩, rfl⟩)⟩
  cases there
  exact ⟨nofun, fun same => absurd same (by decide), nofun⟩

set_option maxRecDepth 8192 in
/-- A name that begins with two dots is passed over, as the entry of the parent is. -/
theorem ilistdir_passes_over_name : ¬∀ (buffers : ShareBuffers) (isStr : Bool) (path : List UInt8T)
    (issue : ShareBuffers → FsBuffer → Option (Completion × ShareBuffers × Directories))
    (start listing : Ilistdir) (entries : List DirName) (events : List ListingEvent),
    vfsFsIlistdir buffers isStr path issue = some start →
      start.directories start.dir = some entries →
        Run ListingStep start events listing → Lists start.dir entries listing := by
  intro claimed
  have begun : vfsFsIlistdir FsClient.unused.buffers true [] (opensDirectory [[dot, dot, 0x61]]) =
    some _ := rfl
  cases claimed _ _ _ _ _ _ _ [.pass] begun rfl (Run.single rfl) with
  | reading read rest _ _ remaining all results =>
    cases remaining
    rw [append_nil] at all
    subst all
    cases results
  | ended _ results => cases results

end LionsOS.Micropython
