import Banlieue.Oci.Calls

namespace Banlieue.Oci

open Banlieue.Data Banlieue.Data.Program

/-! # A writer that turns runs of zeros into holes -/

/-- A hole smaller than a block of the file system would not be one. -/
def blockSize : Nat := 4096

structure SparseWriter where
  path : String
  /-- What was written so far, holes included. -/
  len : Nat := 0
  pending : List UInt8 := []
  limit : Nat
deriving DecidableEq

namespace SparseWriter

def emit (writer : SparseWriter) (block : List UInt8) : Pass SparseWriter := do
  perform (if block.all (· == 0) then .seekCurrent writer.path block.length else .writeAll writer.path block)
  return { writer with len := writer.len + block.length }

def emitBlocks : Nat → SparseWriter → List UInt8 → Pass SparseWriter
  | 0, writer, _ => pure writer
  | count + 1, writer, buffer => do
    let writer ← writer.emit (buffer.take blockSize)
    emitBlocks count writer (buffer.drop blockSize)

/-- Complete the block begun before, with what the buffer has for it. -/
def fill (writer : SparseWriter) (buffer : List UInt8) : Pass SparseWriter :=
  let filled := writer.pending ++ buffer.take (blockSize - writer.pending.length)
  if filled.length = blockSize then do
    let writer ← writer.emit filled
    return { writer with pending := [] }
  else pure { writer with pending := filled }

def topUp (writer : SparseWriter) (buffer : List UInt8) : Pass SparseWriter :=
  if writer.pending.isEmpty then pure writer else writer.fill buffer

def writeWithin (writer : SparseWriter) (buffer : List UInt8) : Pass SparseWriter := do
  let rest := if writer.pending.isEmpty then buffer else buffer.drop (blockSize - writer.pending.length)
  let writer ← writer.topUp buffer
  let whole := rest.length / blockSize
  let writer ← emitBlocks whole writer rest
  return { writer with pending := writer.pending ++ rest.drop (whole * blockSize) }

def write (writer : SparseWriter) (buffer : List UInt8) : Pass SparseWriter :=
  if writer.len + writer.pending.length + buffer.length > writer.limit then
    throw (.io s!"more than the declared {writer.limit} bytes")
  else writer.writeWithin buffer

def writeEach : SparseWriter → List (List UInt8) → Pass SparseWriter
  | writer, [] => pure writer
  | writer, piece :: pieces => do
    let writer ← writer.write piece
    writer.writeEach pieces

def emitTail (writer : SparseWriter) : Pass SparseWriter :=
  if writer.pending.isEmpty then pure writer else writer.emit writer.pending

/-- A hole at the end would be missing without its length being set. -/
def finish (writer : SparseWriter) : Pass Nat := do
  let writer ← writer.emitTail
  perform (.setLen writer.path writer.len)
  return writer.len

/-! ## What is written -/

/-- The open file, closed here, would read as `flushed`, and `dest` is as it was. -/
structure Flushed (dest : String) (before : Option (List UInt8)) (path : String) (flushed : List UInt8)
    (world : World) : Prop where
  kept : world.files dest = before
  present : (world.files path).isSome
  reads : (world.opened path).Reads 0 flushed

/-- The writer was given `data`, of which the last part is pending. -/
structure Given (dest : String) (before : Option (List UInt8)) (writer : SparseWriter) (data : List UInt8)
    (world : World) : Prop where
  flushed : ∃ flushed, flushed ++ writer.pending = data ∧ writer.len = flushed.length ∧
    Flushed dest before writer.path flushed world
  short : writer.pending.length < blockSize

/-- Whatever may stop the writer, or fail a call of it, leaves a safe world. -/
structure Bears (allowed : World → Call → Option Answer → Prop) (safe : World → Prop) (dest : String)
    (before : Option (List UInt8)) (path : String) : Prop where
  apart : path ≠ dest
  stopped : ∀ {flushed world call}, Flushed dest before path flushed world → allowed world call none → safe world
  failed : ∀ {flushed world call answer failure}, Flushed dest before path flushed world →
    allowed world call (some answer) → answer.failure = some failure →
    safe world ∧ ∀ bytes, safe (world.put path ((world.opened path).write 0 bytes))

variable {dest path : String} {before : Option (List UInt8)} {world : World}
  {allowed : World → Call → Option Answer → Prop} {safe : World → Prop} {flushed data : List UInt8}
  {writer : SparseWriter}

theorem opened_put (world : World) (path : String) (file : SparseFile UInt8) :
    (world.put path file).opened path = file := by
  simp [World.put, World.opened]

theorem Flushed.put (apart : path ≠ dest) (held : Flushed dest before path flushed world)
    {file : SparseFile UInt8} {after : List UInt8} (reads : file.Reads 0 after) :
    Flushed dest before path after (world.put path file) where
  kept := (world.store_files_of_ne _ apart.symm).trans held.kept
  present := by simp [World.put]
  reads := (opened_put world path file).symm ▸ reads

variable (writer : SparseWriter) (buffer : List UInt8)

theorem settles_emit (block : List UInt8) (bears : Bears allowed safe dest before writer.path)
    (held : Flushed dest before writer.path flushed world) :
    Settles allowed safe (writer.emit block) world fun after last =>
      after = { writer with len := writer.len + block.length } ∧
        Flushed dest before writer.path (flushed ++ block) last := by
  refine Secures.bind (settles_perform (bears.stopped held) ?_ ?_ fun _ => ?_)
    fun _ last done => Secures.pure ⟨rfl, done⟩
  · intro answer why written permitted failure
    have left := bears.failed held permitted failure
    split
    · exact left.1
    · exact left.2 _
  · intro why refused
    split at refused <;> cases refused
  · split
    · rename_i zeros
      have same : block = List.replicate block.length 0 := by
        refine List.eq_replicate_iff.mpr ⟨rfl, fun byte member => ?_⟩
        exact eq_of_beq (List.all_eq_true.mp zeros byte member)
      have reads := held.reads.seek block.length
      rw [← same] at reads
      exact held.put bears.apart reads
    · exact held.put bears.apart (held.reads.write block)

theorem settles_emitBlocks (count : Nat) (writer : SparseWriter) (buffer : List UInt8)
    (enough : count * blockSize ≤ buffer.length) (bears : Bears allowed safe dest before writer.path)
    (held : Flushed dest before writer.path flushed world) :
    Settles allowed safe (emitBlocks count writer buffer) world
      fun after last => after = { writer with len := writer.len + count * blockSize } ∧
        Flushed dest before writer.path (flushed ++ buffer.take (count * blockSize)) last := by
  induction count generalizing writer buffer flushed world with
  | zero =>
    refine Secures.pure ⟨by simp, ?_⟩
    rw [Nat.zero_mul, List.take_zero, List.append_nil]
    exact held
  | succ count ih =>
    rw [Nat.succ_mul] at enough ⊢
    refine Secures.bind (settles_emit writer (buffer.take blockSize) bears held) ?_
    rintro emitted last ⟨rfl, held⟩
    refine Secures.mono (ih _ _ (by rw [List.length_drop]; omega) bears held) ?_
    rintro after final ⟨rfl, held⟩
    have size : (buffer.take blockSize).length = blockSize := by
      rw [List.length_take]
      omega
    refine ⟨?_, ?_⟩
    · simp only [size, SparseWriter.mk.injEq, true_and, and_true]
      omega
    · rw [List.append_assoc, ← List.take_add, Nat.add_comm blockSize] at held
      exact held

theorem settles_blocks (rest : List UInt8) (bears : Bears allowed safe dest before writer.path)
    (clear : writer.pending ≠ [] → rest = []) (given : Given dest before writer data world) :
    Settles allowed safe
      (do
        let writer ← emitBlocks (rest.length / blockSize) writer rest
        return { writer with pending := writer.pending ++ rest.drop (rest.length / blockSize * blockSize) })
      world fun after last => after.path = writer.path ∧ after.limit = writer.limit ∧
        Given dest before after (data ++ rest) last := by
  obtain ⟨flushed, whole, counted, held⟩ := given.flushed
  have enough := Nat.div_mul_le_self rest.length blockSize
  refine Secures.bind (settles_emitBlocks _ writer rest enough bears held) ?_
  rintro emitted last ⟨rfl, held⟩
  refine Secures.pure ⟨rfl, rfl, ⟨_, ?_, ?_, held⟩, ?_⟩
  · rw [← whole]
    cases pending : writer.pending with
    | nil => rw [List.nil_append, List.append_assoc, List.take_append_drop, List.append_nil]
    | cons byte bytes =>
      obtain rfl := clear (by rw [pending]; exact List.cons_ne_nil _ _)
      simp
  · rw [List.length_append, List.length_take, Nat.min_eq_left enough, counted]
  · rw [List.length_append, List.length_drop]
    have remainder : rest.length - rest.length / blockSize * blockSize < blockSize := by
      have := Nat.div_add_mod' rest.length blockSize
      have := Nat.mod_lt rest.length (show 0 < blockSize by decide)
      omega
    cases pending : writer.pending with
    | nil => simpa using remainder
    | cons byte bytes =>
      have short := given.short
      obtain rfl := clear (by rw [pending]; exact List.cons_ne_nil _ _)
      rw [pending] at short
      simpa using short

theorem settles_fill (bears : Bears allowed safe dest before writer.path)
    (given : Given dest before writer data world) : Settles allowed safe (writer.fill buffer) world fun after last =>
      after.path = writer.path ∧ after.limit = writer.limit ∧
        (after.pending ≠ [] → buffer.drop (blockSize - writer.pending.length) = []) ∧
        Given dest before after (data ++ buffer.take (blockSize - writer.pending.length)) last := by
  obtain ⟨flushed, whole, counted, held⟩ := given.flushed
  have short := given.short
  have joined (part : List UInt8) : flushed ++ (writer.pending ++ part) = data ++ part := by
    rw [← whole, List.append_assoc]
  rw [fill]
  split
  · refine Secures.bind (settles_emit writer _ bears held) ?_
    rintro emitted last ⟨rfl, held⟩
    refine Secures.pure ⟨rfl, rfl, fun some => absurd rfl some, ⟨_, ?_, ?_, held⟩, ?_⟩
    · rw [List.append_nil, joined]
    · simp only [List.length_append, counted]
    · exact (by decide : 0 < blockSize)
  · rename_i partly
    rw [List.length_append, List.length_take] at partly
    refine Secures.pure ⟨rfl, rfl, fun _ => ?_, ⟨flushed, joined _, counted, held⟩, ?_⟩
    · exact List.drop_eq_nil_of_le (by omega)
    · rw [List.length_append, List.length_take]
      omega

theorem Given.length (given : Given dest before writer data world) :
    writer.len + writer.pending.length = data.length := by
  obtain ⟨flushed, whole, counted, -⟩ := given.flushed
  rw [← whole, List.length_append, counted]

theorem settles_write (bears : Bears allowed safe dest before writer.path) (given : Given dest before writer data world)
    (full : writer.limit < data.length + buffer.length → safe world) :
    Settles allowed safe (writer.write buffer) world fun after last =>
      after.path = writer.path ∧ after.limit = writer.limit ∧ Given dest before after (data ++ buffer) last := by
  rw [write, given.length]
  split
  · exact Secures.throw (full ‹_›)
  · rw [writeWithin, topUp]
    cases pending : writer.pending with
    | nil =>
      simp only [List.isEmpty_nil, if_true]
      have same : Settles allowed safe (pure writer) world fun after last => after = writer ∧ last = world :=
        Secures.pure ⟨rfl, rfl⟩
      refine Secures.bind same ?_
      rintro after last ⟨rfl, rfl⟩
      exact settles_blocks after buffer bears (fun some => absurd pending some) given
    | cons byte bytes =>
      simp only [List.isEmpty_cons, Bool.false_eq_true, if_false]
      refine Secures.bind (settles_fill writer buffer bears given) ?_
      rintro filled last ⟨samePath, sameLimit, clear, given⟩
      rw [pending] at clear given
      refine Secures.mono (settles_blocks filled _ (samePath ▸ bears) clear given) ?_
      rintro after final ⟨path, limit, given⟩
      rw [List.append_assoc, List.take_append_drop] at given
      exact ⟨path.trans samePath, limit.trans sameLimit, given⟩

theorem settles_writeEach (pieces : List (List UInt8)) (writer : SparseWriter)
    (bears : Bears allowed safe dest before writer.path) (given : Given dest before writer data world)
    (full : writer.limit < (data ++ pieces.flatten).length →
      ∀ {flushed world}, Flushed dest before writer.path flushed world → safe world) :
    Settles allowed safe (writer.writeEach pieces) world fun after last =>
      after.path = writer.path ∧ after.limit = writer.limit ∧
        Given dest before after (data ++ pieces.flatten) last := by
  induction pieces generalizing writer data world with
  | nil =>
    refine Secures.pure ⟨rfl, rfl, ?_⟩
    rw [List.flatten_nil, List.append_nil]
    exact given
  | cons piece pieces ih =>
    rw [List.flatten_cons, ← List.append_assoc] at full ⊢
    obtain ⟨_, _, _, held⟩ := given.flushed
    have now : writer.limit < data.length + piece.length → safe world := by
      intro past
      refine full ?_ held
      simp only [List.length_append]
      omega
    refine Secures.bind (settles_write writer piece bears given now) ?_
    rintro middle last ⟨samePath, sameLimit, given⟩
    refine Secures.mono (ih middle (samePath ▸ bears) given (samePath ▸ sameLimit ▸ full)) ?_
    rintro after final ⟨path, limit, given⟩
    exact ⟨path.trans samePath, limit.trans sameLimit, given⟩

theorem settles_finish (bears : Bears allowed safe dest before writer.path)
    (given : Given dest before writer data world) : Settles allowed safe writer.finish world fun length last =>
      length = data.length ∧ last.files writer.path = some data ∧ last.files dest = before := by
  obtain ⟨flushed, whole, counted, held⟩ := given.flushed
  have emitted : Settles allowed safe writer.emitTail world
      fun after last => after.path = writer.path ∧ after.len = data.length ∧
        Flushed dest before writer.path data last := by
    rw [emitTail]
    split
    · rename_i none
      rw [List.isEmpty_iff.mp none, List.append_nil] at whole
      exact Secures.pure ⟨rfl, whole ▸ counted, whole ▸ held⟩
    · refine Secures.mono (settles_emit writer _ bears held) ?_
      rintro after last ⟨rfl, held⟩
      refine ⟨rfl, ?_, whole ▸ held⟩
      rw [← whole, List.length_append, counted]
  refine Secures.bind emitted ?_
  rintro ⟨_, _, pending, limit⟩ last ⟨rfl, rfl, held⟩
  have lengthened : Settles allowed safe (perform (.setLen writer.path data.length)) last fun _ final =>
        final.files writer.path = some data ∧ final.files dest = before := by
    refine settles_perform (bears.stopped held) (fun permitted failure => (bears.failed held permitted failure).1)
      nofun fun _ => ⟨?_, ?_⟩
    · exact (last.store_files_self _ _).trans (congrArg some held.reads.setLength)
    · exact (last.store_files_of_ne _ bears.apart.symm).trans held.kept
  exact Secures.bind lengthened fun _ final done => Secures.pure ⟨rfl, done⟩

/-! ## Writers whose calls are carried out -/

def Smooth (_ : World) (_ : Call) (answer : Option Answer) : Prop := answer.map Answer.failure = some none

/-- With these answers the pass returns the value and leaves the world. -/
def Runs {α : Type} (pass : Pass α) (answers : Nat → Answer) (world : World) (value : α) (last : World) : Prop :=
  ∃ count, pass.run.attempt worldBackend ((List.range count).map answers) world = (some (.ok value), last)

theorem exists_runs {α : Type} {pass : Pass α} {post : α → World → Prop}
    (settles : Settles Smooth (fun _ => False) pass world post) {answers : Nat → Answer}
    (smooth : ∀ index, (answers index).failure = none) : ∃ value last, Runs pass answers world value last ∧ post value last := by
  obtain ⟨count, result, returned⟩ := @attempt_returns Call Reply _ worldBackend pass.run answers world
  have within := @within_of_returned Call Reply _ worldBackend Smooth _ _ _ _ (fun answer member _ _ => by
    obtain ⟨index, -, rfl⟩ := List.mem_map.mp member
    exact congrArg some (smooth index)) returned
  obtain ⟨right, wrong⟩ := settles.attempt within
  cases result with
  | error reason => exact (wrong fun value same => nomatch returned.symm.trans same).elim
  | ok value => exact ⟨value, _, ⟨count, Prod.ext returned rfl⟩, right value returned⟩

theorem bears_smooth (apart : path ≠ dest) : Bears Smooth (fun _ => False) dest before path where
  apart := apart
  stopped _ permitted := nomatch permitted
  failed _ permitted failure := nomatch failure.symm.trans (Option.some.inj permitted)

/-- Whatever is written to a new file, piece by piece and within the limit, is what the
file reads as in the end, and a piece beyond the limit fails before anything is done. -/
theorem writes_exact {path : String} {limit : Nat} {pieces : List (List UInt8)} {world : World}
    {answers : Nat → Answer} (empty : world.files path = some [] ∧ world.position = 0)
    (fits : pieces.flatten.length ≤ limit) (smooth : ∀ index, (answers index).failure = none) :
    ∃ writer reached, Runs (writeEach { path := path, limit := limit } pieces) answers world writer reached ∧
      (∀ more, limit < pieces.flatten.length + more.length →
        writer.write more = throw (.io s!"more than the declared {limit} bytes")) ∧
      ∀ later : Nat → Answer, (∀ index, (later index).failure = none) →
        ∃ last, Runs writer.finish later reached pieces.flatten.length last ∧
          last.files path = some pieces.flatten := by
  obtain ⟨dest, apart⟩ : ∃ dest, path ≠ dest := by
    by_cases unnamed : path = ""
    · exact ⟨"a", unnamed ▸ by decide⟩
    · exact ⟨"", unnamed⟩
  have opened : Given dest (world.files dest) { path := path, limit := limit } [] world := by
    refine ⟨⟨[], rfl, rfl, rfl, empty.1 ▸ rfl, ?_⟩, (by decide : 0 < blockSize)⟩
    rw [World.opened, empty.1, empty.2]
    exact SparseFile.reads_new
  obtain ⟨writer, reached, runs, samePath, sameLimit, given⟩ :=
    exists_runs (settles_writeEach pieces _ (bears_smooth apart) opened (absurd · (Nat.not_lt.mpr fits))) smooth
  refine ⟨writer, reached, runs, fun more past => ?_, fun later smooth => ?_⟩
  · rw [write, given.length, if_pos (sameLimit ▸ past), sameLimit]
  · obtain ⟨_, last, runs, rfl, written, -⟩ :=
      exists_runs (settles_finish writer (bears_smooth (samePath ▸ apart)) given) smooth
    exact ⟨last, runs, (congrArg last.files samePath).symm.trans written⟩

theorem writes_exact_disk : ∃ writer reached,
    Runs (writeEach { path := "disk", limit := 4 } [[0, 0], [], [7]]) (fun _ => {}) ⟨fun _ => some [], 0, []⟩
      writer reached ∧ writer.write [1, 1] = throw (.io "more than the declared 4 bytes") := by
  obtain ⟨writer, reached, runs, beyond, -⟩ := @writes_exact "disk" 4 [[0, 0], [], [7]] ⟨fun _ => some [], 0, []⟩
    (fun _ => {}) ⟨rfl, rfl⟩ (by decide) (fun _ => rfl)
  exact ⟨writer, reached, runs, beyond [1, 1] (by decide)⟩

end SparseWriter

end Banlieue.Oci
