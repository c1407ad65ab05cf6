import AsterxDriver.Sbf.Session

/-! # What the buffer holds between calls -/

namespace AsterxDriver.Sbf

open Foundation ByteString

/-- The representation invariant of `buf_`, `state_` and `frame_drain_`. -/
structure BufferInvariant (sync : SbfFrameSync) : Prop where
  drainInside : sync.frameDrain ≤ sync.buf.length
  busyDrained : sync.state ≠ .idle → sync.frameDrain = 0
  busyDollar : sync.state ≠ .idle → [0x24] <+: sync.buf
  headerSync : sync.state = .readingHeader → [0x24, 0x40] <+: sync.buf
  bodySync : sync.state = .readingBody → [0x24, 0x40] <+: sync.buf
  bodyLength : sync.state = .readingBody →
    8 ≤ sync.buf.length ∧ ValidLength (u16le sync.buf 6)
  busyShort : sync.state ≠ .idle → sync.buf.length ≤ 8187
  idleEmpty : sync.state = .idle → sync.frameDrain = 0 → sync.buf = []

theorem dollar_prefix {buf : List Byte} (nonempty : 0 < buf.length)
    (first : u8 buf 0 = 0x24) : [0x24] <+: buf := by
  cases buf with
  | nil => simp at nonempty
  | cons head tail =>
      rw [u8_cons_zero, toNat_eq_iff_of_lt head 0x24 (by omega)] at first
      simpa using first.symm

theorem sync_prefix {buf : List Byte} (long : 1 < buf.length)
    (first : u8 buf 0 = 0x24) (second : u8 buf 1 = 0x40) : [0x24, 0x40] <+: buf := by
  cases buf with
  | nil => simp at long
  | cons head tail =>
      rw [u8_cons_zero, toNat_eq_iff_of_lt head 0x24 (by omega)] at first
      rw [u8_cons_succ] at second
      cases tail with
      | nil => simp at long
      | cons next tail =>
          rw [u8_cons_zero, toNat_eq_iff_of_lt next 0x40 (by omega)] at second
          subst first second
          exact ⟨tail, rfl⟩

/-- A consistent synchronizer has the representation the source describes. -/
theorem SbfFrameSync.Consistent.bufferInvariant {sync : SbfFrameSync}
    (consistent : sync.Consistent) : BufferInvariant sync := by
  have waiting : ∀ busy : sync.state ≠ .idle, _ := fun busy =>
    verdict_none_cases (consistent.busy busy).2.1
  have state : ∀ busy : sync.state ≠ .idle, sync.state = pendingState sync.buf :=
    fun busy => (consistent.busy busy).2.2
  have nonempty : sync.state ≠ .idle → sync.buf.length ≠ 0 := by
    intro busy empty
    rw [state busy, pendingState, if_pos empty] at busy
    exact busy rfl
  have header : sync.state = .readingHeader ∨ sync.state = .readingBody →
      1 < sync.buf.length ∧ u8 sync.buf 0 = 0x24 ∧ u8 sync.buf 1 = 0x40 := by
    intro reading
    have busy : sync.state ≠ .idle := by
      rcases reading with reading | reading <;> simp [reading]
    rcases waiting busy with empty | ⟨_, first, one | ⟨two, second, _⟩⟩
    · exact absurd empty (nonempty busy)
    · rw [state busy, pendingState, if_neg (by omega), if_pos (by omega)] at reading
      simp at reading
    · exact ⟨two, first, second⟩
  exact
    { drainInside := consistent.drained
      busyDrained := fun busy => (consistent.busy busy).1
      busyDollar := by
        intro busy
        rcases waiting busy with empty | ⟨long, first, _⟩
        · exact absurd empty (nonempty busy)
        · exact dollar_prefix long first
      headerSync := by
        intro reading
        rcases header (.inl reading) with ⟨long, first, second⟩
        exact sync_prefix long first second
      bodySync := by
        intro reading
        rcases header (.inr reading) with ⟨long, first, second⟩
        exact sync_prefix long first second
      bodyLength := by
        intro reading
        have busy : sync.state ≠ .idle := by simp [reading]
        rw [state busy] at reading
        have large : 8 ≤ sync.buf.length := by
          unfold pendingState at reading
          split_ifs at reading
          omega
        rcases waiting busy with empty | ⟨_, _, one | ⟨_, _, short | ⟨_, valid, _⟩⟩⟩
        · omega
        · omega
        · omega
        · exact ⟨large, valid⟩
      busyShort := fun busy => length_of_waiting (consistent.busy busy).2.1
      idleEmpty := consistent.empty }

/-! ## The size of the buffer -/

/-- Lengths of the chunks fed so far, in order. -/
def chunkLengths (ops : List Op) : List Nat :=
  ops.filterMap fun op => match op with
    | .feed bytes => some bytes.length
    | .reset => none

def lastChunk (ops : List Op) : Nat := (chunkLengths ops).getLastD 0

def previousChunk (ops : List Op) : Nat := (chunkLengths ops).dropLast.getLastD 0

/-- After a call that looked at the kept bytes and `bytes`, what is kept again is
bounded by the largest frame and the new chunk: frames found in bytes that were
already passed over end behind them. -/
theorem length_pending_settle {sync : SbfFrameSync} (consistent : sync.Consistent)
    (bytes : List Byte) (stats : FrameSyncStats) :
    (SbfFrameSync.settle stats (sync.pending ++ bytes)).pending.length ≤
      8187 + bytes.length := by
  rcases SbfFrameSync.settle_cases stats (sync.pending ++ bytes) with ⟨_, settled⟩ |
    ⟨_, _, settled⟩ | ⟨front, token, back, _, cut, emitted, _, _, settled⟩
  · have short := length_of_waiting (scanner.verdict_rest 0 (sync.pending ++ bytes))
    rw [settled]
    exact Nat.le_trans short (Nat.le_add_right _ _)
  · rw [settled]
    exact Nat.zero_le _
  · rw [settled, SbfFrameSync.pending, List.length_drop, List.length_append]
    change sync.pending.length + bytes.length - token.stop ≤ _
    by_cases idle : sync.state = .idle
    · rcases consistent.scanned idle with ⟨decided, quiet⟩
      have member : token ∈ scanner.tokens (sync.pending ++ bytes) := by simp [cut]
      rw [scanner.tokens_append_of_decided decided] at member
      rcases List.mem_append.mp member with old | new
      · rw [frame?_of_framesOf_nil quiet old] at emitted
        cases emitted
      · have behind := (scanner.verdict_of_mem _ _ token new).1
        rw [Token.stop]
        omega
    · rcases consistent.busy idle with ⟨noDrain, waiting, _⟩
      have short := length_of_waiting waiting
      rw [SbfFrameSync.pending, noDrain, List.drop_zero]
      omega

theorem length_buf_settle (stats : FrameSyncStats) (buf : List Byte) :
    (SbfFrameSync.settle stats buf).buf.length ≤ buf.length := by
  unfold SbfFrameSync.settle
  split_ifs
  · exact scanner.length_rest_le 0 buf
  · exact Nat.zero_le _
  · exact Nat.le_refl _

structure SizeBound (ops : List Op) (sync : SbfFrameSync) : Prop where
  whole : sync.buf.length ≤ 8187 + previousChunk ops + lastChunk ops
  kept : sync.pending.length ≤ 8187 + lastChunk ops

theorem SizeBound.apply {ops : List Op} {session next : Session} {op : Op}
    (bound : SizeBound ops session.sync) (sound : session.Sound)
    (applied : session.apply op = .ok next) : SizeBound (ops ++ [op]) next.sync := by
  cases op with
  | feed bytes =>
      rw [Session.apply_feed sound] at applied
      cases applied
      have lengths : chunkLengths (ops ++ [.feed bytes]) =
          chunkLengths ops ++ [bytes.length] := by
        simp [chunkLengths]
      have last : lastChunk (ops ++ [.feed bytes]) = bytes.length := by
        simp [lastChunk, lengths]
      have previous : previousChunk (ops ++ [.feed bytes]) = lastChunk ops := by
        simp [previousChunk, lastChunk, lengths]
      have whole := length_buf_settle (SbfFrameSync.count session.sync.stats bytes)
        (session.sync.pending ++ bytes)
      have before := bound.kept
      rw [List.length_append] at whole
      constructor
      · rw [last, previous]
        change (SbfFrameSync.settle _ _).buf.length ≤ _
        omega
      · rw [last]
        exact length_pending_settle sound.tracks.consistent bytes _
  | reset =>
      cases applied
      constructor <;> simp [SbfFrameSync.reset, SbfFrameSync.pending]

theorem Session.run_append_singleton (session : Session) (ops : List Op) (op : Op) :
    session.run (ops ++ [op]) = session.run ops >>= fun middle => middle.apply op := by
  rw [Session.run, Session.run, List.foldlM_append]
  congr 1
  funext middle
  rw [List.foldlM_cons]
  cases middle.apply op <;> rfl

/-- After every sequence of calls: no checked operation has failed, the
representation invariant holds, and the buffer is bounded by the largest frame
and the last two chunks. -/
theorem buffer_invariant_run (ops : List Op) :
    ∃ session, Session.fresh.run ops = .ok session ∧ BufferInvariant session.sync ∧
      session.sync.buf.length ≤ 8187 + previousChunk ops + lastChunk ops := by
  have bounded : ∃ session, Session.fresh.run ops = .ok session ∧ session.Sound ∧
      SizeBound ops session.sync := by
    induction ops using List.reverseRecOn with
    | nil =>
        refine ⟨Session.fresh, rfl, Session.sound_fresh, ?_⟩
        constructor <;> simp [Session.fresh, SbfFrameSync.fresh, SbfFrameSync.pending]
    | append_singleton ops op induction =>
        rcases induction with ⟨session, result, sound, bound⟩
        rcases Session.apply_sound sound op with ⟨next, applied, soundNext⟩
        refine ⟨next, ?_, soundNext, bound.apply sound applied⟩
        rw [Session.run_append_singleton, result]
        exact applied
  rcases bounded with ⟨session, result, sound, bound⟩
  exact ⟨session, result, sound.tracks.consistent.bufferInvariant, bound.whole⟩

end AsterxDriver.Sbf
