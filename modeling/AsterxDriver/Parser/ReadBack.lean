import AsterxDriver.Parser.Agreement
import AsterxDriver.Sbf.WireFrame

/-! # Reading back what was written

Files that hold intact frames without a gap, and the frames that
`rebuild_sbf_frame` makes. -/

namespace AsterxDriver.Parser

open Foundation ByteString Sbf

/-! ## Files of intact frames -/

section

variable {frames : List Frame} (intact : ∀ frame ∈ frames, Intact frame)

include intact

/-- The parser yields the frames of the file, each where the one before ends. -/
theorem iterFrames_wireBytes :
    iterFrames (frames.flatMap wireBytes) =
      (contiguous 0 frames).map fun found => ofDriver found.1 found.2 := by
  have run := iterFramesFrom_run (frames.flatMap wireBytes) 0 _ rfl (Nat.zero_le _)
  rw [List.drop_zero, run_wireBytes intact, locatedFrames_frameTokens] at run
  rw [iterFrames, run, iterFramesFrom_of_short, List.append_nil]
  simp only [List.length_nil]
  omega

theorem verifySbfBytes_wireBytes :
    verifySbfBytes (frames.flatMap wireBytes) = (frames.length, 0) := by
  have run := verifySbfBytesFrom_run (frames.flatMap wireBytes) 0 _ rfl (Nat.zero_le _) 0 0
  have found : framesOf ((contiguous 0 frames).map frameToken) = frames := by
    rw [← map_snd_locatedFrames, locatedFrames_frameTokens, map_snd_contiguous]
  have clean : crcFailures ((contiguous 0 frames).map frameToken) = 0 := by
    simp [crcFailures, frameToken]
  rw [List.drop_zero, run_wireBytes intact, found, clean] at run
  rw [verifySbfBytes, run, verifySbfBytesFrom, if_neg, Nat.zero_add]
  simp only [List.length_nil]
  omega

end

/-! ## Rebuilt frames -/

/-- The body filled up so that the whole frame is a multiple of four bytes. -/
def padded (body : List Byte) : List Byte :=
  body ++ List.replicate ((4 - (8 + body.length) % 4) % 4) 0

def rebuiltFrame (rawId : Nat) (body : List Byte) : Frame where
  crc := Sbf.crcCcittXmodem
    (packU16le rawId ++ packU16le (8 + (padded body).length) ++ padded body)
  rawId := BitVec.ofNat 16 rawId
  length := BitVec.ofNat 16 (8 + (padded body).length)
  body := padded body

theorem padded_of_mod {body : List Byte} (whole : (8 + body.length) % 4 = 0) :
    padded body = body := by
  rw [padded, whole, List.replicate_zero, List.append_nil]

theorem length_padded_mod (body : List Byte) : (8 + (padded body).length) % 4 = 0 := by
  simp only [padded, List.length_append, List.length_replicate]
  omega

theorem length_padded_le_iff (body : List Byte) :
    8 + (padded body).length ≤ 8188 ↔ 8 + body.length ≤ 8188 := by
  simp only [padded, List.length_append, List.length_replicate]
  omega

theorem packH_eq_ok {value : Nat} {bytes : List Byte} :
    packH value = .ok bytes ↔ value < 65536 ∧ bytes = packU16le value := by
  unfold packH
  split <;> simp_all [eq_comm]

/-- What `rebuild_sbf_frame` does for a block number that fits its field. -/
theorem rebuildSbfFrame_eq {rawId : Nat} (bound : rawId < 65536) (body : List Byte) :
    rebuildSbfFrame rawId body =
      if 8 + body.length ≤ 8188 then .ok (wireBytes (rebuiltFrame rawId body))
      else .error (.valueError
        s!"SBF frame too large: {8 + (padded body).length} bytes") := by
  have sameCrc : crcCcittXmodem (packU16le rawId ++
      packU16le (8 + (padded body).length) ++ padded body) =
        (rebuiltFrame rawId body).crc.toNat := crcCcittXmodem_eq_toNat _
  have fits := length_padded_le_iff body
  by_cases small : 8 + body.length ≤ 8188
  · have length : 8 + (padded body).length < 65536 := by omega
    have packedId := packH_eq_ok.mpr ⟨bound, rfl⟩
    have packedLength := packH_eq_ok.mpr ⟨length, rfl⟩
    have packedCrc := packH_eq_ok.mpr ⟨(rebuiltFrame rawId body).crc.isLt, rfl⟩
    rw [if_pos small]
    simp only [rebuildSbfFrame]
    rw [← padded, if_neg (by omega), packedId, Checked.ok_bind, packedLength,
      Checked.ok_bind, sameCrc, packedCrc]
    simp only [Checked.ok_bind, wireBytes, rebuiltFrame, BitVec.toNat_ofNat,
      Nat.mod_eq_of_lt bound, Nat.mod_eq_of_lt length]
    rfl
  · rw [if_neg small]
    simp only [rebuildSbfFrame]
    rw [← padded, if_pos (by omega)]

theorem rebuildSbfFrame_ok {rawId : Nat} (bound : rawId < 65536) {body : List Byte}
    (small : 8 + body.length ≤ 8188) :
    rebuildSbfFrame rawId body = .ok (wireBytes (rebuiltFrame rawId body)) := by
  rw [rebuildSbfFrame_eq bound, if_pos small]

theorem rebuiltFrame_intact {rawId : Nat} (bound : rawId < 65536) {body : List Byte}
    (small : 8 + body.length ≤ 8188) : Intact (rebuiltFrame rawId body) := by
  have fits := (length_padded_le_iff body).mpr small
  have multiple := length_padded_mod body
  have length : (rebuiltFrame rawId body).length.toNat = 8 + (padded body).length := by
    rw [rebuiltFrame, BitVec.toNat_ofNat, Nat.mod_eq_of_lt (by omega)]
  have rawIdEq : (rebuiltFrame rawId body).rawId.toNat = rawId := by
    rw [rebuiltFrame, BitVec.toNat_ofNat, Nat.mod_eq_of_lt bound]
  constructor
  · rw [length]
    exact ⟨multiple, by omega, fits⟩
  · rw [length]
    rfl
  · rw [length, rawIdEq]
    rfl

/-- Whatever `rebuild_sbf_frame` returns is an intact frame. -/
theorem intact_of_rebuildSbfFrame {rawId : Nat} {body bytes : List Byte}
    (rebuilt : rebuildSbfFrame rawId body = .ok bytes) :
    rawId < 65536 ∧ 8 + body.length ≤ 8188 ∧
      bytes = wireBytes (rebuiltFrame rawId body) := by
  have bound : rawId < 65536 := by
    simp only [rebuildSbfFrame] at rebuilt
    split at rebuilt
    · cases rebuilt
    · rcases Checked.bind_eq_ok.mp rebuilt with ⟨_, packed, _⟩
      exact (packH_eq_ok.mp packed).1
  rw [rebuildSbfFrame_eq bound] at rebuilt
  split at rebuilt
  · rename_i small
    cases rebuilt
    exact ⟨bound, small, rfl⟩
  · cases rebuilt

/-! ## Framing and unframing -/

/-- Every frame that the loop yields stands in the data at its offset. -/
theorem frameAt_of_mem_iterFramesFrom (data : List Byte) (i : Nat) :
    ∀ frame ∈ iterFramesFrom data i, ∃ found : Frame,
      FrameAt data frame.offset found ∧ ofDriver frame.offset found = frame := by
  fun_induction iterFramesFrom data i with
  | case1 i inside noSync induction => exact induction
  | case2 i inside sync length bad induction => exact induction
  | case3 i inside sync crc length good mismatch induction => exact induction
  | case4 i inside sync crc rawId length good matching induction =>
      have lengthField : (BitVec.ofNat 16 length).toNat = length := by
        rw [BitVec.toNat_ofNat, Nat.mod_eq_of_lt (u16le_lt data (i + 6))]
      have crcField : (BitVec.ofNat 16 crc).toNat = crc := by
        rw [BitVec.toNat_ofNat, Nat.mod_eq_of_lt (u16le_lt data (i + 2))]
      have rawIdField : (BitVec.ofNat 16 rawId).toNat = rawId := by
        rw [BitVec.toNat_ofNat, Nat.mod_eq_of_lt (u16le_lt data (i + 4))]
      have checked : Sbf.crcCcittXmodem (slice data (i + 4) (i + length)) =
          BitVec.ofNat 16 crc := by
        apply BitVec.eq_of_toNat_eq
        rw [← crcCcittXmodem_eq_toNat, crcField]
        exact not_not.mp matching
      refine List.forall_mem_cons.mpr ⟨⟨⟨BitVec.ofNat 16 crc, BitVec.ofNat 16 rawId,
        BitVec.ofNat 16 length, slice data (i + 8) (i + length)⟩, ?_, ?_⟩, induction⟩
      · constructor
        · exact not_not.mp fun other => sync (.inl other)
        · exact not_not.mp fun other => sync (.inr other)
        · exact crcField
        · exact rawIdField
        · exact lengthField
        · rw [lengthField]
        · rw [lengthField]
          exact ⟨by omega, by omega, by omega⟩
        · rw [lengthField]
          change i + length ≤ data.length
          omega
        · rw [lengthField]
          exact checked
      · simp only [ofDriver, lengthField, crcField, rawIdField]
  | case5 i short => exact fun _ member => absurd member List.not_mem_nil

/-- An intact frame is what its own number and body are rebuilt to. -/
theorem rebuiltFrame_of_intact {frame : Frame} (intact : Intact frame) :
    rebuiltFrame frame.rawId.toNat frame.body = frame := by
  have size := intact.size
  have same : padded frame.body = frame.body := padded_of_mod (by
    rw [size]
    exact intact.valid.multiple)
  have lengthField : BitVec.ofNat 16 (8 + frame.body.length) = frame.length := by
    rw [size, BitVec.ofNat_toNat, BitVec.setWidth_eq]
  have rawIdField : BitVec.ofNat 16 frame.rawId.toNat = frame.rawId := by
    rw [BitVec.ofNat_toNat, BitVec.setWidth_eq]
  rw [rebuiltFrame, same, lengthField, rawIdField, size, intact.checked]

theorem rebuildSbfFrame_of_mem_iterFrames {data : List Byte} {frame : SbfFrame}
    (member : frame ∈ iterFrames data) :
    rebuildSbfFrame frame.rawId frame.body =
      .ok (slice data frame.offset (frame.offset + frame.length)) := by
  rcases frameAt_of_mem_iterFramesFrom data 0 frame member with ⟨found, present, same⟩
  rcases intact_of_frameAt present with ⟨intact, bytes⟩
  have small : 8 + found.body.length ≤ 8188 := by
    rw [intact.size]
    exact intact.valid.most
  have rebuilt := rebuildSbfFrame_ok found.rawId.isLt small
  rw [rebuiltFrame_of_intact intact, ← bytes] at rebuilt
  rw [← same]
  exact rebuilt

/-- The body with the zeros behind it that `rebuild_sbf_frame` adds. -/
theorem padded_eq (body : List Byte) :
    padded body = body ++ List.replicate ((4 - body.length % 4) % 4) 0 := by
  rw [padded, show (4 - (8 + body.length) % 4) % 4 = (4 - body.length % 4) % 4 by omega]

/-- Results of `rebuild_sbf_frame` as the frames they are the bytes of. -/
theorem mapM_rebuildSbfFrame {blocks : List (Nat × List Byte)} {results : List (List Byte)}
    (built : blocks.mapM (fun block => rebuildSbfFrame block.1 block.2) = .ok results) :
    results = blocks.map (fun block => wireBytes (rebuiltFrame block.1 block.2)) ∧
      ∀ block ∈ blocks, block.1 < 65536 ∧ Intact (rebuiltFrame block.1 block.2) := by
  induction blocks generalizing results with
  | nil =>
      cases built
      exact ⟨rfl, by simp⟩
  | cons block later induction =>
      rw [List.mapM_cons] at built
      rcases Checked.bind_eq_ok.mp built with ⟨bytes, first, rest⟩
      rcases Checked.bind_eq_ok.mp rest with ⟨others, laterBuilt, collected⟩
      cases collected
      rcases intact_of_rebuildSbfFrame first with ⟨bound, small, rfl⟩
      rcases induction laterBuilt with ⟨rfl, intact⟩
      exact ⟨rfl, List.forall_mem_cons.mpr ⟨⟨bound, rebuiltFrame_intact bound small⟩, intact⟩⟩

/-- Reading frames that follow one another gives their numbers and padded bodies. -/
theorem forall₂_contiguous {blocks : List (Nat × List Byte)}
    (bounds : ∀ block ∈ blocks, block.1 < 65536) (start : Nat) :
    List.Forall₂ (fun (frame : SbfFrame) block => frame.rawId = block.1 ∧
        frame.body = padded block.2)
      ((contiguous start (blocks.map fun block => rebuiltFrame block.1 block.2)).map
        fun found => ofDriver found.1 found.2) blocks := by
  induction blocks generalizing start with
  | nil => exact .nil
  | cons block later induction =>
      rcases List.forall_mem_cons.mp bounds with ⟨bound, rest⟩
      rw [List.map_cons, contiguous, List.map_cons]
      refine .cons ⟨?_, rfl⟩ (induction rest _)
      change (BitVec.ofNat 16 block.1).toNat = block.1
      rw [BitVec.toNat_ofNat, Nat.mod_eq_of_lt bound]

/-- `rebuild_sbf_frame` and `iter_frames` undo each other. -/
theorem framing_unframing_inverse :
    (∀ (rawId : Nat) (body : List Byte), rawId < 65536 →
      ((∃ error, rebuildSbfFrame rawId body = .error error) ↔
        8 + (body.length + 3) / 4 * 4 > 8188)) ∧
    (∀ (blocks : List (Nat × List Byte)) (results : List (List Byte)),
      blocks.mapM (fun block => rebuildSbfFrame block.1 block.2) = .ok results →
        List.Forall₂ (fun (frame : SbfFrame) block => frame.rawId = block.1 ∧
            frame.body = block.2 ++ List.replicate ((4 - block.2.length % 4) % 4) 0)
          (iterFrames results.flatten) blocks) ∧
    ∀ (data : List Byte), ∀ frame ∈ iterFrames data,
      rebuildSbfFrame frame.rawId frame.body =
        .ok (slice data frame.offset (frame.offset + frame.length)) := by
  refine ⟨?_, ?_, ?_⟩
  · intro rawId body bound
    rw [rebuildSbfFrame_eq bound]
    by_cases small : 8 + body.length ≤ 8188
    · rw [if_pos small]
      constructor
      · intro ⟨error, impossible⟩
        cases impossible
      · intro large
        omega
    · rw [if_neg small]
      exact ⟨fun _ => by omega, fun _ => ⟨_, rfl⟩⟩
  · intro blocks results built
    rcases mapM_rebuildSbfFrame built with ⟨rfl, intact⟩
    have wires : ∀ frame ∈ blocks.map (fun block => rebuiltFrame block.1 block.2),
        Intact frame := by
      intro frame member
      rcases List.mem_map.mp member with ⟨block, found, rfl⟩
      exact (intact block found).2
    have read := iterFrames_wireBytes wires
    rw [List.flatMap_def, List.map_map] at read
    change iterFrames (blocks.map fun block =>
      wireBytes (rebuiltFrame block.1 block.2)).flatten = _ at read
    rw [read]
    simp only [← padded_eq]
    exact forall₂_contiguous (fun block found => (intact block found).1) 0
  · intro data frame member
    exact rebuildSbfFrame_of_mem_iterFrames member

/-- A body that starts with the sync bytes, and an empty one. -/
def syncAndEmpty : List (Nat × List Byte) := [(4027, [0x24, 0x40, 0x01]), (5922, [])]

theorem framing_unframing_syncAndEmpty :
    ∃ results, syncAndEmpty.mapM (fun block => rebuildSbfFrame block.1 block.2) = .ok results ∧
      List.Forall₂ (fun (frame : SbfFrame) block => frame.rawId = block.1 ∧
          frame.body = block.2 ++ List.replicate ((4 - block.2.length % 4) % 4) 0)
        (iterFrames results.flatten) syncAndEmpty ∧
      (¬ ∃ error, rebuildSbfFrame 4027 [0x24, 0x40, 0x01] = .error error) ∧
      ∀ frame ∈ iterFrames results.flatten, rebuildSbfFrame frame.rawId frame.body =
        .ok (slice results.flatten frame.offset (frame.offset + frame.length)) := by
  have built : syncAndEmpty.mapM (fun block => rebuildSbfFrame block.1 block.2) =
      .ok [wireBytes (rebuiltFrame 4027 [0x24, 0x40, 0x01]),
        wireBytes (rebuiltFrame 5922 [])] := by
    rw [syncAndEmpty, List.mapM_cons, List.mapM_cons, rebuildSbfFrame_ok (by decide) (by decide),
      rebuildSbfFrame_ok (by decide) (by decide)]
    rfl
  refine ⟨_, built, framing_unframing_inverse.2.1 _ _ built, ?_, framing_unframing_inverse.2.2 _⟩
  rw [framing_unframing_inverse.1 4027 [0x24, 0x40, 0x01] (by decide)]
  decide

end AsterxDriver.Parser
