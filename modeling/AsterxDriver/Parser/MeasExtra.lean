import AsterxDriver.Parser.CsvRow
import AsterxDriver.Parser.ReadBack

/-! # MeasExtra

`meas_extra_subblocks` and `build_meas_extra_body` of `scripts/parser.py`. -/

namespace AsterxDriver.Parser

open Foundation ByteString Sbf

/-- The number of sub-blocks is stored modulo 256; the size of the body tells the
rest. -/
def nrSubblocks (payloadLen sbLen nMod : Nat) : Nat :=
  let nrSubblocks : Int := ((payloadLen / sbLen : Nat) - nMod) / 256 * 256 + nMod
  if nrSubblocks ≤ 0 ∨ nrSubblocks * sbLen > payloadLen then payloadLen / sbLen
  else nrSubblocks.toNat

/-- Both decoders divide by the length of a sub-block before anything else. -/
def countSubblocks (payloadLen sbLen nMod : Nat) : Except PyError Nat :=
  if sbLen = 0 then .error .zeroDivisionError else .ok (nrSubblocks payloadLen sbLen nMod)

def measExtraSubblocks (frame : SbfFrame) :
    Except PyError (List Byte × Nat × List (List Byte)) :=
  if frame.body.length < 12 then .ok ([], 0, [])
  else do
    let nMod ← byteAt frame.body 6
    let sbLen ← byteAt frame.body 7
    if sbLen = 0 then return ([], 0, [])
    else
      let count ← countSubblocks (frame.body.length - 12) sbLen nMod
      let blocks ← subBlocks frame.body.length sbLen
        (fun _ off => .ok (slice frame.body off (off + sbLen))) count 0 12
      return (frame.body.take 12, sbLen, blocks)

/-- The sub-blocks at the given places; places that do not exist are skipped. -/
def keptBlocks (blocks : List (List Byte)) (indices : List Nat) : List (List Byte) :=
  (indices.filter (· < blocks.length)).map (blocks.getD · [])

def buildMeasExtraBody (frame : SbfFrame) (indices : List Nat) :
    Except PyError (Option (List Byte)) := do
  let (header, sbLen, blocks) ← measExtraSubblocks frame
  if header = [] ∨ sbLen = 0 ∨ indices = [] then return none
  else
    let kept := (keptBlocks blocks indices).flatten
    if kept = [] then return none
    else return some (header.take 6 ++
      [BitVec.ofNat 8 (kept.length / sbLen % 256), BitVec.ofNat 8 sbLen] ++
      slice header 8 12 ++ kept)

/-! ## The sub-blocks of a body -/

theorem countSubblocks_eq {sbLen : Nat} (positive : sbLen ≠ 0) (payloadLen nMod : Nat) :
    countSubblocks payloadLen sbLen nMod = .ok (nrSubblocks payloadLen sbLen nMod) :=
  if_neg positive

theorem nrSubblocks_mul_le (payloadLen sbLen nMod : Nat) :
    nrSubblocks payloadLen sbLen nMod * sbLen ≤ payloadLen := by
  unfold nrSubblocks
  dsimp only
  split
  · exact Nat.div_mul_le_self payloadLen sbLen
  · rename_i fits
    push Not at fits
    zify
    rw [Int.toNat_of_nonneg (by omega)]
    exact fits.2

/-- The count is right when the body holds the counted blocks and less than 256
more would fit. -/
theorem nrSubblocks_eq {sbLen count trailing : Nat} (positive : 0 < sbLen) (some : 0 < count)
    (short : trailing < 256 * sbLen) :
    nrSubblocks (count * sbLen + trailing) sbLen (count % 256) = count := by
  have quotient : (count * sbLen + trailing) / sbLen = count + trailing / sbLen := by
    rw [Nat.add_comm, Nat.add_mul_div_right _ _ positive, Nat.add_comm]
  have few : trailing / sbLen < 256 := Nat.div_lt_of_lt_mul (by rwa [Nat.mul_comm] at short)
  have recovered : (((count * sbLen + trailing) / sbLen : Nat) - (count % 256 : Nat) : Int) /
      256 * 256 + (count % 256 : Nat) = count := by
    rw [quotient]
    generalize trailing / sbLen = more at few
    omega
  unfold nrSubblocks
  rw [recovered, if_neg, Int.toNat_natCast]
  push Not
  constructor
  · exact_mod_cast some
  · exact_mod_cast Nat.le_add_right (count * sbLen) trailing

/-- The sub-blocks of a body, each where the one before ends. -/
def extraBlocks (body : List Byte) : List (List Byte) :=
  if body.length < 12 ∨ u8 body 7 = 0 then []
  else (List.range (nrSubblocks (body.length - 12) (u8 body 7) (u8 body 6))).map fun k =>
    slice body (12 + k * u8 body 7) (12 + k * u8 body 7 + u8 body 7)

theorem subBlocks_slices (body : List Byte) (sbLen count off : Nat)
    (fits : off + count * sbLen ≤ body.length) :
    subBlocks body.length sbLen (fun _ off => .ok (slice body off (off + sbLen))) count 0 off =
      .ok ((List.range count).map fun k =>
        slice body (off + k * sbLen) (off + k * sbLen + sbLen)) := by
  rw [subBlocks_of_fits _ _ _ _ fits]
  exact List.mapM_pure

theorem measExtraSubblocks_eq (frame : SbfFrame) :
    measExtraSubblocks frame =
      .ok (if frame.body.length < 12 ∨ u8 frame.body 7 = 0 then ([], 0, [])
        else (frame.body.take 12, u8 frame.body 7, extraBlocks frame.body)) := by
  rw [measExtraSubblocks]
  split
  · rename_i short
    rw [if_pos (.inl short)]
  · rename_i long
    rw [byteAt_eq (by omega), Checked.ok_bind, byteAt_eq (by omega), Checked.ok_bind]
    split
    · rename_i empty
      rw [if_pos (.inr empty)]
      rfl
    · rename_i nonempty
      have counted := nrSubblocks_mul_le (frame.body.length - 12) (u8 frame.body 7)
        (u8 frame.body 6)
      rw [if_neg (by omega), countSubblocks_eq nonempty, Checked.ok_bind,
        subBlocks_slices _ _ _ _ (by omega), extraBlocks, if_neg (by omega)]
      rfl

theorem measExtraSubblocks_of_long {frame : SbfFrame} (long : 12 ≤ frame.body.length)
    (positive : 0 < u8 frame.body 7) :
    measExtraSubblocks frame =
      .ok (frame.body.take 12, u8 frame.body 7, extraBlocks frame.body) := by
  rw [measExtraSubblocks_eq, if_neg (by omega)]

theorem length_of_mem_extraBlocks {body block : List Byte} (member : block ∈ extraBlocks body) :
    block.length = u8 body 7 := by
  unfold extraBlocks at member
  split at member
  · exact absurd member List.not_mem_nil
  · rcases List.mem_map.mp member with ⟨k, inside, rfl⟩
    have counted := nrSubblocks_mul_le (body.length - 12) (u8 body 7) (u8 body 6)
    have before : (k + 1) * u8 body 7 ≤ body.length - 12 :=
      (Nat.mul_le_mul_right _ (List.mem_range.mp inside)).trans counted
    rw [Nat.succ_mul] at before
    rw [length_slice _ (by omega)]
    omega

/-- All the blocks together are not longer than what follows the header. -/
theorem length_extraBlocks_mul_le (body : List Byte) :
    (extraBlocks body).length * u8 body 7 ≤ body.length - 12 := by
  unfold extraBlocks
  split
  · simp
  · rw [List.length_map, List.length_range]
    exact nrSubblocks_mul_le _ _ _

/-! ## Blocks behind a header -/

/-- A body of counted sub-blocks of one length, and what follows them. -/
structure ExtraLayout where
  header : List Byte
  blocks : List (List Byte)
  trailing : List Byte
  headerSize : header.length = 12
  positive : 0 < u8 header 7
  nonempty : blocks ≠ []
  counted : u8 header 6 = blocks.length % 256
  sameSize : ∀ block ∈ blocks, block.length = u8 header 7
  short : trailing.length < 256 * u8 header 7

def ExtraLayout.body (layout : ExtraLayout) : List Byte :=
  layout.header ++ layout.blocks.flatten ++ layout.trailing

namespace ExtraLayout

variable (layout : ExtraLayout)

theorem length_body :
    layout.body.length =
      12 + layout.blocks.length * u8 layout.header 7 + layout.trailing.length := by
  rw [body, List.length_append, List.length_append, layout.headerSize,
    length_flatten_of_forall layout.sameSize]

theorem u8_body {offset : Nat} (inside : offset < 12) :
    u8 layout.body offset = u8 layout.header offset := by
  rw [body, List.append_assoc, u8_append_left _ _ (by rw [layout.headerSize]; exact inside)]

/-- The blocks are found again. -/
theorem extraBlocks_body : extraBlocks layout.body = layout.blocks := by
  have positive := layout.positive
  have length := layout.length_body
  have dropped : layout.body.drop 12 = layout.blocks.flatten ++ layout.trailing := by
    rw [body, List.append_assoc, List.drop_left' layout.headerSize]
  have payload : layout.body.length - 12 =
      layout.blocks.length * u8 layout.header 7 + layout.trailing.length := by omega
  rw [extraBlocks, layout.u8_body (by omega), layout.u8_body (by omega), if_neg (by omega),
    payload, layout.counted,
    nrSubblocks_eq positive (List.length_pos_iff.mpr layout.nonempty) layout.short]
  refine Eq.trans (List.map_congr_left fun k _ => ?_)
    (map_slice_flatten layout.sameSize layout.trailing)
  rw [← dropped, slice_drop, ← Nat.add_assoc]

end ExtraLayout

/-! ## The rebuilt body -/

/-- A body with the header of `body` and these sub-blocks. -/
def extraBody (body : List Byte) (kept : List (List Byte)) : List Byte :=
  body.take 6 ++ [BitVec.ofNat 8 (kept.length % 256), BitVec.ofNat 8 (u8 body 7)] ++
    slice body 8 12 ++ kept.flatten

theorem length_of_mem_keptBlocks {body block : List Byte} {indices : List Nat}
    (member : block ∈ keptBlocks (extraBlocks body) indices) : block.length = u8 body 7 := by
  rcases List.mem_map.mp member with ⟨k, inside, rfl⟩
  have small : k < (extraBlocks body).length := by simpa using (List.mem_filter.mp inside).2
  apply length_of_mem_extraBlocks
  rw [List.getD_eq_getElem _ _ small]
  exact List.getElem_mem small

theorem keptBlocks_nil (indices : List Nat) : keptBlocks [] indices = [] := by
  simp [keptBlocks]

theorem long_of_keptBlocks {body : List Byte} {indices : List Nat}
    (some : keptBlocks (extraBlocks body) indices ≠ []) : 12 ≤ body.length ∧ 0 < u8 body 7 := by
  by_contra short
  have none : extraBlocks body = [] := if_pos (by omega)
  rw [none, keptBlocks_nil] at some
  exact some rfl

theorem buildMeasExtraBody_eq (frame : SbfFrame) (indices : List Nat) :
    buildMeasExtraBody frame indices =
      .ok (if keptBlocks (extraBlocks frame.body) indices = [] then none
        else some (extraBody frame.body (keptBlocks (extraBlocks frame.body) indices))) := by
  rw [buildMeasExtraBody, measExtraSubblocks_eq, Checked.ok_bind]
  by_cases absent : frame.body.length < 12 ∨ u8 frame.body 7 = 0
  · have empty : extraBlocks frame.body = [] := if_pos absent
    rw [if_pos absent, empty, keptBlocks_nil]
    rfl
  · have header : frame.body.take 12 ≠ [] := by
      apply List.ne_nil_of_length_pos
      rw [List.length_take]
      omega
    have flat : (keptBlocks (extraBlocks frame.body) indices).flatten.length =
        (keptBlocks (extraBlocks frame.body) indices).length * u8 frame.body 7 :=
      length_flatten_of_forall fun _ member => length_of_mem_keptBlocks member
    have positive : 0 < u8 frame.body 7 := by omega
    rw [if_neg absent]
    dsimp only
    by_cases nothing : keptBlocks (extraBlocks frame.body) indices = []
    · rw [nothing]
      split
      · rfl
      · rfl
    · have indicesNonempty : indices ≠ [] := by
        rintro rfl
        exact nothing rfl
      have keptNonempty : (keptBlocks (extraBlocks frame.body) indices).flatten ≠ [] := by
        apply List.ne_nil_of_length_pos
        rw [flat]
        exact Nat.mul_pos (List.length_pos_iff.mpr nothing) positive
      rw [if_neg (by simp [header, indicesNonempty]; omega), if_neg keptNonempty,
        if_neg nothing, flat, Nat.mul_div_cancel _ positive, extraBody, slice, List.take_take,
        List.take_take]
      rfl

section

variable {body : List Byte} (long : 12 ≤ body.length) {kept : List (List Byte)}

include long

theorem length_extraBody (same : ∀ block ∈ kept, block.length = u8 body 7) :
    (extraBody body kept).length = 12 + kept.length * u8 body 7 := by
  simp only [extraBody, List.length_append, List.length_take, length_slice _ long,
    length_flatten_of_forall same, List.length_cons, List.length_nil]
  omega

/-- The header is twelve bytes; its count and block length are new. -/
theorem extraBody_header (kept : List (List Byte)) :
    ∃ header, extraBody body kept = header ++ kept.flatten ∧ header.length = 12 ∧
      u8 header 6 = kept.length % 256 ∧ u8 header 7 = u8 body 7 := by
  have front : (body.take 6).length = 6 := by
    rw [List.length_take]
    omega
  have reads := u8_append_right (body.take 6)
    (BitVec.ofNat 8 (kept.length % 256) :: BitVec.ofNat 8 (u8 body 7) :: slice body 8 12)
  rw [front] at reads
  refine ⟨body.take 6 ++ (BitVec.ofNat 8 (kept.length % 256) :: BitVec.ofNat 8 (u8 body 7) ::
    slice body 8 12), ?_, ?_, ?_, ?_⟩
  · simp only [extraBody, List.append_assoc, List.cons_append, List.nil_append]
  · rw [List.length_append, front, List.length_cons, List.length_cons, length_slice _ long]
  · rw [reads 0, u8_cons_zero, BitVec.toNat_ofNat]
    omega
  · rw [reads 1, u8_cons_succ, u8_cons_zero, BitVec.toNat_ofNat]
    exact Nat.mod_eq_of_lt (u8_lt body 7)

/-- Blocks of one length are found again behind a header of twelve bytes. -/
theorem extraBlocks_readBack (some : kept ≠ []) (positive : 0 < u8 body 7)
    (same : ∀ block ∈ kept, block.length = u8 body 7) {rest : List Byte}
    (short : rest.length < 256 * u8 body 7) :
    extraBlocks (extraBody body kept ++ rest) = kept ∧
      u8 (extraBody body kept ++ rest) 7 = u8 body 7 := by
  rcases extraBody_header long kept with ⟨header, shape, headerSize, counted, sbLen⟩
  let layout : ExtraLayout :=
    { header := header
      blocks := kept
      trailing := rest
      headerSize := headerSize
      positive := by rw [sbLen]; exact positive
      nonempty := some
      counted := counted
      sameSize := by rw [sbLen]; exact same
      short := by rw [sbLen]; exact short }
  have written : extraBody body kept ++ rest = layout.body := by rw [shape]; rfl
  rw [written]
  exact ⟨layout.extraBlocks_body, (layout.u8_body (by omega)).trans sbLen⟩

end

end AsterxDriver.Parser
