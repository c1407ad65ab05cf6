import AsterxDriver.Ntrip.Client

/-! # The header and the first corrections

`ReceiveResponse` on a header without zero bytes, however the response is cut
into reads. -/

namespace AsterxDriver.Ntrip

open Foundation Attempt

/-- Reads that return at least one byte. -/
abbrev Chunks := List (Byte × List Byte)

def Chunks.outcomes (chunks : Chunks) : List ReadOutcome :=
  chunks.map fun chunk => .data chunk.1 chunk.2

def Chunks.bytes (chunks : Chunks) : List Byte := chunks.flatMap fun chunk => chunk.1 :: chunk.2

/-- A header that ends in its first terminator and accepts the request. -/
structure OkHeader (header : List Byte) : Prop where
  noZero : 0 ∉ header
  terminated : search headerTerminator header = some (header.length - 4)
  ok : occurs (bytesOf "200 OK") header = true

section

variable {header : List Byte} (okHeader : OkHeader header)

include okHeader

theorem OkHeader.four_le : 4 ≤ header.length := by
  have room := le_of_search_eq_some okHeader.terminated (by decide)
  change header.length - 4 + 4 ≤ header.length at room
  omega

/-- Nothing is found before the header is complete. -/
theorem OkHeader.incomplete {part : List Byte} (inside : part <+: header)
    (short : part.length < header.length) : occurs headerTerminator part = false := by
  have long := okHeader.four_le
  have none := search_eq_none_of_prefix okHeader.terminated inside
    (by change part.length < header.length - 4 + 4; omega)
  rw [occurs, none]
  rfl

theorem OkHeader.complete (rest : List Byte) :
    search headerTerminator (header ++ rest) = some (header.length - 4) :=
  search_append okHeader.terminated (by decide) rest

end

theorem cString_append {front back : List Byte} (noZero : 0 ∉ front) :
    cString (front ++ back) = front ++ cString back := by
  rw [cString, List.takeWhile_append_of_pos]
  · rfl
  · intro byte member
    simp only [decide_eq_true_eq]
    rintro rfl
    exact noZero member

theorem ends_receiveData {first : Byte} {later : List Byte} {client : Client} :
    Ends (receiveData (.data first later)) client (.ok (.data first later)) client :=
  rfl

theorem ends_receiveHeader_cons {first : Byte} {later response : List Byte}
    {reads : List ReadOutcome} {client final : Client}
    {outcome : Except NtripError (Option (List Byte))}
    (incomplete : occurs headerTerminator response = false)
    (rest : Ends (receiveHeader reads (response ++ cString (first :: later))) client outcome
      final) :
    Ends (receiveHeader (.data first later :: reads) response) client outcome final := by
  rw [receiveHeader, incomplete]
  exact ends_bind_iff.mpr (.inr ⟨.data first later, client, ends_receiveData, rest⟩)

theorem ends_receiveHeader_of_occurs {response : List Byte} {reads : List ReadOutcome}
    {client : Client} (complete : occurs headerTerminator response = true) :
    Ends (receiveHeader reads response) client (.ok (some response)) client := by
  cases reads <;> rw [receiveHeader, complete] <;> rfl

/-- The chunks before the one that completes the header are appended whole. -/
theorem ends_receiveHeader {header : List Byte} (okHeader : OkHeader header) (client : Client)
    {front : Chunks} {last : Byte × List Byte} (rest : Chunks) (response : List Byte)
    {tail : List Byte} (short : (response ++ front.bytes).length < header.length)
    (split : response ++ front.bytes ++ (last.1 :: last.2) = header ++ tail) :
    Ends (receiveHeader (Chunks.outcomes (front ++ last :: rest)) response) client
      (.ok (some (header ++ cString tail))) client := by
  have inside : response ++ front.bytes <+: header :=
    List.prefix_of_prefix_length_le ⟨_, split⟩ (List.prefix_append ..) (by omega)
  induction front generalizing response with
  | nil =>
      rw [Chunks.bytes, List.flatMap_nil, List.append_nil] at short split inside
      rcases inside with ⟨missing, rfl⟩
      rw [List.append_assoc, List.append_cancel_left_eq] at split
      have noZero : 0 ∉ missing := fun member => okHeader.noZero (List.mem_append_right _ member)
      apply ends_receiveHeader_cons (okHeader.incomplete (List.prefix_append ..) short)
      rw [split, cString_append noZero, ← List.append_assoc]
      apply ends_receiveHeader_of_occurs
      rw [occurs, okHeader.complete]
      rfl
  | cons chunk later induction =>
      have bytes : Chunks.bytes (chunk :: later) = chunk.1 :: chunk.2 ++ Chunks.bytes later := rfl
      rw [bytes, ← List.append_assoc] at short split inside
      have begun : response <+: header :=
        (List.prefix_append_of_prefix (List.prefix_append ..)).trans inside
      have shorter : response.length < header.length := by
        simp only [List.length_append, List.length_cons] at short
        omega
      have noZero : 0 ∉ chunk.1 :: chunk.2 := by
        intro member
        apply okHeader.noZero
        apply inside.subset
        simp only [List.mem_append]
        exact .inl (.inr member)
      have whole : cString (chunk.1 :: chunk.2) = chunk.1 :: chunk.2 := by
        have appended : cString ((chunk.1 :: chunk.2) ++ []) = chunk.1 :: chunk.2 ++ [] :=
          cString_append noZero
        rwa [List.append_nil] at appended
      apply ends_receiveHeader_cons (okHeader.incomplete begun shorter)
      rw [whole]
      exact induction _ short split inside

/-- The read in which the header is completed. -/
theorem exists_completing_chunk {header body : List Byte} {chunks : Chunks}
    (nonempty : header ≠ []) (whole : chunks.bytes = header ++ body) :
    ∃ front last rest tail, chunks = front ++ last :: rest ∧
      (Chunks.bytes front).length < header.length ∧
      Chunks.bytes front ++ (last.1 :: last.2) = header ++ tail := by
  induction chunks generalizing header with
  | nil =>
      have empty := congrArg List.length whole
      simp only [Chunks.bytes, List.flatMap_nil, List.length_nil, List.length_append] at empty
      have positive := List.length_pos_iff.mpr nonempty
      omega
  | cons chunk later induction =>
      have bytes : Chunks.bytes (chunk :: later) = chunk.1 :: chunk.2 ++ Chunks.bytes later := rfl
      rw [bytes] at whole
      rcases List.append_eq_append_iff.mp whole with ⟨missing, rfl, remaining⟩ | ⟨tail, now, _⟩
      · by_cases complete : missing = []
        · refine ⟨[], chunk, later, [], rfl, ?_, ?_⟩
          · simp [Chunks.bytes]
          · simp [Chunks.bytes, complete]
        · rcases induction complete remaining with ⟨front, last, rest, tail, rfl, short, split⟩
          refine ⟨chunk :: front, last, rest, tail, rfl, ?_, ?_⟩
          · simp only [Chunks.bytes, List.flatMap_cons, List.length_append] at short ⊢
            omega
          · change (chunk.1 :: chunk.2) ++ Chunks.bytes front ++ _ = _
            rw [List.append_assoc, split, List.append_assoc]
      · refine ⟨[], chunk, later, tail, rfl, ?_, now⟩
        exact List.length_pos_iff.mpr nonempty

/-- The header is complete: the bytes behind it up to the first zero are kept,
if there are any. -/
theorem ends_receiveResponse {header : List Byte} (okHeader : OkHeader header) (client : Client)
    {select : ℤ} (ready : 0 < select) {front : Chunks} {last : Byte × List Byte} (rest : Chunks)
    {tail : List Byte} (short : front.bytes.length < header.length)
    (split : front.bytes ++ (last.1 :: last.2) = header ++ tail) :
    Ends (receiveResponse select (Chunks.outcomes (front ++ last :: rest))) client (.ok true)
      { client with
        pendingData := if cString tail = [] then client.pendingData else cString tail } := by
  have received := ends_receiveHeader okHeader client rest [] short split
  rw [receiveResponse, if_neg (not_le.mpr ready)]
  refine ends_bind_iff.mpr (.inr ⟨_, client, received, ?_⟩)
  have long := okHeader.four_le
  have bodyStart : headerEnd (header ++ cString tail) + 4 = header.length := by
    rw [headerEnd, okHeader.complete, Option.getD_some]
    omega
  have status : ∀ client, Ends (checkStatus header) client (.ok true) client := by
    intro client
    rw [checkStatus, if_pos (by rw [isOk, okHeader.ok, Bool.true_or])]
    rfl
  simp only [bodyStart, List.take_left, List.drop_left]
  by_cases empty : cString tail = []
  · have unchanged : ¬(header ++ cString tail).length > header.length := by simp [empty]
    rw [if_neg unchanged, if_pos empty]
    exact status client
  · have longer : (header ++ cString tail).length > header.length := by
      rw [List.length_append]
      have positive := List.length_pos_iff.mpr empty
      omega
    rw [if_pos longer, if_neg empty]
    exact status _

theorem cString_eq_self_iff {bytes : List Byte} : cString bytes = bytes ↔ 0 ∉ bytes := by
  rw [cString, List.takeWhile_eq_self_iff]
  simp only [decide_eq_true_eq]
  constructor
  · intro nonzero member
    exact nonzero 0 member rfl
  · rintro noZero byte member rfl
    exact noZero member

/-- What arrives behind the header in the read that completes it is kept, if and
only if it has no zero byte; where it is empty or starts with a zero byte, only
if it is what was pending before. -/
theorem pendingData_eq_tail_iff {header body : List Byte} (okHeader : OkHeader header)
    (client : Client) {select : ℤ} (ready : 0 < select) (chunks : Chunks)
    (whole : chunks.bytes = header ++ body) :
    ∃ front last rest tail final, chunks = front ++ last :: rest ∧
      (Chunks.bytes front).length < header.length ∧
      Chunks.bytes front ++ (last.1 :: last.2) = header ++ tail ∧
      Ends (receiveResponse select chunks.outcomes) client (.ok true) final ∧
      (final.pendingData = tail ↔
        tail ≠ [] ∧ 0 ∉ tail ∨ (tail = [] ∨ tail.head? = some 0) ∧ client.pendingData = tail) := by
  have nonempty : header ≠ [] := by
    rintro rfl
    exact absurd okHeader.four_le (by decide)
  rcases exists_completing_chunk nonempty whole with ⟨front, last, rest, tail, rfl, short, split⟩
  refine ⟨front, last, rest, tail, _, rfl, short, split,
    ends_receiveResponse okHeader client ready rest short split, ?_⟩
  have empty : cString tail = [] ↔ tail = [] ∨ tail.head? = some 0 := by
    cases tail with
    | nil => simp [cString]
    | cons first later =>
        simp [cString]
  simp only
  by_cases nothing : cString tail = []
  · rw [if_pos nothing]
    constructor
    · intro same
      exact .inr ⟨empty.mp nothing, same⟩
    · rintro (⟨some, noZero⟩ | ⟨_, same⟩)
      · rw [cString_eq_self_iff.mpr noZero] at nothing
        exact absurd nothing some
      · exact same
  · rw [if_neg nothing, cString_eq_self_iff]
    constructor
    · intro noZero
      refine .inl ⟨?_, noZero⟩
      rintro rfl
      exact nothing rfl
    · rintro (⟨_, noZero⟩ | ⟨zero, _⟩)
      · exact noZero
      · exact absurd (empty.mpr zero) nothing

def icyHeader : List Byte := bytesOf "ICY 200 OK\r\n\r\n"

theorem icyHeader_ok : OkHeader icyHeader := by
  constructor <;> decide +kernel

def casterOptions : Options where
  enableRtk := false
  host := "caster".toList
  port := 2101
  mountPoint := "MOUNT".toList
  username := "user".toList
  password := "secret".toList

/-- The header and some corrections in one read. -/
def oneRead (corrections : List Byte) : Chunks := [(73, icyHeader.drop 1 ++ corrections)]

theorem oneRead_pendingData_iff : ∃ front last rest tail final,
    oneRead [0xD3, 0x01, 0x13] = front ++ last :: rest ∧
    (Chunks.bytes front).length < icyHeader.length ∧
    Chunks.bytes front ++ (last.1 :: last.2) = icyHeader ++ tail ∧
    Ends (receiveResponse 1 (oneRead [0xD3, 0x01, 0x13]).outcomes) { config := casterOptions }
      (.ok true) final ∧
    (final.pendingData = tail ↔
      tail ≠ [] ∧ 0 ∉ tail ∨ (tail = [] ∨ tail.head? = some 0) ∧ [] = tail) :=
  have whole : (oneRead [0xD3, 0x01, 0x13]).bytes = icyHeader ++ [0xD3, 0x01, 0x13] := by
    decide +kernel
  pendingData_eq_tail_iff icyHeader_ok { config := casterOptions } (by decide) _ whole

/-- The second byte of an RTCM 3 message is often zero. -/
theorem oneRead_cut_at_zero : ∃ final,
    Ends (receiveResponse 1 (oneRead [0xD3, 0x00, 0x13]).outcomes) { config := casterOptions }
      (.ok true) final ∧
    final.pendingData = [0xD3] ∧ final.pendingData ≠ [0xD3, 0x00, 0x13] := by
  have short : (Chunks.bytes []).length < icyHeader.length := by decide +kernel
  have split : Chunks.bytes [] ++ (73 :: (icyHeader.drop 1 ++ [0xD3, 0x00, 0x13])) =
      icyHeader ++ [0xD3, 0x00, 0x13] := by
    decide +kernel
  have kept : cString [0xD3, 0x00, 0x13] = [0xD3] := by decide +kernel
  refine ⟨_, ends_receiveResponse icyHeader_ok _ Int.one_pos [] short split, ?_⟩
  simp only [kept]
  decide

end AsterxDriver.Ntrip
