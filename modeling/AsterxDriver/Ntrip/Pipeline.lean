import AsterxDriver.Foundation.DropOldest
import AsterxDriver.Foundation.Transitions
import AsterxDriver.Ntrip.ConnectCleanup

/-! # From the socket to the chunks

`ReceiveThread` puts blocks into a queue that drops the oldest one when it is
full. `ProcessThread` takes them out and cuts what it gets into chunks. -/

namespace AsterxDriver.Ntrip

open Foundation Attempt

/-! ## The steps of the threads -/

/-- A block that `ReceiveThread` has received. -/
def enqueue (client : Client) (data : List Byte) : Client :=
  let stats := { client.stats with bytesReceived := client.stats.bytesReceived + data.length }
  if client.dataQueue.length ≥ client.config.maxQueueSize then
    { client with
      dataQueue := client.dataQueue.tail ++ [data]
      stats := { stats with messagesDropped := stats.messagesDropped + 1 } }
  else { client with dataQueue := client.dataQueue ++ [data], stats := stats }

/-- The loop of `ChunkRTCMData`: the chunks and the rest. -/
def cutChunks (buffer : List Byte) : List (List Byte) × List Byte :=
  if 1024 ≤ buffer.length then
    let rest := cutChunks (buffer.drop 1024)
    (buffer.take 1024 :: rest.1, rest.2)
  else ([], buffer)
termination_by buffer.length
decreasing_by
  rw [List.length_drop]
  omega

def chunkRtcmData (client : Client) (data : List Byte) : Client × List (List Byte) :=
  if data.length = 0 then (client, [])
  else
    let client :=
      if client.rtcmBuffer.length + data.length > client.config.maxBufferSize then
        { client with rtcmBuffer := [], rtcmSyncLostCount := client.rtcmSyncLostCount + 1 }
      else client
    let cut := cutChunks (client.rtcmBuffer ++ data)
    let stats := { client.stats with
      messagesReceived := client.stats.messagesReceived + cut.1.length }
    ({ client with rtcmBuffer := cut.2, stats := stats }, cut.1)

/-! ## The pipeline -/

/-- The client and what has happened since `StartReceiving`. -/
structure Pipeline where
  client : Client
  /-- The threads are launched and not joined. -/
  running : Bool := false
  history : QueueHistory (List Byte) := {}
  dequeued : List (List Byte) := []
  chunks : List (List Byte) := []

inductive PipelineEvent
  | connect (script : ConnectScript)
  | startReceiving
  | receive (data : List Byte)
  | process
  | disconnect

/-- While the threads run there is no call of `Connect`, which would make another
connection. -/
def pipelineStep (fdGuard : ℕ → Option ℕ) (base64Encode : Text → Text) (pipeline : Pipeline) :
    PipelineEvent → Option Pipeline
  | .connect script =>
      if pipeline.running then none
      else
        ((connect fdGuard base64Encode script).run pipeline.client).map fun result =>
          { pipeline with client := result.2 }
  | .startReceiving =>
      if pipeline.running then none
      else if ¬pipeline.client.connected then some pipeline
      else if pipeline.client.receiving then some pipeline
      else
        let client := startedReceiving pipeline.client
        some { client := client, running := true, history := .ofArrived client.dataQueue }
  | .receive data =>
      if ¬pipeline.running then none
      else
        some { pipeline with
          client := enqueue pipeline.client data
          history := pipeline.history.push pipeline.client.config.maxQueueSize data }
  | .process =>
      if ¬pipeline.running then none
      else
        match pipeline.client.dataQueue with
        | [] => none
        | data :: later =>
            let chunked := chunkRtcmData { pipeline.client with dataQueue := later } data
            some { pipeline with
              client := chunked.1
              history := pipeline.history.pop
              dequeued := pipeline.dequeued ++ [data]
              chunks := pipeline.chunks ++ chunked.2 }
  | .disconnect =>
      some { pipeline with
        client := closed { pipeline.client with disconnected := true, receiving := false }
        running := false }

def ReadOutcome.size : ReadOutcome → ℕ
  | .data _ later => later.length + 1
  | _ => 0

/-- The sizes that the buffers of the reads allow. -/
def PipelineEvent.Fits : PipelineEvent → Prop
  | .connect script => ∀ read ∈ script.reads, read.size ≤ 4095
  | .receive data => 1 ≤ data.length ∧ data.length ≤ 65536
  | _ => True

/-- Nothing is lost but the blocks that the full queue dropped. -/
structure Pipeline.Conserves (pipeline : Pipeline) : Prop where
  queueBound : pipeline.client.dataQueue.length ≤ pipeline.client.config.maxQueueSize
  kept : pipeline.dequeued ++ pipeline.client.dataQueue =
    (pipeline.history.arrived.zipIdx.filter (·.2 ∉ pipeline.history.removed)).map Prod.fst
  dropped : pipeline.client.stats.messagesDropped = pipeline.history.removed.length
  counted : pipeline.dequeued.length + pipeline.client.dataQueue.length +
    pipeline.client.stats.messagesDropped = pipeline.history.arrived.length
  oldest : ∀ removal ∈ pipeline.history.removals,
    removal.queued.head? = some removal.item ∧ ∀ other ∈ removal.queued, removal.item.2 ≤ other.2
  chunked : pipeline.chunks.flatten ++ pipeline.client.rtcmBuffer = pipeline.dequeued.flatten
  chunkSize : ∀ chunk ∈ pipeline.chunks, chunk.length = 1024
  bufferBound : pipeline.client.rtcmBuffer.length < 1024
  neverCleared : pipeline.client.rtcmSyncLostCount = 0

/-! ## Chunks -/

theorem flatten_cutChunks (buffer : List Byte) :
    (cutChunks buffer).1.flatten ++ (cutChunks buffer).2 = buffer := by
  induction buffer using cutChunks.induct with
  | case1 buffer long induction =>
      rw [cutChunks, if_pos long]
      change (buffer.take 1024 ++ _) ++ _ = buffer
      rw [List.append_assoc, induction, List.take_append_drop]
  | case2 buffer short =>
      rw [cutChunks, if_neg short]
      rfl

theorem length_of_mem_cutChunks {buffer chunk : List Byte} (member : chunk ∈ (cutChunks buffer).1) :
    chunk.length = 1024 := by
  induction buffer using cutChunks.induct with
  | case1 buffer long induction =>
      rw [cutChunks, if_pos long] at member
      rcases List.mem_cons.mp member with rfl | later
      · rw [List.length_take]
        omega
      · exact induction later
  | case2 buffer short =>
      rw [cutChunks, if_neg short] at member
      cases member

theorem length_rest_cutChunks (buffer : List Byte) : (cutChunks buffer).2.length < 1024 := by
  induction buffer using cutChunks.induct with
  | case1 buffer long induction =>
      rw [cutChunks, if_pos long]
      exact induction
  | case2 buffer short =>
      rw [cutChunks, if_neg short]
      exact Nat.not_le.mp short

/-- A block that fits is cut together with the rest of the blocks before it. -/
theorem chunkRtcmData_of_le {client : Client} {data : List Byte} (nonempty : data ≠ [])
    (fits : client.rtcmBuffer.length + data.length ≤ client.config.maxBufferSize) :
    chunkRtcmData client data =
      ({ client with
          rtcmBuffer := (cutChunks (client.rtcmBuffer ++ data)).2
          stats := { client.stats with
            messagesReceived := client.stats.messagesReceived +
              (cutChunks (client.rtcmBuffer ++ data)).1.length } },
        (cutChunks (client.rtcmBuffer ++ data)).1) := by
  have some : ¬data.length = 0 := fun none => nonempty (List.length_eq_zero_iff.mp none)
  have fits : ¬client.rtcmBuffer.length + data.length > client.config.maxBufferSize :=
    Nat.not_lt.mpr fits
  rw [chunkRtcmData, if_neg some]
  simp only [if_neg fits]

/-! ## The data that comes with the header -/

theorem length_cString_le (bytes : List Byte) : (cString bytes).length ≤ bytes.length :=
  (List.takeWhile_prefix _).length_le

/-- Only the last read has completed the header. -/
theorem exists_last_of_responseOf {reads : List ReadOutcome} {response text : List Byte}
    (fits : ∀ read ∈ reads, read.size ≤ 4095)
    (incomplete : ¬occurs headerTerminator response = true)
    (found : responseOf reads response = some text) :
    ∃ front last, text = front ++ last ∧ ¬occurs headerTerminator front = true ∧
      occurs headerTerminator text = true ∧ last.length ≤ 4095 := by
  induction reads generalizing response with
  | nil =>
      unfold responseOf at found
      rw [if_neg incomplete] at found
      cases found
  | cons read later induction =>
      have laterFits : ∀ read ∈ later, read.size ≤ 4095 := fun read member =>
        fits read (List.mem_cons_of_mem _ member)
      cases read with
      | zero temporary code =>
          rw [responseOf_of_not_data incomplete id] at found
          cases found
      | negative temporary code =>
          rw [responseOf_of_not_data incomplete id] at found
          cases found
      | data first bytes =>
          rw [responseOf, if_neg incomplete] at found
          by_cases complete :
              occurs headerTerminator (response ++ cString (first :: bytes)) = true
          · rw [responseOf_of_occurs complete] at found
            cases found
            refine ⟨response, cString (first :: bytes), rfl, incomplete, complete, ?_⟩
            exact (length_cString_le _).trans (fits _ (List.mem_cons_self ..))
          · exact induction laterFits complete found

/-- What follows a terminator that the front does not have is part of the rest. -/
theorem lt_headerEnd {front last : List Byte} (incomplete : ¬occurs headerTerminator front = true)
    (complete : occurs headerTerminator (front ++ last) = true) :
    front.length < headerEnd (front ++ last) + 4 := by
  rcases Option.isSome_iff_exists.mp complete with ⟨index, found⟩
  rw [headerEnd, found, Option.getD_some]
  by_contra inside
  have room : index + 4 ≤ front.length := Nat.not_lt.mp inside
  have here := (search_eq_some_iff.mp found).1
  rw [List.drop_append_of_le_length (by omega)] at here
  have inFront : headerTerminator <+: front.drop index := by
    refine List.prefix_of_prefix_length_le here (List.prefix_append ..) ?_
    rw [List.length_drop]
    change 4 ≤ _
    omega
  exact incomplete (occurs_iff.mpr (inFront.isInfix.trans (List.drop_suffix ..).isInfix))

theorem length_le_of_mayBePending {client : Client} {reads : List ReadOutcome}
    {pending : List Byte} (fits : ∀ read ∈ reads, read.size ≤ 4095)
    (short : client.pendingData.length ≤ 4095) (may : MayBePending client reads pending) :
    pending.length ≤ 4095 := by
  rcases may with rfl | ⟨text, found, rfl⟩
  · exact short
  · have incomplete : ¬occurs headerTerminator ([] : List Byte) = true := by decide
    rcases exists_last_of_responseOf fits incomplete found with
      ⟨front, last, rfl, before, complete, lastShort⟩
    have border := lt_headerEnd before complete
    rw [List.length_drop, List.length_append]
    omega

/-! ## Between two connections -/

/-- What holds of a client whose threads do not run. -/
structure Client.Ready (config : Options) (client : Client) : Prop where
  configured : client.config = config
  pending : client.pendingData.length ≤ 4095
  dropped : client.connected = true → client.stats.messagesDropped = 0

/-- A connection begins with no dropped message. -/
theorem Client.Ready.connect {config : Options} {client final : Client}
    {outcome : Except NtripError Bool} {fdGuard : ℕ → Option ℕ} {base64Encode : Text → Text}
    {script : ConnectScript} (fits : ∀ read ∈ script.reads, read.size ≤ 4095)
    (ready : client.Ready config)
    (ends : Ends (connect fdGuard base64Encode script) client outcome final) :
    final.Ready config := by
  cases connected : client.connected with
  | true =>
      unfold Ntrip.connect at ends
      rw [ends_get_bind_iff] at ends
      simp only [connected, if_true] at ends
      rw [(ends_pure_iff.mp ends).2]
      exact ready
  | false =>
      rcases concludes_connect connected ends with ⟨_, untouched⟩ |
        ⟨_, middle, untouched, rfl⟩ | ⟨_, middle, untouched, rfl⟩
      · have short := length_le_of_mayBePending fits ready.pending untouched.pending
        refine ⟨untouched.config.trans ready.configured, short, ?_⟩
        intro nowConnected
        rw [untouched.connected connected] at nowConnected
        cases nowConnected
      · have short := length_le_of_mayBePending fits ready.pending untouched.pending
        exact ⟨untouched.config.trans ready.configured, short, nofun⟩
      · have short := length_le_of_mayBePending fits ready.pending untouched.pending
        exact ⟨untouched.config.trans ready.configured, short, fun _ => rfl⟩

/-! ## While the threads run -/

/-- The queue is the one of the history, and the chunks are cut from what it gave. -/
structure Pipeline.Flows (config : Options) (pipeline : Pipeline) : Prop where
  configured : pipeline.client.config = config
  pending : pipeline.client.pendingData.length ≤ 4095
  sound : pipeline.history.Sound config.maxQueueSize
  queue : pipeline.client.dataQueue = pipeline.history.queued.map Prod.fst
  blocks : ∀ data ∈ pipeline.client.dataQueue, 1 ≤ data.length ∧ data.length ≤ 65536
  dropped : pipeline.client.stats.messagesDropped = pipeline.history.removals.length
  taken : pipeline.dequeued = pipeline.history.taken.map Prod.fst
  chunked : pipeline.chunks.flatten ++ pipeline.client.rtcmBuffer = pipeline.dequeued.flatten
  chunkSize : ∀ chunk ∈ pipeline.chunks, chunk.length = 1024
  bufferBound : pipeline.client.rtcmBuffer.length < 1024
  neverCleared : pipeline.client.rtcmSyncLostCount = 0

section

variable {config : Options} {pipeline : Pipeline}

theorem Pipeline.Flows.conserves (flows : pipeline.Flows config) : pipeline.Conserves where
  queueBound := by
    rw [flows.queue, List.length_map, flows.configured]
    exact flows.sound.bounded
  kept := by
    rw [flows.taken, flows.queue, ← List.map_append, flows.sound.kept]
  dropped := by rw [flows.dropped, QueueHistory.removed, List.length_map]
  counted := by
    rw [flows.taken, flows.queue, flows.dropped, List.length_map, List.length_map]
    exact flows.sound.counted
  oldest := flows.sound.oldest
  chunked := flows.chunked
  chunkSize := flows.chunkSize
  bufferBound := flows.bufferBound
  neverCleared := flows.neverCleared

theorem flows_startReceiving (room : 1 ≤ config.maxQueueSize)
    (ready : pipeline.client.Ready config) (connected : pipeline.client.connected = true) :
    Pipeline.Flows config
      { client := startedReceiving pipeline.client
        running := true
        history := .ofArrived (startedReceiving pipeline.client).dataQueue } := by
  have fits : (startedReceiving pipeline.client).dataQueue.length ≤ config.maxQueueSize := by
    refine le_trans ?_ room
    unfold startedReceiving
    split_ifs
    · exact le_rfl
    · exact Nat.zero_le _
  refine ⟨ready.configured, Nat.zero_le _, QueueHistory.sound_ofArrived fits, ?_, ?_,
    ready.dropped connected, rfl, rfl, nofun, Nat.succ_pos _, rfl⟩
  · exact (List.zipIdx_map_fst ..).symm
  · intro data member
    unfold startedReceiving at member
    simp only at member
    split_ifs at member with nonempty
    · rw [List.mem_singleton.mp member]
      exact ⟨List.length_pos_iff.mpr nonempty, ready.pending.trans (by decide)⟩
    · cases member

theorem flows_receive (room : 1 ≤ config.maxQueueSize) (flows : pipeline.Flows config)
    {data : List Byte} (fits : 1 ≤ data.length ∧ data.length ≤ 65536) :
    Pipeline.Flows config
      { pipeline with
        client := enqueue pipeline.client data
        history := pipeline.history.push pipeline.client.config.maxQueueSize data } := by
  have length : pipeline.history.queued.length = pipeline.client.dataQueue.length := by
    rw [flows.queue, List.length_map]
  have sound := flows.sound.push room data
  by_cases full : pipeline.client.dataQueue.length ≥ pipeline.client.config.maxQueueSize
  · have historyFull : pipeline.client.config.maxQueueSize ≤ pipeline.history.queued.length :=
      length ▸ full
    rw [enqueue, if_pos full]
    refine ⟨flows.configured, flows.pending, ?_, ?_, ?_, ?_, flows.taken, flows.chunked,
      flows.chunkSize, flows.bufferBound, flows.neverCleared⟩
    · rw [flows.configured]
      exact sound
    · simp only [QueueHistory.push, if_pos historyFull, flows.queue, List.map_append,
        List.map_tail, List.map_cons, List.map_nil]
    · intro other member
      rcases List.mem_append.mp member with before | new
      · exact flows.blocks other (List.mem_of_mem_tail before)
      · rw [List.mem_singleton.mp new]
        exact fits
    · have nonempty : pipeline.history.queued ≠ [] := by
        intro empty
        rw [empty, flows.configured] at historyFull
        exact absurd room (Nat.not_le.mpr (Nat.lt_succ_of_le historyFull))
      rcases List.exists_cons_of_ne_nil nonempty with ⟨oldest, later, cons⟩
      simp only [QueueHistory.push, if_pos historyFull, flows.dropped, List.length_append]
      rw [cons]
      rfl
  · have historyRoom : ¬pipeline.client.config.maxQueueSize ≤ pipeline.history.queued.length :=
      length ▸ full
    rw [enqueue, if_neg full]
    refine ⟨flows.configured, flows.pending, ?_, ?_, ?_, ?_, flows.taken, flows.chunked,
      flows.chunkSize, flows.bufferBound, flows.neverCleared⟩
    · rw [flows.configured]
      exact sound
    · simp only [QueueHistory.push, if_neg historyRoom, flows.queue, List.map_append,
        List.map_cons, List.map_nil]
    · intro other member
      rcases List.mem_append.mp member with before | new
      · exact flows.blocks other before
      · rw [List.mem_singleton.mp new]
        exact fits
    · simp only [QueueHistory.push, if_neg historyRoom, flows.dropped]

theorem flows_process (large : config.maxBufferSize = 8 * 1024 * 1024)
    (flows : pipeline.Flows config) {data : List Byte} {later : List (List Byte)}
    (queue : pipeline.client.dataQueue = data :: later) {client : Client}
    (popped : client = { pipeline.client with dataQueue := later }) :
    Pipeline.Flows config
      { pipeline with
        client := (chunkRtcmData client data).1
        history := pipeline.history.pop
        dequeued := pipeline.dequeued ++ [data]
        chunks := pipeline.chunks ++ (chunkRtcmData client data).2 } := by
  have size := flows.blocks data (by rw [queue]; exact List.mem_cons_self ..)
  have nonempty : data ≠ [] := List.length_pos_iff.mp size.1
  have fits : client.rtcmBuffer.length + data.length ≤ client.config.maxBufferSize := by
    have bound := flows.bufferBound
    simp only [popped, flows.configured, large]
    omega
  have cut := flatten_cutChunks (pipeline.client.rtcmBuffer ++ data)
  rw [chunkRtcmData_of_le nonempty fits]
  subst popped
  have queued := flows.queue
  rw [queue] at queued
  rcases List.map_eq_cons_iff.mp queued.symm with ⟨oldest, rest, cons, rfl, rfl⟩
  refine ⟨flows.configured, flows.pending, flows.sound.pop, ?_, ?_, flows.dropped, ?_, ?_, ?_,
    length_rest_cutChunks _, flows.neverCleared⟩
  · simp only [QueueHistory.pop, cons, List.tail_cons]
  · intro other member
    exact flows.blocks other (by rw [queue]; exact List.mem_cons_of_mem _ member)
  · simp only [QueueHistory.pop, cons, flows.taken, List.head?_cons, Option.toList_some,
      List.map_append, List.map_cons, List.map_nil]
  · calc (pipeline.chunks ++ _).flatten ++ _
        = pipeline.chunks.flatten ++ (pipeline.client.rtcmBuffer ++ oldest.1) := by
          rw [List.flatten_append, List.append_assoc, cut]
      _ = pipeline.dequeued.flatten ++ oldest.1 := by
          rw [← List.append_assoc, flows.chunked]
      _ = (pipeline.dequeued ++ [oldest.1]).flatten := by
          rw [List.flatten_append, List.flatten_singleton]
  · intro chunk member
    rcases List.mem_append.mp member with before | new
    · exact flows.chunkSize chunk before
    · exact length_of_mem_cutChunks new

end

/-! ## Every interleaving -/

/-- The invariant of the pipeline. -/
def Pipeline.Invariant (config : Options) (pipeline : Pipeline) : Prop :=
  pipeline.running = true ∧ pipeline.Flows config ∨
    pipeline.running = false ∧ pipeline.client.Ready config

theorem invariant_pipelineStep {fdGuard : ℕ → Option ℕ} {base64Encode : Text → Text}
    {config : Options} (room : 1 ≤ config.maxQueueSize)
    (large : config.maxBufferSize = 8 * 1024 * 1024) {pipeline final : Pipeline}
    {event : PipelineEvent} (invariant : pipeline.Invariant config) (fits : event.Fits)
    (steps : pipelineStep fdGuard base64Encode pipeline event = some final) :
    final.Invariant config := by
  cases event with
  | connect script =>
      simp only [pipelineStep] at steps
      split_ifs at steps with running
      rcases Option.map_eq_some_iff.mp steps with ⟨⟨outcome, client⟩, ends, rfl⟩
      rcases invariant with ⟨isRunning, _⟩ | ⟨stopped, ready⟩
      · exact absurd isRunning running
      · exact .inr ⟨stopped, ready.connect fits ends⟩
  | startReceiving =>
      simp only [pipelineStep] at steps
      split_ifs at steps with running connected receiving
      · cases steps
        exact invariant
      · cases steps
        rcases invariant with ⟨isRunning, _⟩ | ⟨stopped, ready⟩
        · exact absurd isRunning running
        · exact .inl ⟨rfl, flows_startReceiving room ready connected⟩
      · cases steps
        exact invariant
  | receive data =>
      simp only [pipelineStep] at steps
      split_ifs at steps with running
      cases steps
      rcases invariant with ⟨_, flows⟩ | ⟨stopped, _⟩
      · exact .inl ⟨running, flows_receive room flows fits⟩
      · exact absurd running (Bool.eq_false_iff.mp stopped)
  | process =>
      simp only [pipelineStep] at steps
      split_ifs at steps with running
      rcases invariant with ⟨_, flows⟩ | ⟨stopped, _⟩
      · split at steps
        · cases steps
        · rename_i data later queue
          cases steps
          exact .inl ⟨running, flows_process large flows queue rfl⟩
      · exact absurd running (Bool.eq_false_iff.mp stopped)
  | disconnect =>
      cases steps
      refine .inr ⟨rfl, ?_⟩
      rcases invariant with ⟨_, flows⟩ | ⟨_, ready⟩
      · exact ⟨flows.configured, flows.pending, nofun⟩
      · exact ⟨ready.configured, ready.pending, nofun⟩

/-- In every interleaving, only what the full queue dropped is missing. -/
theorem conserves_of_running (fdGuard : ℕ → Option ℕ) (base64Encode : Text → Text)
    (config : Options) (room : 1 ≤ config.maxQueueSize)
    (large : config.maxBufferSize = 8 * 1024 * 1024) (pipeline : Pipeline)
    (reached : Reached (pipelineStep fdGuard base64Encode) (fun _ event => event.Fits)
      { client := { config := config } } pipeline)
    (running : pipeline.running = true) : pipeline.Conserves := by
  have initially : Pipeline.Invariant config { client := { config := config } } :=
    .inr ⟨rfl, rfl, Nat.zero_le _, nofun⟩
  rcases reached.invariant initially (invariant_pipelineStep room large) with
    ⟨_, flows⟩ | ⟨stopped, _⟩
  · exact flows.conserves
  · exact absurd running (Bool.eq_false_iff.mp stopped)

/-- The caster accepts the request and sends the first corrections with the header. -/
def accepted : ConnectScript where
  resolution := .ok [⟨some 7, true, .done⟩]
  ssl := ⟨true, true, true, true, true, [], true, true, true, true, true, [], [], []⟩
  sends := [⟨167, false, []⟩]
  select := 1
  reads := (oneRead [0xD3, 0x01, 0x13]).outcomes

/-- Two blocks arrive at a queue with room for one, which still holds the data
that came with the header. -/
def crowdedEvents : List PipelineEvent :=
  [.connect accepted, .startReceiving, .receive [0xD3, 0x00], .receive [0x04, 0x3E], .process]

theorem crowdedEvents_conserves : ∃ pipeline,
    Reached (pipelineStep (fun _ => none) encodedCredentials) (fun _ event => event.Fits)
      { client := { config := { casterOptions with maxQueueSize := 1 } } } pipeline ∧
    pipeline.running = true ∧ pipeline.client.stats.messagesDropped = 2 ∧
    pipeline.Conserves := by
  have runs : (runEvents (pipelineStep (fun _ => none) encodedCredentials)
      { client := { config := { casterOptions with maxQueueSize := 1 } } } crowdedEvents).map
        (fun pipeline => (pipeline.running, pipeline.client.stats.messagesDropped)) =
      some (true, 2) := by
    decide +kernel
  have fits : ∀ event ∈ crowdedEvents, ∀ _ : Pipeline, event.Fits := by
    intro event member _
    simp only [crowdedEvents, List.mem_cons, List.not_mem_nil, or_false] at member
    rcases member with rfl | rfl | rfl | rfl | rfl
    · have sizes : (accepted.reads.all (·.size ≤ 4095)) = true := by decide +kernel
      intro read member
      simpa using List.all_eq_true.mp sizes read member
    · trivial
    · exact ⟨by decide, by decide⟩
    · exact ⟨by decide, by decide⟩
    · trivial
  rcases Option.map_eq_some_iff.mp runs with ⟨pipeline, runs, same⟩
  simp only [Prod.mk.injEq] at same
  have reached := Reached.start.of_runEvents fits runs
  exact ⟨pipeline, reached, same.1, same.2, conserves_of_running (fun _ => none)
    encodedCredentials { casterOptions with maxQueueSize := 1 } (by decide) rfl pipeline reached
    same.1⟩

end AsterxDriver.Ntrip
