import AsterxDriver.Ntrip.ProcessThread

/-! # From the socket to the callbacks

What `ProcessThread` has given to the callbacks, in whatever order the threads take
their steps. -/

namespace AsterxDriver.Ntrip

open Foundation

/-- The chunks that the loop has still to deliver. -/
def ProcessControl.chunks : ProcessControl → List (List Byte)
  | .delivering chunks => chunks
  | _ => []

/-- Where the thread can be after it has left the loop over the chunks. -/
def ProcessControl.Leaving : ProcessControl → Bool
  | .testReceiving | .exited | .absent => true
  | _ => false

/-- Chunks that were cut and not delivered are in the loop, or the thread has left the
loop because the client does not receive any more. -/
def Signals.Undelivered (signals : Signals) (lost : List (List Byte)) : Prop :=
  lost = signals.processor.chunks ∨
    signals.threads.client.receiving = false ∧ signals.processor.Leaving = true

/-- Where the blocks have gone: some were dropped, some are in the queue, and the others
were taken from it. -/
structure Accounted (signals : Signals) (taken lost : List (List Byte)) : Prop where
  kept : (taken ++ signals.threads.client.dataQueue).Sublist signals.arrived
  counted : taken.length + signals.threads.client.dataQueue.length + signals.dropped =
    signals.arrived.length
  cut : taken.flatten =
    signals.delivered.flatten ++ lost.flatten ++ signals.threads.client.rtcmBuffer
  undelivered : signals.Undelivered lost

/-- The sizes of what is on its way, and where it has gone. -/
structure Conserved (config : InsConfig) (signals : Signals) : Prop where
  configured : signals.threads.client.config = loadConfig config
  pending : signals.threads.client.pendingData.length ≤ 65536
  blocks : ∀ block ∈ signals.threads.client.dataQueue, block ≠ [] ∧ block.length ≤ 65536
  rest : signals.threads.client.rtcmBuffer.length < 1024
  chunks : ∀ chunk ∈ signals.delivered ++ signals.processor.chunks, chunk.length = 1024
  accounted : ∃ taken lost, Accounted signals taken lost

/-- The sizes that the buffers of the reads allow. -/
def SignalEvent.Fits : SignalEvent → Prop
  | .pends data => data.length ≤ 4095
  | .receives data => data.length ≤ 65536
  | _ => True

section

variable {config : InsConfig} {signals final : Signals}

/-- A step that keeps the data. -/
theorem Conserved.of_data (conserved : Conserved config signals)
    (data : final.threads.client.data = signals.threads.client.data)
    (history : final.arrived = signals.arrived ∧ final.dropped = signals.dropped ∧
      final.delivered = signals.delivered)
    (chunks : ∀ chunk ∈ final.processor.chunks, chunk ∈ signals.processor.chunks)
    (undelivered : ∀ lost, signals.Undelivered lost → final.Undelivered lost) :
    Conserved config final := by
  simp only [Client.data, Prod.mk.injEq] at data
  rcases data with ⟨configured, queue, pending, buffer⟩
  rcases history with ⟨arrived, dropped, delivered⟩
  rcases conserved.accounted with ⟨taken, lost, accounted⟩
  refine ⟨configured.trans conserved.configured, ?_, ?_, ?_, ?_, taken, lost, ?_, ?_, ?_,
    undelivered lost accounted.undelivered⟩
  · rw [pending]
    exact conserved.pending
  · rw [queue]
    exact conserved.blocks
  · rw [buffer]
    exact conserved.rest
  · intro chunk member
    rw [delivered] at member
    refine conserved.chunks chunk ?_
    rcases List.mem_append.mp member with earlier | held
    · exact List.mem_append_left _ earlier
    · exact List.mem_append_right _ (chunks chunk held)
  · rw [queue, arrived]
    exact accounted.kept
  · rw [queue, dropped, arrived]
    exact accounted.counted
  · rw [delivered, buffer]
    exact accounted.cut

theorem conserved_threadSteps {event : Event} (conserved : Conserved config signals)
    (watched : Watched signals) (steps : ThreadSteps signals event final) :
    Conserved config final := by
  cases steps with
  | quiet next quiet keeps =>
      refine conserved.of_data quiet.data ⟨rfl, rfl, rfl⟩ (fun _ => id) ?_
      rintro lost (here | ⟨stopped, leaving⟩)
      · exact .inl here
      · exact .inr ⟨quiet.receiving.trans stopped, leaving⟩
  | launches idle =>
      have queue : ∀ block ∈ (startedReceiving signals.threads.client).dataQueue,
          block ≠ [] ∧ block.length ≤ 65536 := by
        intro block member
        simp only [startedReceiving] at member
        split at member
        · rename_i nonempty
          rw [List.mem_singleton] at member
          rw [member]
          exact ⟨nonempty, conserved.pending⟩
        · cases member
      refine ⟨conserved.configured, Nat.zero_le _, queue, ?_, by simp [ProcessControl.chunks],
        [], [], List.Sublist.refl _, ?_, rfl, .inl rfl⟩
      · exact Nat.zero_lt_succ _
      · simp
  | stops receiving | givesUp givingUp ignored announced | handles handled announced =>
      refine conserved.of_data rfl ⟨rfl, rfl, rfl⟩ (fun _ => id) ?_
      rintro lost (here | ⟨stopped, leaving⟩)
      · exact .inl here
      · exact .inr ⟨rfl, leaving⟩
  | joins ended announced =>
      have ended := watched.not_running ended
      refine conserved.of_data rfl ⟨rfl, rfl, rfl⟩ (List.nil_subset _) ?_
      rintro lost (here | ⟨stopped, leaving⟩)
      · refine .inl (here.trans ?_)
        cases control : signals.processor with
        | delivering chunks =>
            rw [control] at ended
            cases ended
        | _ => rfl
      · exact .inr ⟨stopped, rfl⟩

theorem conserved_pendsStep {data : List Byte} (conserved : Conserved config signals)
    (fits : data.length ≤ 4095) (steps : pendsStep signals data = some final) :
    Conserved config final := by
  have pended : Conserved config { signals with
      threads := { signals.threads with
        client := { signals.threads.client with pendingData := data } } } := by
    rcases conserved.accounted with ⟨taken, lost, accounted⟩
    have short : data.length ≤ 65536 := by omega
    exact ⟨conserved.configured, short, conserved.blocks, conserved.rest, conserved.chunks, taken,
      lost, accounted.kept, accounted.counted, accounted.cut, accounted.undelivered⟩
  unfold pendsStep at steps
  split at steps
  · cases steps
    exact pended
  · cases steps
    exact pended
  · cases steps

/-- The queue of a block more. -/
theorem enqueue_cases (client : Client) (data : List Byte) :
    (enqueue client data).config = client.config ∧
      (enqueue client data).pendingData = client.pendingData ∧
      (enqueue client data).rtcmBuffer = client.rtcmBuffer ∧
      (enqueue client data).receiving = client.receiving ∧
      (enqueue client data).dataQueue =
        (if client.dataQueue.length ≥ client.config.maxQueueSize then client.dataQueue.tail
          else client.dataQueue) ++ [data] := by
  unfold enqueue
  dsimp only
  split
  · exact ⟨rfl, rfl, rfl, rfl, rfl⟩
  · exact ⟨rfl, rfl, rfl, rfl, rfl⟩

theorem conserved_receivesStep {data : List Byte} (conserved : Conserved config signals)
    (fits : data.length ≤ 65536) (steps : receivesStep signals data = some final) :
    Conserved config final := by
  rcases receivesStep_cases steps with ⟨_, _, nonempty, _, rfl⟩
  rcases enqueue_cases signals.threads.client data with
    ⟨configured, pending, buffer, receiving, queue⟩
  rcases conserved.accounted with ⟨taken, lost, accounted⟩
  have among : ∀ block ∈ (if signals.threads.client.dataQueue.length ≥
      signals.threads.client.config.maxQueueSize then signals.threads.client.dataQueue.tail
      else signals.threads.client.dataQueue), block ∈ signals.threads.client.dataQueue := by
    intro block member
    split at member
    · exact List.mem_of_mem_tail member
    · exact member
  refine ⟨configured.trans conserved.configured, ?_, ?_, ?_, conserved.chunks, taken, lost, ?_, ?_,
    ?_, ?_⟩
  · rw [pending]
    exact conserved.pending
  · intro block member
    rw [queue] at member
    rcases List.mem_append.mp member with earlier | new
    · exact conserved.blocks block (among block earlier)
    · rw [List.mem_singleton] at new
      rw [new]
      exact ⟨nonempty, fits⟩
  · rw [buffer]
    exact conserved.rest
  · rw [queue, ← List.append_assoc]
    refine List.Sublist.append (List.Sublist.trans ?_ accounted.kept) (List.Sublist.refl _)
    refine List.Sublist.append (List.Sublist.refl _) ?_
    split
    · exact List.tail_sublist _
    · exact List.Sublist.refl _
  · have counted := accounted.counted
    rw [queue, List.length_append, List.length_append]
    split
    · rename_i full
      have room : signals.threads.client.config.maxQueueSize = 1024 := by
        rw [conserved.configured]
        rfl
      rw [List.length_tail, List.length_singleton]
      dsimp only
      omega
    · rw [List.length_singleton]
      dsimp only
      omega
  · rw [buffer]
    exact accounted.cut
  · rcases accounted.undelivered with here | ⟨stopped, leaving⟩
    · exact .inl here
    · exact .inr ⟨receiving.trans stopped, leaving⟩

/-- The thread does not leave the loop at this place. -/
theorem Signals.Undelivered.eq_nil {lost : List (List Byte)}
    (undelivered : signals.Undelivered lost)
    (nothing : signals.processor.chunks = [])
    (stays : signals.processor.Leaving = false ∨ signals.threads.client.receiving = true) :
    lost = [] := by
  rcases undelivered with here | ⟨stopped, leaving⟩
  · exact here.trans nothing
  · rcases stays with stays | receiving
    · rw [leaving] at stays
      cases stays
    · rw [stopped] at receiving
      cases receiving

/-- A block is taken from the queue and cut. -/
theorem conserved_takes (conserved : Conserved config signals)
    (here : signals.processor = .taking) {data : List Byte} {later : List (List Byte)}
    (queue : signals.threads.client.dataQueue = data :: later) :
    Conserved config { signals with
      threads := { signals.threads with
        client := (chunkRtcmData { signals.threads.client with dataQueue := later } data).1 }
      processor := .delivering (chunkRtcmData
        { signals.threads.client with dataQueue := later } data).2 } := by
  rcases conserved.accounted with ⟨taken, lost, accounted⟩
  have blocks := conserved.blocks
  have kept := accounted.kept
  have counted := accounted.counted
  rw [queue] at blocks kept counted
  rcases List.forall_mem_cons.mp blocks with ⟨⟨nonempty, short⟩, laterBlocks⟩
  have fits : signals.threads.client.rtcmBuffer.length + data.length ≤
      signals.threads.client.config.maxBufferSize := by
    have room : signals.threads.client.config.maxBufferSize = 8 * 1024 * 1024 := by
      rw [conserved.configured]
      rfl
    have rest := conserved.rest
    omega
  have nothing : lost = [] := by
    refine accounted.undelivered.eq_nil ?_ (.inl ?_)
    · rw [here]
      rfl
    · rw [here]
      rfl
  have chunked := @chunkRtcmData_of_le { signals.threads.client with dataQueue := later } data
    nonempty fits
  rw [chunked]
  have delivered := conserved.chunks
  rw [here] at delivered
  refine ⟨conserved.configured, conserved.pending, laterBlocks, length_rest_cutChunks _, ?_,
    taken ++ [data], (cutChunks (signals.threads.client.rtcmBuffer ++ data)).1, ?_, ?_, ?_,
    .inl rfl⟩
  · intro chunk member
    rcases List.mem_append.mp member with earlier | new
    · exact delivered chunk (List.mem_append_left _ earlier)
    · exact length_of_mem_cutChunks new
  · rw [List.append_assoc]
    exact kept
  · rw [List.length_append, List.length_singleton]
    rw [List.length_cons] at counted
    change taken.length + 1 + later.length + signals.dropped = signals.arrived.length
    omega
  · have cut := accounted.cut
    rw [nothing, List.flatten_nil, List.append_nil] at cut
    rw [List.flatten_append, cut, List.append_assoc signals.delivered.flatten,
      List.append_assoc signals.delivered.flatten, flatten_cutChunks]
    simp

theorem conserved_processSteps (conserved : Conserved config signals)
    (steps : ProcessSteps signals final) : Conserved config final := by
  cases steps with
  | takes here data later queue => exact conserved_takes conserved here queue
  | delivers chunk later here receiving =>
      rcases conserved.accounted with ⟨taken, lost, accounted⟩
      have chunks := conserved.chunks
      have undelivered := accounted.undelivered
      rw [Signals.Undelivered, here] at undelivered
      rw [here] at chunks
      rcases undelivered with rfl | ⟨stopped, _⟩
      · refine ⟨conserved.configured, conserved.pending, conserved.blocks, conserved.rest, ?_,
          taken, later, accounted.kept, accounted.counted, ?_, .inl rfl⟩
        · intro other member
          refine chunks other ?_
          rw [List.append_assoc] at member
          exact member
        · have cut := accounted.cut
          simpa [ProcessControl.chunks] using cut
      · rw [receiving] at stopped
        cases stopped
  | returns chunks here finished =>
      refine conserved.of_data rfl ⟨rfl, rfl, rfl⟩ (List.nil_subset _) ?_
      intro lost undelivered
      rcases finished with rfl | stopped
      · rw [Signals.Undelivered, here] at undelivered
        exact undelivered.imp_right fun leaving => ⟨leaving.1, rfl⟩
      · exact .inr ⟨stopped, rfl⟩
  | ends here stopped | leaves here _ stopped =>
      exact conserved.of_data rfl ⟨rfl, rfl, rfl⟩ (List.nil_subset _)
        fun lost _ => .inr ⟨stopped, rfl⟩
  | goesOn here receiving =>
      refine conserved.of_data rfl ⟨rfl, rfl, rfl⟩ (List.nil_subset _) ?_
      intro lost undelivered
      left
      refine undelivered.eq_nil ?_ (.inr receiving)
      rw [here]
      rfl
  | locks here | finds here _ | blocks here _ _ | waits here =>
      refine conserved.of_data rfl ⟨rfl, rfl, rfl⟩ (List.nil_subset _) ?_
      intro lost undelivered
      left
      refine undelivered.eq_nil ?_ (.inl ?_)
      · rw [here]
        rfl
      · rw [here]
        rfl

theorem conserved_notified (conserved : Conserved config signals)
    (receiverNotifies userNotifies : Bool) :
    Conserved config { signals with
      receiverNotifies := receiverNotifies
      userNotifies := userNotifies
      processor := signals.processor.notified } := by
  have chunks : signals.processor.notified.chunks = signals.processor.chunks := by
    cases signals.processor <;> rfl
  have leaving : signals.processor.notified.Leaving = signals.processor.Leaving := by
    cases signals.processor <;> rfl
  refine conserved.of_data rfl ⟨rfl, rfl, rfl⟩ ?_ ?_
  · intro chunk member
    rw [← chunks]
    exact member
  · intro lost undelivered
    rw [Signals.Undelivered, ← chunks, ← leaving] at undelivered
    exact undelivered

theorem conserved_signalStep {event : SignalEvent} (conserved : Conserved config signals)
    (watched : Watched signals) (fits : event.Fits)
    (steps : signalStep signals event = some final) : Conserved config final := by
  cases event with
  | thread event =>
      exact conserved_threadSteps conserved watched (threadSteps_of_threadStep steps)
  | pends data => exact conserved_pendsStep conserved fits steps
  | receives data => exact conserved_receivesStep conserved fits steps
  | receiverNotifies =>
      simp only [signalStep] at steps
      split at steps
      · cases steps
      · cases steps
        exact conserved_notified conserved false signals.userNotifies
  | userNotifies =>
      simp only [signalStep] at steps
      split at steps
      · cases steps
      · cases steps
        exact conserved_notified conserved signals.receiverNotifies false
  | processes => exact conserved_processSteps conserved (processSteps_of_processesStep steps)
  | processThrows =>
      rcases processThrowsStep_cases steps with ⟨_, rfl⟩
      exact conserved.of_data rfl ⟨rfl, rfl, rfl⟩ (List.nil_subset _) fun lost _ => .inr ⟨rfl, rfl⟩
  | wakes =>
      simp only [signalStep] at steps
      split at steps
      · cases steps
      · rename_i waiting
        cases steps
        have woken := conserved_notified conserved signals.receiverNotifies signals.userNotifies
        rw [not_not.mp waiting] at woken
        exact woken

end

theorem conserved_fresh (config : InsConfig) : Conserved config (freshSignals config) where
  configured := rfl
  pending := Nat.zero_le _
  blocks := by simp [freshSignals, freshClient]
  rest := Nat.zero_lt_succ _
  chunks := by simp [freshSignals, ProcessControl.chunks]
  accounted := ⟨[], [], List.Sublist.refl _, rfl, rfl, .inl rfl⟩

theorem conserved_run {config : InsConfig} {events : List SignalEvent} {signals : Signals}
    (fits : ∀ event ∈ events, event.Fits)
    (runs : runEvents signalStep (freshSignals config) events = some signals) :
    Conserved config signals := by
  have reached : Reached signalStep (fun _ event => event.Fits) (freshSignals config) signals :=
    Reached.start.of_runEvents (fun event member _ => fits event member) runs
  have both : Conserved config signals ∧ Watched signals := by
    refine @Reached.invariant _ _ _ _ _ _ (fun state => Conserved config state ∧ Watched state)
      ⟨conserved_fresh config, watched_fresh config⟩ ?_ reached
    rintro state next event ⟨conserved, watched⟩ fits steps
    exact ⟨conserved_signalStep conserved watched fits steps, watched_signalStep watched steps⟩
  exact both.1

/-- A block of 1025 bytes that wakes the process thread. -/
def deliveredEvents : List SignalEvent :=
  [.thread .connect, .thread (.connectEnds (.returned true)), .thread .startReceiving, .processes,
    .processes, .processes, .processes, .thread .proceeds, .thread .proceeds,
    .receives (List.replicate 1025 0xD3), .receiverNotifies, .processes, .processes, .processes,
    .processes]

end AsterxDriver.Ntrip
