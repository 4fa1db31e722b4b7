import GroupChat.Server.Sending

namespace GroupChat.Server

/-! The queues over whole runs, and the bytes that were sent from them. -/

variable {ω : Type} {env : Env ω}

/-- Nothing is under way on a connection. -/
structure Conn.Resting (conn : Conn) : Prop where
  recvingHeader : conn.recvingHeader = true
  recvLen : conn.recvLen = 0
  sendingHeader : conn.sendingHeader = true
  sendLen : conn.sendLen = 0
  sendQue : conn.sendQue = []

/-- What holds of each descriptor between two steps. -/
structure QueueKept (s : State ω) (fd : Fd) : Prop where
  resting : s.clientFds fd = false → (s.conns.conns fd).Resting
  watched : s.conns.wfds fd = !(s.conns.conns fd).sendQue.isEmpty
  receiving : (s.conns.conns fd).Receiving

namespace QueueKept

theorem init (db : ω) (size : Nat) (fd : Fd) :
    QueueKept (State.init db size) fd where
  resting := fun _ => ⟨rfl, rfl, rfl, rfl, rfl⟩
  watched := rfl
  receiving := (Conn.receiving_header rfl).mpr (Nat.zero_lt_succ 3)

theorem step {s s' : State ω} {fd : Fd} {step : Step}
    (kept : QueueKept s fd) (moves : Moves s s' fd step) :
    QueueKept s' fd := by
  cases moves with
  | accept closed opened conn wfds hung =>
      constructor
      · intro impossible
        rw [opened] at impossible
        contradiction
      · rw [wfds, conn]
        exact kept.watched
      · rw [conn]
        exact kept.receiving
  | @recvMsg net l opened clientFds conn made wfds hung =>
      obtain ⟨reported, received⟩ := Conn.receive_received net kept.receiving
      constructor
      · intro impossible
        rw [clientFds, opened] at impossible
        contradiction
      · rw [wfds, conn, kept.watched, Conn.pushAll_sendQue,
          received.same.sendQue]
        cases (s.conns.conns fd).sendQue <;> simp
      · rw [conn]
        exact received.proper
  | @sendMsg net msg outlet after opened clientFds front sent conn wfds hung =>
      obtain ⟨reported, chunk, transmitted⟩ := Conn.transmit_transmitted sent
      have queued : (s.conns.conns fd).sendQue.isEmpty = false := by
        cases queue : (s.conns.conns fd).sendQue with
        | nil => simp [queue] at front
        | cons msg rest => rfl
      constructor
      · intro impossible
        rw [clientFds, opened] at impossible
        contradiction
      · rw [wfds, conn, kept.watched, queued]
        by_cases done : outlet = .popped
        · by_cases empty : after.sendQue = [] <;> simp [done, empty]
        · simp [done, transmitted.kept done, queued]
      · rw [conn, Conn.Receiving, Conn.expectLen,
          transmitted.same.recvingHeader, transmitted.same.recvLen,
          transmitted.same.recvMsg]
        exact kept.receiving
  | closeConn closed conn wfds hung =>
      constructor
      · intro _
        rw [conn]
        exact ⟨rfl, rfl, rfl, rfl, rfl⟩
      · rw [wfds, conn]
        rfl
      · rw [conn]
        exact (Conn.receiving_header rfl).mpr (Nat.zero_lt_succ 3)
  | @other _ l elsewhere clientFds opened conn made wfds hung =>
      constructor
      · intro closed
        rw [clientFds] at closed
        have none : l = [] := by
          by_contra some
          rw [opened some] at closed
          contradiction
        rw [conn, none, Conn.pushAll_nil]
        exact kept.resting closed
      · rw [wfds, conn, kept.watched, Conn.pushAll_sendQue]
        cases (s.conns.conns fd).sendQue <;> simp
      · rw [conn]
        exact kept.receiving

end QueueKept

theorem queues_invariant :
    (machine env).Invariant fun s => ∀ fd, QueueKept s fd where
  start := by
    rintro _ ⟨db, size, rfl⟩ fd
    exact QueueKept.init db size fd
  kept := by
    intro before step after reached kept allowed moved fd
    exact (kept fd).step
      (State.moves (sessions_invariant.holds reached) allowed moved fd)

/-- Where every frame handed over is a good one, the queues hold what is made
from good frames. -/
theorem made_invariant (good : Message → Prop) :
    ((machine env).restrict fun s step =>
      ∀ frame, s.Handed step frame → good frame).Invariant fun s =>
    ∀ fd, ∀ msg ∈ (s.conns.conns fd).sendQue, Connections.Made good msg where
  start := by
    rintro _ ⟨db, size, rfl⟩ fd msg member
    cases member
  kept := by
    intro before step after reached made allowed moved fd msg member
    have kept := sessions_invariant.holds reached.of_restrict
    have queues := queues_invariant.holds reached.of_restrict fd
    have news : ∀ l : List Message,
        (∀ msg ∈ l, Connections.Made (before.Handed step) msg) →
        msg ∈ (before.conns.conns fd).sendQue ++ l →
        Connections.Made good msg := by
      intro l fresh member
      rcases List.mem_append.mp member with old | new
      · exact made fd msg old
      · exact (fresh msg new).mono allowed.2
    cases State.moves kept allowed.1 moved fd with
    | accept closed opened conn wfds hung =>
        rw [conn] at member
        exact made fd msg member
    | @recvMsg net l opened clientFds conn fresh wfds hung =>
        obtain ⟨reported, received⟩ :=
          Conn.receive_received net queues.receiving
        rw [conn, Conn.pushAll_sendQue, received.same.sendQue] at member
        exact news l fresh member
    | @sendMsg net front outlet next opened clientFds found sent conn wfds
        hung =>
        obtain ⟨reported, chunk, transmitted⟩ := Conn.transmit_transmitted sent
        rw [conn] at member
        by_cases done : outlet = .popped
        · rw [(transmitted.popped done).2.2.2] at member
          exact made fd msg (List.mem_of_mem_tail member)
        · rw [transmitted.kept done] at member
          exact made fd msg member
    | closeConn closed conn wfds hung =>
        rw [conn] at member
        cases member
    | @other _ l elsewhere clientFds opened conn fresh wfds hung =>
        rw [conn, Conn.pushAll_sendQue] at member
        exact news l fresh member

/-- The bytes of several messages, one after the other. -/
def streamOf (msgs : List Message) : Buffer :=
  msgs.flatMap Message.bytes

@[simp] theorem streamOf_nil : streamOf [] = [] := rfl

@[simp] theorem streamOf_append (first second : List Message) :
    streamOf (first ++ second) = streamOf first ++ streamOf second := by
  simp [streamOf]

theorem streamOf_cons (msg : Message) (msgs : List Message) :
    streamOf (msg :: msgs) = msg.bytes ++ streamOf msgs := by
  simp [streamOf]

namespace Conn

/-- What is out is the messages sent and a part of the one at the front. -/
inductive Aligned (conn : Conn) (sent : List Message) : Prop
  | idle (sendQue : conn.sendQue = []) (header : conn.sendingHeader = true)
      (start : conn.sendLen = 0)
      (out : conn.history.accepted = streamOf sent)
  | busy {msg : Message} {rest : List Message}
      (sendQue : conn.sendQue = msg :: rest) (proper : conn.Sending msg)
      (out : conn.history.accepted = streamOf sent ++ conn.progress msg)

/-- The bytes taken from a connection against the messages queued on it. -/
def Streaming (conn : Conn) (hung : Bool) : Prop :=
  ∃ sent, conn.history.pushed = sent ++ conn.sendQue ∧
    streamOf sent <+: conn.history.accepted ∧
    conn.history.accepted <+: streamOf conn.history.pushed ∧
    (hung = false → conn.Aligned sent)

theorem Aligned.of_start {conn : Conn} {sent : List Message}
    (header : conn.sendingHeader = true) (start : conn.sendLen = 0)
    (out : conn.history.accepted = streamOf sent) : conn.Aligned sent := by
  cases queue : conn.sendQue with
  | nil => exact .idle queue header start out
  | cons msg rest =>
      refine .busy queue ((sending_header header).mpr ?_) ?_
      · rw [start]
        exact Nat.zero_lt_succ 3
      · simp [out, progress, header, start]

theorem progress_prefix (conn : Conn) (msg : Message) :
    conn.progress msg <+: msg.bytes := by
  unfold progress Message.bytes
  split
  · exact (List.take_prefix _ _).trans (List.prefix_append _ _)
  · exact (List.prefix_append_right_inj _).mpr (List.take_prefix _ _)

theorem Aligned.bounds {conn : Conn} {sent : List Message}
    (aligned : conn.Aligned sent)
    (pushed : conn.history.pushed = sent ++ conn.sendQue) :
    streamOf sent <+: conn.history.accepted ∧
      conn.history.accepted <+: streamOf conn.history.pushed := by
  cases aligned with
  | idle sendQue header start out =>
      rw [pushed, sendQue, out, List.append_nil]
      exact ⟨List.prefix_refl _, List.prefix_refl _⟩
  | @busy msg rest sendQue proper out =>
      rw [pushed, sendQue, out, streamOf_append, streamOf_cons]
      refine ⟨List.prefix_append _ _,
        (List.prefix_append_right_inj _).mpr ?_⟩
      exact (conn.progress_prefix msg).trans (List.prefix_append _ _)

theorem Streaming.of_aligned {conn : Conn} {hung : Bool}
    {sent : List Message} (aligned : conn.Aligned sent)
    (pushed : conn.history.pushed = sent ++ conn.sendQue) :
    conn.Streaming hung :=
  ⟨sent, pushed, (aligned.bounds pushed).1, (aligned.bounds pushed).2,
    fun _ => aligned⟩

theorem Streaming.pushAll {conn : Conn} {hung : Bool}
    (streaming : conn.Streaming hung) (l : List Message) :
    (conn.pushAll l).Streaming hung := by
  obtain ⟨sent, pushed, before, after, aligned⟩ := streaming
  refine ⟨sent, ?_, before, ?_, ?_⟩
  · rw [pushAll_pushed, pushed, List.append_assoc]
    rfl
  · rw [pushAll_pushed, streamOf_append]
    exact after.trans (List.prefix_append _ _)
  · intro going
    cases aligned going with
    | idle sendQue header start out => exact .of_start header start out
    | @busy msg rest sendQue proper out =>
        refine @Aligned.busy _ sent msg (rest ++ l) ?_ proper out
        rw [pushAll_sendQue, sendQue]
        rfl

theorem Streaming.congr {conn conn' : Conn} {hung : Bool}
    (streaming : conn.Streaming hung) (same : SameSending conn conn') :
    conn'.Streaming hung := by
  obtain ⟨sent, pushed, before, after, aligned⟩ := streaming
  refine ⟨sent, ?_, ?_, ?_, ?_⟩
  · rw [same.pushed, same.sendQue, pushed]
  · rw [same.accepted]
    exact before
  · rw [same.accepted, same.pushed]
    exact after
  · intro going
    cases aligned going with
    | idle sendQue header start out =>
        exact .of_start (same.sendingHeader.trans header)
          (same.sendLen.trans start) (same.accepted.trans out)
    | @busy msg rest sendQue proper out =>
        refine .busy (same.sendQue.trans sendQue) ?_ ?_
        · rw [Sending, same.sendingHeader, same.sendLen]
          exact proper
        · rw [same.accepted, out, progress, progress, same.sendingHeader,
            same.sendLen]

theorem Streaming.hang {conn : Conn} {hung : Bool}
    (streaming : conn.Streaming hung) : conn.Streaming true := by
  obtain ⟨sent, pushed, before, after, _⟩ := streaming
  exact ⟨sent, pushed, before, after, fun impossible => by cases impossible⟩

/-- One call of `transmit` keeps the bytes in the order of the queue. -/
theorem Streaming.transmit {conn conn' : Conn} {msg : Message}
    {net : List WriteResult} {outlet : Outlet}
    (streaming : conn.Streaming false)
    (front : conn.sendQue.head? = some msg)
    (moved : conn.transmit msg net = .ok (outlet, conn')) :
    conn'.Streaming (outlet = .closed) := by
  obtain ⟨sent, pushed, _, _, aligned⟩ := streaming
  obtain ⟨reported, chunk, transmitted⟩ := transmit_transmitted moved
  cases aligned rfl with
  | idle sendQue header start out =>
      rw [sendQue] at front
      cases front
  | @busy first rest sendQue proper out =>
      rw [sendQue] at front
      cases front
      have accepted : conn'.history.accepted =
          streamOf sent ++ (conn.progress msg ++ chunk) := by
        rw [transmitted.accepted, out, List.append_assoc]
      cases outlet with
      | closed =>
          have same := transmitted.kept (by decide)
          refine ⟨sent, ?_, ?_, ?_, fun impossible => by simp at impossible⟩
          · rw [transmitted.pushed, same, pushed]
          · rw [accepted]
            exact List.prefix_append _ _
          · rw [accepted, transmitted.pushed, pushed, sendQue,
              streamOf_append, streamOf_cons]
            exact (List.prefix_append_right_inj _).mpr
              (transmitted.within.trans (List.prefix_append _ _))
      | waiting =>
          obtain ⟨still, progress⟩ := transmitted.going rfl
          have same := transmitted.kept (by decide)
          refine @of_aligned _ _ sent
            (.busy (same.trans sendQue) still ?_) ?_
          · rw [accepted, progress]
          · rw [transmitted.pushed, same, pushed]
      | popped =>
          obtain ⟨whole, header, start, tail⟩ := transmitted.popped rfl
          rw [sendQue, List.tail_cons] at tail
          refine @of_aligned _ _ (sent ++ [msg])
            (.of_start header start ?_) ?_
          · rw [accepted, whole, streamOf_append]
            simp [streamOf]
          · rw [transmitted.pushed, pushed, sendQue, tail]
            simp

end Conn

/-- The bytes sent on the open connections, in runs that give a connection up
once a call has returned false. -/
theorem streaming_invariant : (orderly env).Invariant fun s =>
    ∀ fd, s.clientFds fd = true →
      (s.conns.conns fd).Streaming (s.hung fd) where
  start := by
    rintro _ ⟨db, size, rfl⟩ fd opened
    cases opened
  kept := by
    intro before step after reached streaming allowed moved fd opened
    have raw := reached.of_restrict
    have queues := queues_invariant.holds raw fd
    have orderly : before.Orderly step := allowed.2
    cases State.moves (sessions_invariant.holds raw) allowed.1 moved fd with
    | accept closed opened conn wfds hung =>
        have resting := queues.resting closed
        rw [conn]
        refine @Conn.Streaming.of_aligned _ _ [] (.idle resting.sendQue
          resting.sendingHeader resting.sendLen rfl) ?_
        simp [resting.sendQue]
    | @recvMsg net l opened clientFds conn made wfds hung =>
        obtain ⟨reported, received⟩ :=
          Conn.receive_received net queues.receiving
        have streaming := ((streaming fd opened).congr received.same).pushAll l
        rw [conn, hung]
        cases closed : decide
          (((before.conns.conns fd).receive net).1 = .closed) with
        | true =>
            rw [Bool.or_true]
            exact streaming.hang
        | false =>
            rw [Bool.or_false]
            exact streaming
    | @sendMsg net msg outlet after opened clientFds front sent conn wfds
        hung =>
        have going : before.hung fd = false := orderly
        have streaming := streaming fd opened
        rw [going] at streaming
        rw [conn, hung, going, Bool.false_or]
        exact streaming.transmit front sent
    | closeConn closed conn wfds hung =>
        rw [closed] at opened
        contradiction
    | @other _ l elsewhere clientFds _ conn made wfds hung =>
        rw [conn, hung]
        exact (streaming fd (clientFds ▸ opened)).pushAll l

/-- In every running state the bytes that were taken from an open connection
are a part from the front of the messages queued on it since it was accepted,
every message no longer queued is among them as a whole, and a descriptor that
is not in use has nothing queued. -/
theorem outgoing_streams (env : Env ω) (s : State ω)
    (reached : (orderly env).Reachable s) (fd : Fd) :
    (s.clientFds fd = true →
      (s.conns.conns fd).history.accepted <+:
        streamOf (s.conns.conns fd).history.pushed ∧
      ∃ sent, (s.conns.conns fd).history.pushed =
          sent ++ (s.conns.conns fd).sendQue ∧
        streamOf sent <+: (s.conns.conns fd).history.accepted) ∧
    (s.clientFds fd = false → (s.conns.conns fd).sendQue = [] ∧
      (s.conns.conns fd).sendingHeader = true ∧
      (s.conns.conns fd).sendLen = 0) := by
  constructor
  · intro opened
    obtain ⟨sent, pushed, before, after, _⟩ :=
      streaming_invariant.holds reached fd opened
    exact ⟨after, sent, pushed, before⟩
  · intro closed
    have resting :=
      (queues_invariant.holds reached.of_restrict fd).resting closed
    exact ⟨resting.sendQue, resting.sendingHeader, resting.sendLen⟩

theorem outgoing_streams_short : ∃ s, (orderly Tables.env).Reachable s ∧
    (s.conns.conns 4).history.accepted.length = 6 ∧
    (s.conns.conns 4).history.accepted <+:
      streamOf (s.conns.conns 4).history.pushed := by
  have replayed : ((orderly Tables.env).replay threeUsers
      (arrives 4 [loginFrame "a"] ++
        [.sendMsg 4 [.took 3, .eintr, .again],
          .sendMsg 4 [.took 1, .took 2, .again]])).any (fun s =>
        s.clientFds 4 &&
          (s.conns.conns 4).history.accepted.length = 6) = true := by
    decide +kernel
  obtain ⟨s, reached, out⟩ :=
    Machine.Reachable.of_replay replayed threeUsers_initial
  rw [Bool.and_eq_true, decide_eq_true_eq] at out
  exact ⟨s, reached, out.2,
    ((outgoing_streams Tables.env s reached 4).1 out.1).1⟩

end GroupChat.Server
