import GroupChat.Server.Streams

namespace GroupChat.Server

/-! The frames handed over on a connection against the stream its client
sends. -/

variable {ω : Type} {env : Env ω}

def wireOf (frames : List Message) : Buffer :=
  frames.flatMap Message.wire

@[simp] theorem wireOf_nil : wireOf [] = [] := rfl

@[simp] theorem wireOf_cons (frame : Message) (frames : List Message) :
    wireOf (frame :: frames) = frame.wire ++ wireOf frames := by
  simp [wireOf]

theorem wireOf_append (first second : List Message) :
    wireOf (first ++ second) = wireOf first ++ wireOf second := by
  simp [wireOf]

theorem Header.wire_injective {first second : Header}
    (same : first.wire = second.wire) : first = second := by
  obtain ⟨type, subType, length⟩ := first
  obtain ⟨type', subType', length'⟩ := second
  have headers := Header.memory_injective same
  simp only [Header.mk.injEq] at headers
  have lengths := congrArg ntohs headers.2.2
  rw [ntohs_htons, ntohs_htons] at lengths
  rw [headers.1, headers.2.1, lengths]

theorem header_of_prefix {header : Header} {payload : Buffer}
    {frames : List Message}
    (front : header.wire ++ payload <+: wireOf frames) :
    ∃ frame rest, frames = frame :: rest ∧ frame.header = header ∧
      payload <+: frame.data ++ wireOf rest := by
  cases frames with
  | nil =>
      have size := front.length_le
      simp at size
  | cons frame rest =>
      rw [wireOf_cons, Message.wire, List.append_assoc] at front
      obtain ⟨behind, whole⟩ := front
      rw [List.append_assoc] at whole
      obtain ⟨headers, payloads⟩ := List.append_inj whole (by simp)
      exact ⟨frame, rest, rfl, (Header.wire_injective headers).symm, behind,
        payloads⟩

namespace Conn

/-- The frames handed over are those at the front of the stream, and the rest
of what was read is the frame coming in. -/
structure Deframed (conn : Conn) (frames : List Message) (k : Nat) :
    Prop where
  parsed : conn.history.parsed = frames.take k
  consumed : delivered conn.history.reads =
    wireOf (frames.take k) ++ conn.partialFrame

/-- The stream so far was cut into frames as its client had joined them. -/
def Deframes (conn : Conn) : Prop :=
  ∀ frames : List Message, (∀ frame ∈ frames, frame.Framed) →
    delivered conn.history.reads <+: wireOf frames →
    ∃ k, conn.Deframed frames k

theorem Deframed.front {conn : Conn} {frames : List Message} {k : Nat}
    (deframed : conn.Deframed frames k) {chunk : Buffer}
    (stream : delivered conn.history.reads ++ chunk <+: wireOf frames) :
    conn.partialFrame ++ chunk <+: wireOf (frames.drop k) := by
  rw [deframed.consumed, List.append_assoc] at stream
  have split : wireOf frames =
      wireOf (frames.take k) ++ wireOf (frames.drop k) := by
    rw [← wireOf_append, List.take_append_drop]
  rw [split] at stream
  exact (List.prefix_append_right_inj _).mp stream

theorem Deframes.of_start {conn : Conn} (header : conn.recvingHeader = true)
    (start : conn.recvLen = 0) (reads : conn.history.reads = [])
    (parsed : conn.history.parsed = []) : conn.Deframes := by
  intro frames _ _
  refine ⟨0, parsed, ?_⟩
  simp [reads, partialFrame, header, start]

theorem Completed.next {conn conn' : Conn} {consumed : Buffer}
    {frames : List Message} (completed : Completed conn conn' consumed)
    (framed : ∀ frame ∈ frames, frame.Framed)
    (front : consumed <+: wireOf frames) :
    ∃ rest, frames = conn'.recvMsg :: rest ∧
      consumed = conn'.recvMsg.wire := by
  rw [← completed.frame] at front
  obtain ⟨frame, rest, rfl, header, payload⟩ := header_of_prefix front
  obtain ⟨announced, present⟩ := framed frame List.mem_cons_self
  have some : 0 < frame.data.length := List.length_pos_iff.mpr present
  have expected : conn'.expectLen = frame.data.length := by
    rw [expectLen, ← header, announced]
    omega
  have size := completed.size.2 (by omega)
  have whole : conn'.recvMsg.data.take conn'.expectLen.toNat =
      conn'.recvMsg.data := List.take_of_length_le (by omega)
  rw [whole] at payload
  have data : conn'.recvMsg.data = frame.data :=
    (List.prefix_of_prefix_length_le payload (List.prefix_append _ _)
      (by omega)).eq_of_length (by omega)
  have same : conn'.recvMsg = frame := by
    rw [show conn'.recvMsg = ⟨conn'.recvMsg.header, conn'.recvMsg.data⟩
      from rfl, data, ← header]
  rw [← completed.frame, whole]
  exact ⟨rest, by rw [same], rfl⟩

/-- One call of `receive` keeps to the frames of the stream, unless it gives
the connection up. -/
theorem Deframes.receive {conn conn' : Conn} {intake : Intake}
    {reported : List ReadResult} (deframes : conn.Deframes)
    (received : Received conn conn' intake reported)
    (going : intake ≠ .closed) : conn'.Deframes := by
  intro frames framed stream
  rw [received.reads, delivered_append] at stream
  obtain ⟨k, deframed⟩ := deframes frames framed
    ((List.prefix_append _ _).trans stream)
  have front := deframed.front stream
  by_cases done : intake = .complete
  · have completed := received.completed done
    obtain ⟨rest, split, consumed⟩ := completed.next
      (fun frame member => framed frame (List.mem_of_mem_drop member)) front
    have taken : frames.take (k + 1) = frames.take k ++ [conn'.recvMsg] := by
      rw [List.take_add, split]
      rfl
    refine ⟨k + 1, ?_, ?_⟩
    · rw [completed.parsed, deframed.parsed, taken]
    · rw [received.reads, delivered_append, deframed.consumed,
        List.append_assoc, consumed, taken, wireOf_append]
      simp [partialFrame, completed.header, completed.start]
  · refine ⟨k, ?_, ?_⟩
    · rw [received.unparsed done, deframed.parsed]
    · have progress := received.unfinished going done
      rw [received.reads, delivered_append, deframed.consumed,
        List.append_assoc, progress]

theorem Deframes.congr {conn conn' : Conn} (deframes : conn.Deframes)
    (same : SameReceiving conn conn') : conn'.Deframes := by
  intro frames framed stream
  rw [same.reads] at stream
  obtain ⟨k, parsed, consumed⟩ := deframes frames framed stream
  refine ⟨k, same.parsed.trans parsed, ?_⟩
  rw [same.reads, consumed, partialFrame, partialFrame, same.recvingHeader,
    same.recvLen, same.recvMsg]

theorem pushAll_same (conn : Conn) (l : List Message) :
    SameReceiving conn (conn.pushAll l) :=
  ⟨rfl, rfl, rfl, rfl, rfl⟩

end Conn

/-- What holds of a connection when it is accepted, and what receiving and
sending on it keep, holds until it is given up. -/
theorem receiving_invariant {property : Conn → Prop}
    (start : ∀ conn, conn.recvingHeader = true → conn.recvLen = 0 →
      conn.history.reads = [] → conn.history.parsed = [] → property conn)
    (receive : ∀ {conn conn' intake reported}, property conn →
      Conn.Received conn conn' intake reported → intake ≠ .closed →
        property conn')
    (congr : ∀ {conn conn'}, property conn → Conn.SameReceiving conn conn' →
      property conn') :
    (orderly env).Invariant fun s => ∀ fd, s.clientFds fd = true →
      s.hung fd = false → property (s.conns.conns fd) where
  start := by
    rintro _ ⟨db, size, rfl⟩ fd opened
    cases opened
  kept := by
    intro before step after reached holds allowed moved fd opened going
    have raw := reached.of_restrict
    have queues := queues_invariant.holds raw fd
    cases State.moves (sessions_invariant.holds raw) allowed.1 moved fd with
    | accept closed opened conn wfds hung =>
        have resting := queues.resting closed
        rw [conn]
        exact start _ resting.recvingHeader resting.recvLen rfl rfl
    | @recvMsg net l opened clientFds conn made wfds hung =>
        rw [hung, Bool.or_eq_false_iff] at going
        obtain ⟨reported, received⟩ :=
          Conn.receive_received net queues.receiving
        rw [conn]
        exact congr (receive (holds fd opened going.1) received
          (of_decide_eq_false going.2)) (Conn.pushAll_same _ l)
    | @sendMsg net msg outlet next opened clientFds front sent conn wfds
        hung =>
        rw [hung, Bool.or_eq_false_iff] at going
        obtain ⟨_, _, transmitted⟩ := Conn.transmit_transmitted sent
        rw [conn]
        exact congr (holds fd opened going.1) transmitted.same
    | closeConn closed conn wfds hung =>
        rw [closed] at opened
        contradiction
    | @other _ l elsewhere clientFds _ conn made wfds hung =>
        rw [conn]
        exact congr (holds fd (clientFds ▸ opened) (hung ▸ going))
          (Conn.pushAll_same _ l)

theorem deframes_invariant : (orderly env).Invariant fun s =>
    ∀ fd, s.clientFds fd = true → s.hung fd = false →
      (s.conns.conns fd).Deframes := by
  apply receiving_invariant
  · intro conn header start reads parsed
    exact .of_start header start reads parsed
  · intro conn conn' intake reported deframes received going
    exact deframes.receive received going
  · intro conn conn' deframes same
    exact deframes.congr same

theorem Conn.Deframed.position {conn : Conn} {frames : List Message} {k : Nat}
    (deframed : conn.Deframed frames k) (proper : conn.Receiving)
    (framed : ∀ frame ∈ frames, frame.Framed)
    (stream : delivered conn.history.reads <+: wireOf frames) :
    conn.recvingHeader = true ∧ conn.recvLen < sizeofHeader ∨
      ∃ next ∈ frames[k]?, conn.recvingHeader = false ∧
        conn.recvMsg.header = next.header ∧
        conn.recvLen < next.data.length := by
  cases header : conn.recvingHeader with
  | true => exact .inl ⟨rfl, (receiving_header header).mp proper⟩
  | false =>
      right
      have front := @Deframed.front _ _ _ deframed [] (by simpa using stream)
      simp only [partialFrame, header, Bool.false_eq_true, if_false,
        List.append_nil] at front
      obtain ⟨next, rest, split, same, _⟩ := header_of_prefix front
      have found : frames[k]? = some next := by
        rw [← List.head?_drop, split]
        rfl
      have announced := (framed next
        (List.mem_of_getElem? found)).announced
      have expected : conn.expectLen = next.data.length := by
        rw [expectLen, ← same, announced]
        omega
      have position := ((receiving_data header).mp proper).1
      exact ⟨next, found, rfl, same.symm, by omega⟩

/-- Of a stream of frames, the frames handed over on a connection that is still
open are the first ones, and what was read behind them is the part of the next
frame that the connection holds. -/
theorem incoming_frames (env : Env ω) (s : State ω)
    (reached : (orderly env).Reachable s) (fd : Fd)
    (opened : s.clientFds fd = true) (going : s.hung fd = false)
    (frames : List Message) (framed : ∀ frame ∈ frames, frame.Framed)
    (stream : delivered (s.conns.conns fd).history.reads <+:
      wireOf frames) :
    ∃ k, (s.conns.conns fd).history.parsed = frames.take k ∧
      delivered (s.conns.conns fd).history.reads =
        wireOf (frames.take k) ++ (s.conns.conns fd).partialFrame ∧
      ((s.conns.conns fd).recvingHeader = true ∧
          (s.conns.conns fd).recvLen < sizeofHeader ∨
        ∃ next ∈ frames[k]?, (s.conns.conns fd).recvingHeader = false ∧
          (s.conns.conns fd).recvMsg.header = next.header ∧
          (s.conns.conns fd).recvLen < next.data.length) := by
  obtain ⟨k, deframed⟩ := deframes_invariant.holds reached fd opened going
    frames framed stream
  have proper := (queues_invariant.holds reached.of_restrict fd).receiving
  exact ⟨k, deframed.parsed, deframed.consumed,
    deframed.position proper framed stream⟩

def loginThenRecords : List Message :=
  [loginFrame "a", .ofData 0x12 0x01 (Buffer.ofWord 0xFFFF)]

theorem incoming_frames_split : ∃ s k, (orderly Tables.env).Reachable s ∧
    (s.conns.conns 4).recvLen = 3 ∧
    (s.conns.conns 4).history.parsed = loginThenRecords.take k := by
  have replayed : ((orderly Tables.env).replay threeUsers
      [.accept 4, .recvMsg 4 [.data ((wireOf loginThenRecords).take 2)],
        .recvMsg 4 [.data (((wireOf loginThenRecords).drop 2).take 58)],
        .recvMsg 4 [.data (((wireOf loginThenRecords).drop 60).take 3)]]).any
      (fun s => s.clientFds 4 && !s.hung 4 &&
        (s.conns.conns 4).recvLen = 3 &&
        (delivered (s.conns.conns 4).history.reads).isPrefixOf
          (wireOf loginThenRecords)) = true := by
    decide +kernel
  obtain ⟨s, reached, read⟩ :=
    Machine.Reachable.of_replay replayed threeUsers_initial
  simp only [Bool.and_eq_true, decide_eq_true_eq, Bool.not_eq_true',
    List.isPrefixOf_iff_prefix] at read
  obtain ⟨⟨⟨opened, going⟩, position⟩, stream⟩ := read
  have framed : ∀ frame ∈ loginThenRecords, frame.Framed := by
    simp only [loginThenRecords, List.forall_mem_cons]
    exact ⟨Message.ofData_framed (by decide) (by decide),
      Message.ofData_framed (by decide) (by decide), by simp⟩
  obtain ⟨k, parsed, _⟩ := incoming_frames Tables.env s reached 4 opened going
    loginThenRecords framed stream
  exact ⟨s, k, reached, position, parsed⟩

end GroupChat.Server
