import GroupChat.Server.Displaced
import GroupChat.Server.Framing
import GroupChat.Server.TooShort

namespace GroupChat.Server

/-! What a client on whose connection no login succeeds gets to see. -/

variable {ω : Type} {env : Env ω}

namespace Header

/-- The header at the front of a stream. -/
def ofWire (stream : Buffer) : Header :=
  let header := ofMemory (stream.take sizeofHeader)
  { header with length := ntohs header.length }

theorem ofWire_append (header : Header) (rest : Buffer) :
    ofWire (header.wire ++ rest) = header := by
  have front : (header.wire ++ rest).take sizeofHeader = header.wire :=
    List.take_left' (by rfl)
  rw [ofWire, front, wire, ofMemory_memory, ntohs_htons]

/-- The frame is a login that is looked up in the tables. -/
def IsLogin (header : Header) : Prop :=
  header.type = 0x10 ∧ header.subType = 0x00 ∧
    header.length.toNat = sizeofHeader + 56

instance : DecidablePred IsLogin :=
  fun _ => inferInstanceAs (Decidable (_ ∧ _ ∧ _))

/-- The frame asks for the name of a user, which is looked up as well. -/
def AsksName (header : Header) : Prop :=
  header.type = 0x11 ∧ header.subType = 0x00 ∧
    header.length.toNat = sizeofHeader + 4

instance : DecidablePred AsksName :=
  fun _ => inferInstanceAs (Decidable (_ ∧ _ ∧ _))

end Header

/-- The answer to a frame of a client that is not let in. -/
def strangerReply (header : Header) : Message :=
  if header.IsLogin then Connections.refusedMsg
  else Connections.unknownMsg header.type

/-- The answers to a stream of bytes, made from nothing but the bytes. -/
def strangerReplies (stream : Buffer) : List Message :=
  if stream.length < sizeofHeader then
    []
  else if (Header.ofWire stream).length.toNat < sizeofHeader then
    [Connections.unknownMsg (Header.ofWire stream).type]
  else if stream.length < (Header.ofWire stream).length.toNat then
    []
  else
    strangerReply (Header.ofWire stream) ::
      strangerReplies (stream.drop (Header.ofWire stream).length.toNat)
termination_by stream.length
decreasing_by
  rw [List.length_drop]
  simp only [sizeofHeader] at *
  omega

theorem strangerReplies_short {stream : Buffer}
    (short : stream.length < sizeofHeader) : strangerReplies stream = [] := by
  rw [strangerReplies, if_pos short]

/-- Behind a header that is too short nothing is read as a header again. -/
theorem strangerReplies_tooShort {header : Header} (rest : Buffer)
    (short : header.length.toNat < sizeofHeader) :
    strangerReplies (header.wire ++ rest) =
      [Connections.unknownMsg header.type] := by
  have long : ¬ (header.wire ++ rest).length < sizeofHeader := by
    rw [List.length_append, Header.length_wire, sizeofHeader]
    omega
  rw [strangerReplies, if_neg long, Header.ofWire_append, if_pos short]

theorem strangerReplies_unfinished {header : Header} {payload : Buffer}
    (more : sizeofHeader + payload.length < header.length.toNat) :
    strangerReplies (header.wire ++ payload) = [] := by
  have size : (header.wire ++ payload).length =
      sizeofHeader + payload.length := by
    rw [List.length_append, Header.length_wire, sizeofHeader]
  have long : ¬ (header.wire ++ payload).length < sizeofHeader := by
    omega
  have proper : ¬ header.length.toNat < sizeofHeader := by
    omega
  have unfinished : (header.wire ++ payload).length <
      header.length.toNat := by
    omega
  rw [strangerReplies, if_neg long, Header.ofWire_append, if_neg proper,
    if_pos unfinished]

theorem strangerReplies_frame {frame : Message} (rest : Buffer)
    (announced : frame.Announced) :
    strangerReplies (frame.wire ++ rest) =
      strangerReply frame.header :: strangerReplies rest := by
  have length : frame.wire.length = frame.header.length.toNat := by
    rw [announced, Message.wire, List.length_append, Header.length_wire,
      sizeofHeader]
  have size : (frame.wire ++ rest).length =
      frame.header.length.toNat + rest.length := by
    rw [List.length_append, length]
  have proper : ¬ frame.header.length.toNat < sizeofHeader := by
    rw [announced]
    omega
  have long : ¬ (frame.wire ++ rest).length < sizeofHeader := by
    omega
  have whole : ¬ (frame.wire ++ rest).length <
      frame.header.length.toNat := by
    omega
  have header : Header.ofWire (frame.wire ++ rest) = frame.header := by
    rw [Message.wire, List.append_assoc, Header.ofWire_append]
  rw [strangerReplies, if_neg long, header, if_neg proper, if_neg whole,
    List.drop_left' length]

theorem strangerReplies_wireOf {frames : List Message} (rest : Buffer)
    (announced : ∀ frame ∈ frames, frame.Announced) :
    strangerReplies (wireOf frames ++ rest) =
      frames.map (fun frame => strangerReply frame.header) ++
        strangerReplies rest := by
  induction frames with
  | nil => rfl
  | cons frame frames induction =>
      rw [List.forall_mem_cons] at announced
      rw [wireOf_cons, List.append_assoc,
        strangerReplies_frame _ announced.1, induction announced.2]
      rfl

namespace Conn

theorem Receiving.unanswered {conn : Conn} (proper : conn.Receiving)
    (free : ¬ conn.Stuck) : strangerReplies conn.partialFrame = [] := by
  cases header : conn.recvingHeader with
  | true =>
      have position := (receiving_header header).mp proper
      rw [partialFrame, header, if_pos rfl]
      apply strangerReplies_short
      rw [List.length_take]
      exact Nat.lt_of_le_of_lt (Nat.min_le_left _ _) position
  | false =>
      obtain ⟨position, _⟩ := (receiving_data header).mp proper
      have more : (conn.recvLen : Int) < conn.expectLen := by
        rcases position with ⟨short, _⟩ | more
        · exact absurd ⟨header, short⟩ free
        · exact more
      rw [partialFrame, header, if_neg Bool.false_ne_true]
      apply strangerReplies_unfinished
      rw [expectLen] at more
      rw [List.length_take]
      omega

theorem Stuck.answered {conn : Conn} (stuck : conn.Stuck) :
    strangerReplies conn.partialFrame =
      [Connections.unknownMsg conn.recvMsg.header.type] := by
  obtain ⟨header, short⟩ := stuck
  rw [partialFrame, header, if_neg Bool.false_ne_true]
  apply strangerReplies_tooShort
  rw [expectLen] at short
  omega

theorem recvData_unanswered {conn : Conn} {net : List ReadResult}
    (filling : conn.Filling) (closed : (conn.recvData net).1 = .closed) :
    ∃ reported, (conn.recvData net).2.history.reads =
        conn.history.reads ++ reported ∧
      strangerReplies (conn.partialFrame ++ delivered reported) = [] := by
  have payload : 0 < conn.expectLen := by
    unfold recvData at closed
    split at closed
    · cases closed
    · split at closed
      · assumption
      · cases closed
  have position := filling.inside payload
  rw [recvData_payload net payload] at closed ⊢
  dsimp only at closed ⊢
  split at closed
  · rename_i ended
    have spec := readFromFd_spec net (conn.expectLen.toNat - conn.recvLen)
    have short := readFromFd_short (by omega) ended
    refine ⟨_, by rw [if_pos ended]; rfl, ?_⟩
    rw [spec.delivers, partialFrame, filling.data,
      if_neg Bool.false_ne_true, List.append_assoc]
    apply strangerReplies_unfinished
    have length : conn.expectLen =
        (conn.recvMsg.header.length.toNat : Int) - sizeofHeader := rfl
    rw [List.length_append, List.length_take]
    omega
  · split at closed
    · cases closed
    · cases closed

theorem recvHeader_unanswered {conn : Conn} {net : List ReadResult}
    (header : conn.recvingHeader = true) (proper : conn.Receiving)
    (closed : (conn.recvHeader net).1 = .closed) :
    ∃ reported, (conn.recvHeader net).2.history.reads =
        conn.history.reads ++ reported ∧
      strangerReplies (conn.partialFrame ++ delivered reported) = [] := by
  have position := (receiving_header header).mp proper
  have early := @readFromFd_short net (sizeofHeader - conn.recvLen)
  have spec := readFromFd_spec net (sizeofHeader - conn.recvLen)
  rw [recvHeader_eq] at closed ⊢
  dsimp only at closed ⊢
  generalize readFromFd net (sizeofHeader - conn.recvLen) = out
    at early spec closed ⊢
  have bound := spec.bound
  have counts := spec.counts
  split at closed
  · rename_i ended
    have short := early (by omega) ended
    refine ⟨_, by rw [if_pos ended]; rfl, ?_⟩
    rw [spec.delivers, partialFrame, header, if_pos rfl]
    apply strangerReplies_short
    rw [List.length_append, List.length_take]
    omega
  · rename_i going
    have counted : out.res.toNat = out.stored.length := by
      omega
    rw [if_neg going]
    rw [counted] at closed ⊢
    split at closed
    · cases closed
    · rename_i all
      have whole : (conn.storeHeader out.stored out.reported).recvLen =
          sizeofHeader := by
        change conn.recvLen + out.stored.length = sizeofHeader
        omega
      have stored : (conn.storeHeader out.stored
          out.reported).startData.partialFrame =
            conn.partialFrame ++ out.stored := by
        rw [@startData_progress (conn.storeHeader out.stored out.reported)
          header whole]
        exact storeHeader_progress header (by omega)
      rw [if_neg all]
      obtain ⟨reported, reads, unanswered⟩ := recvData_unanswered
        (@startData_filling (conn.storeHeader out.stored out.reported)) closed
      refine ⟨out.reported ++ reported, ?_, ?_⟩
      · rw [← List.append_assoc]
        exact reads
      · rw [delivered_append, spec.delivers, ← List.append_assoc, ← stored]
        exact unanswered

theorem receive_unanswered {conn : Conn} {net : List ReadResult}
    (proper : conn.Receiving) (closed : (conn.receive net).1 = .closed) :
    ∃ reported, (conn.receive net).2.history.reads =
        conn.history.reads ++ reported ∧
      strangerReplies (conn.partialFrame ++ delivered reported) = [] := by
  cases header : conn.recvingHeader with
  | true =>
      rw [receive_header header] at closed ⊢
      exact recvHeader_unanswered header proper closed
  | false =>
      rw [receive_data header] at closed ⊢
      exact recvData_unanswered (.of_receiving header proper) closed

theorem receive_waiting {conn : Conn} {net : List ReadResult}
    (waiting : (conn.receive net).1 = .waiting) :
    ¬ (conn.receive net).2.Stuck := by
  have payload {conn : Conn} {net : List ReadResult}
      (waiting : (conn.recvData net).1 = .waiting) :
      ¬ (conn.recvData net).2.expectLen < 0 := by
    rw [recvData_expectLen]
    unfold recvData at waiting
    split at waiting
    · cases waiting
    · assumption
  intro stuck
  obtain ⟨data, short⟩ := stuck
  cases header : conn.recvingHeader with
  | true =>
      rw [receive_header header, recvHeader_eq] at waiting data short
      dsimp only at waiting data short
      split at waiting
      · cases waiting
      · rename_i going
        rw [if_neg going] at data short
        split at waiting
        · rename_i more
          rw [if_pos more] at data
          exact absurd (header.symm.trans data) (by decide)
        · rename_i whole
          rw [if_neg whole] at short
          exact payload waiting short
  | false =>
      rw [receive_data header] at waiting short
      exact payload waiting short

end Conn

namespace Connections

/-- A frame on a connection without a session is unknown, whatever it is, where
the tables are not asked. -/
theorem parse_stranger {s s' : Connections ω} {fd : Fd}
    (free : s.fdToUid.lookup fd = none)
    (login : ¬ (s.frame fd).header.IsLogin)
    (name : ¬ (s.frame fd).header.AsksName)
    (parsed : s.parse env fd = .ok s') : s' = s.parseUnknown fd := by
  unfold parse at parsed
  split at parsed
  · rename_i type
    rw [parseLogin, if_pos] at parsed
    · cases parsed
      rfl
    · by_contra shaped
      rw [not_or, not_not, not_not] at shaped
      exact login ⟨type, shaped⟩
  · rename_i type
    rw [parseUsername, if_pos] at parsed
    · cases parsed
      rfl
    · by_contra shaped
      rw [not_or, not_not, not_not] at shaped
      exact name ⟨type, shaped⟩
  · exact ((parseChatrecord_unbound free ‹_› s').mp parsed).2
  · exact ((parseTextmsg_unbound free ‹_› s').mp parsed).2
  · exact ((parseChangePwd_unbound free ‹_› s').mp parsed).2
  · exact ((parseTransfileAskRc_unbound free ‹_› s').mp parsed).2
  · exact ((parseTransfileRepSc_unbound free ‹_› s').mp parsed).2
  · exact ((parseTransfileData_unbound free ‹_› s').mp parsed).2
  · exact ((parseTransfileAck_unbound free ‹_› s').mp parsed).2
  · cases parsed
    rfl

theorem Handled.unbound {s s' : Connections ω} {target fd : Fd}
    (handled : Handled env s target s') (apart : target ≠ fd)
    (free : s.fdToUid.lookup fd = none) : s'.fdToUid.lookup fd = none := by
  rcases handled.bindings with same | ⟨uid, binds⟩
  · rw [same.fdToUid]
    exact free
  · obtain ⟨forward, _, vacated, _, _, bound, _⟩ := binds.vacated
    rw [bound, FinMap.lookup_insert_eq, if_neg (Ne.symm apart)]
    cases vacated with
    | already => exact free
    | taken found back =>
        rw [FinMap.lookup_erase_eq]
        split
        · rfl
        · exact free

theorem recvMsg_unheard {s s' : Connections ω} {target fd : Fd}
    {net : List ReadResult} {kept : Bool}
    (inverse : FinMap.Inverse s.fdToUid s.uidToFd)
    (received : s.recvMsg env target net = .ok (kept, s'))
    (apart : target ≠ fd) (free : s.fdToUid.lookup fd = none) :
    s'.conns fd = s.conns fd := by
  obtain ⟨l, queued, emits⟩ := recvMsg_emits inverse received
  have none : sentTo fd l = [] := by
    apply sentTo_eq_nil
    intro push member here
    rcases (emits push member).1.target with sender | ⟨uid, bound⟩
    · exact apart (sender.symm.trans here)
    · rw [here] at bound
      exact absurd (free.symm.trans bound) (by simp)
  rw [queued.conns, none, setConn_conns, if_neg (Ne.symm apart),
    Conn.pushAll_nil]

end Connections

namespace State

theorem apart_kept {s s' : State ω} {step : Step} {fd : Fd}
    (reached : (machine env).Reachable s)
    (moved : s.next env step = .ok s') (apart : step.fd ≠ fd)
    (free : s.conns.fdToUid.lookup fd = none) :
    s'.conns.fdToUid.lookup fd = none ∧
      s'.conns.conns fd = s.conns.conns fd := by
  have inverse := (sessions_invariant.holds reached).inverse
  cases step with
  | accept target =>
      cases moved
      exact ⟨free, Function.update_of_ne (Ne.symm apart) _ _⟩
  | recvMsg target net =>
      obtain ⟨⟨keep, conns⟩, received, rest⟩ := Exec.of_bind_ok moved
      cases rest
      refine ⟨?_, Connections.recvMsg_unheard inverse received apart free⟩
      rcases Connections.recvMsg_handled received with rfl | handled
      · exact free
      · exact handled.unbound apart free
  | sendMsg target net =>
      obtain ⟨⟨keep, conns⟩, sent, rest⟩ := Exec.of_bind_ok moved
      cases rest
      obtain ⟨_, _, _, _, _, _, _, _, rfl⟩ := Connections.sendMsg_ok sent
      exact ⟨free, Function.update_of_ne (Ne.symm apart) _ _⟩
  | closeConn target =>
      have elsewhere : target ≠ fd := apart
      obtain ⟨conns, ended, rest⟩ := Exec.of_bind_ok moved
      cases rest
      obtain ⟨_, ⟨_, rfl⟩ | ⟨uid, _, _, _, rfl⟩⟩ :=
        Connections.closeConn_ok ended
      · exact ⟨free, Function.update_of_ne (Ne.symm elsewhere) _ _⟩
      · have absent :
            (s.conns.unbind target uid).fdToUid.lookup fd = none := by
          rw [Connections.unbind, FinMap.lookup_erase_eq]
          split
          · rfl
          · exact free
        constructor
        · simpa [Connections.closed, Connections.setConn] using absent
        · rw [Connections.closed, Connections.setConn_conns,
            if_neg (Ne.symm elsewhere), Connections.pushes_conns,
            Connections.farewell_unbound absent, Conn.pushAll_nil]
          rfl

theorem recvMsg_conn {s s' : State ω} {net : List ReadResult} {fd : Fd}
    (reached : (machine env).Reachable s)
    (moved : s.next env (.recvMsg fd net) = .ok s') :
    s'.conns.conns fd =
      ((s.conns.conns fd).receive net).2.pushAll (newPushes fd s s') := by
  obtain ⟨_, took⟩ := Conn.receive_received net
    (queues_invariant.holds reached fd).receiving
  obtain ⟨⟨kept, conns⟩, received, rest⟩ := Exec.of_bind_ok moved
  cases rest
  obtain ⟨l, queued, _⟩ := Connections.recvMsg_emits
    (sessions_invariant.holds reached).inverse received
  have conn := queued.conns fd
  rw [Connections.setConn_conns_self] at conn
  have pushes : newPushes fd s (s.called fd kept conns) = sentTo fd l := by
    rw [newPushes, State.called, conn, Conn.pushAll_pushed,
      took.same.pushed, List.drop_left]
  rw [pushes]
  exact conn

/-- The connection stays open, and a login on it is refused. -/
def Refuses (env : Env ω) (fd : Fd) (s : State ω) : Step → Prop
  | .recvMsg target net =>
      target = fd → ((s.conns.conns fd).receive net).1 = .complete →
        ((s.conns.conns fd).receive net).2.recvMsg.header.IsLogin →
          (s.next env (.recvMsg fd net)).any (fun s' =>
            newPushes fd s s' = [Connections.refusedMsg] ∧
              s'.conns.fdToUid.lookup fd = none) = true
  | .closeConn target => target ≠ fd
  | _ => True

instance (fd : Fd) (s : State ω) : DecidablePred (s.Refuses env fd) :=
  fun step => match step with
  | .recvMsg _ _ => inferInstanceAs (Decidable (_ → _ → _ → _ = true))
  | .closeConn target => inferInstanceAs (Decidable (target ≠ fd))
  | .accept _ => inferInstanceAs (Decidable True)
  | .sendMsg _ _ => inferInstanceAs (Decidable True)

/-- The client asks for no name, and `recv_msg` is not called again behind a
header that is too short. -/
def Reticent (fd : Fd) (s : State ω) : Step → Prop
  | .recvMsg target net =>
      target = fd → ¬ (s.conns.conns fd).Stuck ∧
        (((s.conns.conns fd).receive net).1 = .complete →
          ¬ ((s.conns.conns fd).receive net).2.recvMsg.header.AsksName)
  | _ => True

instance (fd : Fd) (s : State ω) : DecidablePred (s.Reticent fd) :=
  fun step => match step with
  | .recvMsg _ _ => inferInstanceAs (Decidable (_ → ¬ _ ∧ (_ → ¬ _)))
  | .closeConn _ => inferInstanceAs (Decidable True)
  | .accept _ => inferInstanceAs (Decidable True)
  | .sendMsg _ _ => inferInstanceAs (Decidable True)

end State

/-- The runs from the accept of a connection on, in which its client stays a
stranger. -/
def strangers (env : Env ω) (fd : Fd) : Machine (State ω) Step where
  initial := fun s => ∃ before : State ω, (orderly env).Reachable before ∧
    (orderly env).enabled before (.accept fd) ∧
    before.next env (.accept fd) = .ok s
  enabled := fun s step =>
    (orderly env).enabled s step ∧ s.Refuses env fd step
  next := State.next env

instance (fd : Fd) (s : State ω) :
    DecidablePred ((strangers env fd).enabled s) :=
  fun step => inferInstanceAs
    (Decidable ((orderly env).enabled s step ∧ s.Refuses env fd step))

/-- What the client of a connection was sent follows from what it sent. -/
structure Estranged (env : Env ω) (fd : Fd) (s : State ω) : Prop where
  reached : (orderly env).Reachable s
  opened : s.clientFds fd = true
  free : s.conns.fdToUid.lookup fd = none
  told : (s.conns.conns fd).history.pushed =
    strangerReplies (delivered (s.conns.conns fd).history.reads)

namespace Estranged

variable {fd : Fd} {s s' : State ω}

theorem answered (estranged : Estranged env fd s) {frames : List Message}
    (cut : (s.conns.conns fd).Cut frames)
    (free : ¬ (s.conns.conns fd).Stuck) :
    (s.conns.conns fd).history.pushed =
      frames.map fun frame => strangerReply frame.header := by
  have proper :=
    (queues_invariant.holds estranged.reached.of_restrict fd).receiving
  rw [estranged.told, cut.consumed, strangerReplies_wireOf _ cut.announced,
    proper.unanswered free, List.append_nil]

theorem replied (estranged : Estranged env fd s) {net : List ReadResult}
    (refuses : s.Refuses env fd (.recvMsg fd net))
    (reticent : s.Reticent fd (.recvMsg fd net))
    (complete : ((s.conns.conns fd).receive net).1 = .complete)
    (moved : s.next env (.recvMsg fd net) = .ok s') :
    s'.conns.fdToUid.lookup fd = none ∧ newPushes fd s s' =
      [strangerReply ((s.conns.conns fd).receive net).2.recvMsg.header] := by
  have refused := refuses rfl complete
  have name := (reticent rfl).2 complete
  rw [moved] at refused
  obtain ⟨⟨kept, conns⟩, handled, rest⟩ := Exec.of_bind_ok moved
  cases rest
  obtain ⟨_, closed | waiting | tooShort | parsed⟩ :=
    Connections.recvMsg_ok handled
  · exact absurd (complete.symm.trans closed.1) (by decide)
  · exact absurd (complete.symm.trans waiting.1) (by decide)
  · exact absurd (complete.symm.trans tooShort.1) (by decide)
  · cases login : decide
        ((s.conns.conns fd).receive net).2.recvMsg.header.IsLogin with
    | true =>
        have shaped := of_decide_eq_true login
        obtain ⟨pushes, free⟩ := of_decide_eq_true (refused shaped)
        rw [strangerReply, if_pos shaped]
        exact ⟨free, pushes⟩
    | false =>
        have other := of_decide_eq_false login
        rw [strangerReply, if_neg other]
        have frame : (s.conns.setConn fd ((s.conns.conns fd).receive
            net).2).frame fd =
              ((s.conns.conns fd).receive net).2.recvMsg := by
          rw [Connections.frame, Connections.setConn_conns_self]
        have free : (s.conns.setConn fd ((s.conns.conns fd).receive
            net).2).fdToUid.lookup fd = none := estranged.free
        rw [← frame] at other name
        have unknown :=
          Connections.parse_stranger free other name parsed.2.2
        subst unknown
        exact ⟨estranged.free,
          State.newPushes_unknown estranged.reached.of_restrict kept⟩

theorem receive (estranged : Estranged env fd s) {net : List ReadResult}
    (allowed : (orderly env).enabled s (.recvMsg fd net))
    (refuses : s.Refuses env fd (.recvMsg fd net))
    (reticent : s.Reticent fd (.recvMsg fd net))
    (moved : s.next env (.recvMsg fd net) = .ok s') :
    s'.conns.fdToUid.lookup fd = none ∧
      (s'.conns.conns fd).history.pushed =
        strangerReplies (delivered (s'.conns.conns fd).history.reads) := by
  have raw := estranged.reached.of_restrict
  have proper := (queues_invariant.holds raw fd).receiving
  obtain ⟨loose, silent⟩ := reticent rfl
  obtain ⟨frames, cut⟩ :=
    cut_invariant.holds estranged.reached fd allowed.1 allowed.2
  have answered := estranged.answered cut loose
  obtain ⟨reported, received⟩ := Conn.receive_received net proper
  have unclosed := cut.receive received
  have conn := State.recvMsg_conn raw moved
  obtain ⟨⟨kept, conns⟩, handled, rest⟩ := Exec.of_bind_ok moved
  cases rest
  obtain ⟨_, closed | waiting | tooShort | complete⟩ :=
    Connections.recvMsg_ok handled
  · obtain ⟨closed, _, rfl⟩ := closed
    obtain ⟨last, reads, unanswered⟩ :=
      Conn.receive_unanswered proper closed
    refine ⟨estranged.free, ?_⟩
    rw [State.called, Connections.setConn_conns_self, received.same.pushed,
      reads, Conn.delivered_append, cut.consumed, List.append_assoc,
      strangerReplies_wireOf _ cut.announced, unanswered, List.append_nil,
      answered]
  · obtain ⟨waiting, _, rfl⟩ := waiting
    have unfinished :=
      received.proper.unanswered (Conn.receive_waiting waiting)
    have after := unclosed (by rw [waiting]; decide)
    rw [waiting, if_neg (by decide), List.append_nil] at after
    refine ⟨estranged.free, ?_⟩
    rw [State.called, Connections.setConn_conns_self, received.same.pushed,
      after.consumed, strangerReplies_wireOf _ after.announced, unfinished,
      List.append_nil, answered]
  · obtain ⟨short, _, rfl⟩ := tooShort
    have stuck : ((s.conns.conns fd).receive net).2.Stuck :=
      Conn.receive_tooShort short
    have after := unclosed (by rw [short]; decide)
    rw [short, if_neg (by decide), List.append_nil] at after
    refine ⟨estranged.free, ?_⟩
    rw [conn, Conn.pushAll_pushed, Conn.pushAll_reads, received.same.pushed,
      after.consumed, strangerReplies_wireOf _ after.announced,
      stuck.answered, answered, State.newPushes_unknown raw kept]
  · obtain ⟨complete, _⟩ := complete
    have completed := received.completed complete
    have after := unclosed (by rw [complete]; decide)
    rw [if_pos complete] at after
    have none : ((s.conns.conns fd).receive net).2.partialFrame = [] := by
      simp [Conn.partialFrame, completed.header, completed.start]
    obtain ⟨free, replied⟩ :=
      estranged.replied refuses reticent complete moved
    refine ⟨free, ?_⟩
    rw [conn, Conn.pushAll_pushed, Conn.pushAll_reads, received.same.pushed,
      after.consumed, strangerReplies_wireOf _ after.announced, none,
      strangerReplies_short (by decide), List.append_nil, List.map_append,
      answered, replied]
    rfl

end Estranged

theorem estranged_invariant {fd : Fd} :
    ((strangers env fd).restrict (State.Reticent fd)).Invariant
      (Estranged env fd) where
  start := by
    intro s first
    obtain ⟨before, reached, allowed, moved⟩ := first
    have after := reached.step allowed moved
    have free : before.conns.fdToUid.lookup fd = none := by
      cases bound : before.conns.fdToUid.lookup fd with
      | none => rfl
      | some uid =>
          have opened := (sessions_invariant.holds
            reached.of_restrict).opened fd uid bound
          exact absurd (opened.symm.trans allowed.1.2) (by decide)
    cases moved
    refine ⟨after, Function.update_self _ _ _, free, ?_⟩
    rw [Connections.accepted, Connections.setConn_conns_self]
    exact (@strangerReplies_short [] (by decide)).symm
  kept := by
    intro before step after _ estranged allowed moved
    obtain ⟨⟨allowed, refuses⟩, reticent⟩ := allowed
    change before.next env step = .ok after at moved
    have reached := estranged.reached.step allowed moved
    cases here : decide (step.fd = fd) with
    | false =>
        have apart := of_decide_eq_false here
        obtain ⟨free, conn⟩ := State.apart_kept
          estranged.reached.of_restrict moved apart estranged.free
        refine ⟨reached, ?_, free, ?_⟩
        · rw [State.next_clientFds moved]
          cases step with
          | accept target | closeConn target =>
              exact (Function.update_of_ne (Ne.symm apart) _ _).trans
                estranged.opened
          | recvMsg target net | sendMsg target net =>
              exact estranged.opened
        · rw [conn]
          exact estranged.told
    | true =>
        have same := of_decide_eq_true here
        cases step with
        | accept target =>
            have closed : before.clientFds target = false := allowed.1.2
            rw [show target = fd from same, estranged.opened] at closed
            cases closed
        | recvMsg target net =>
            rw [show target = fd from same] at allowed refuses reticent moved
            obtain ⟨free, told⟩ :=
              estranged.receive allowed refuses reticent moved
            refine ⟨reached, ?_, free, told⟩
            rw [State.next_clientFds moved]
            exact estranged.opened
        | sendMsg target net =>
            rw [show target = fd from same] at moved
            obtain ⟨⟨kept, conns⟩, sent, rest⟩ := Exec.of_bind_ok moved
            cases rest
            obtain ⟨_, _, _, outlet, conn, _, wrote, _, rfl⟩ :=
              Connections.sendMsg_ok sent
            obtain ⟨_, _, transmitted⟩ := Conn.transmit_transmitted wrote
            refine ⟨reached, estranged.opened, estranged.free, ?_⟩
            change ((before.conns.setConn fd conn).conns
              fd).history.pushed = strangerReplies (delivered
                ((before.conns.setConn fd conn).conns fd).history.reads)
            rw [Connections.setConn_conns_self, transmitted.pushed,
              transmitted.same.reads]
            exact estranged.told
        | closeConn target => exact absurd same refuses

/-- Two strangers that send the same bytes are sent the same messages, in
whatever tables and among whatever other clients, where neither asks for a
name nor is read from behind a header that is too short. -/
theorem strangers_alike {ω' : Type} (env : Env ω) (env' : Env ω')
    (fd fd' : Fd) (s : State ω) (s' : State ω')
    (reached : ((strangers env fd).restrict (State.Reticent fd)).Reachable s)
    (reached' :
      ((strangers env' fd').restrict (State.Reticent fd')).Reachable s')
    (same : delivered (s.conns.conns fd).history.reads =
      delivered (s'.conns.conns fd').history.reads) :
    (s.conns.conns fd).history.pushed =
      (s'.conns.conns fd').history.pushed := by
  have told := (estranged_invariant.holds reached).told
  have told' := (estranged_invariant.holds reached').told
  rw [told, told', same]

/-- A server with these tables that has just accepted a client. -/
def justAccepted (tables : Tables) : State Tables where
  conns := (Connections.init tables 1024).accepted 4
  clientFds := Function.update (fun _ => false) 4 true
  hung := Function.update (fun _ => false) 4 false

theorem justAccepted_initial (tables : Tables) :
    (strangers Tables.env 4).initial (justAccepted tables) := by
  refine ⟨.init tables 1024, .initial ⟨tables, 1024, rfl⟩, ?_, rfl⟩
  exact ⟨⟨show 4 < 1024 by decide, rfl⟩, trivial⟩

def twoUsers : Tables := .ofUsers [("a", 1, false), ("b", 2, false)]

def otherUser : Tables := .ofUsers [("d", 2, true)]

theorem strangers_alike_refused : ∃ s s' : State Tables,
    (strangers Tables.env 4).Reachable s ∧
    (strangers Tables.env 4).Reachable s' ∧
    s.conns.db = twoUsers ∧ s'.conns.db = otherUser ∧
    (s.conns.conns 4).history.pushed ≠ [] ∧
    (s.conns.conns 4).history.pushed =
      (s'.conns.conns 4).history.pushed := by
  have replayed : (((strangers Tables.env 4).restrict
      (State.Reticent 4)).replay (justAccepted twoUsers)
        [.recvMsg 4 (whole (loginFrame "c"))]).any (fun s =>
          s.conns.db = twoUsers ∧
          delivered (s.conns.conns 4).history.reads =
            (loginFrame "c").wire ∧
          (s.conns.conns 4).history.pushed ≠ []) = true := by
    decide +kernel
  have replayed' : (((strangers Tables.env 4).restrict
      (State.Reticent 4)).replay (justAccepted otherUser)
        [.accept 5, .recvMsg 4 (whole (loginFrame "c"))]).any (fun s =>
          s.conns.db = otherUser ∧
          delivered (s.conns.conns 4).history.reads =
            (loginFrame "c").wire) = true := by
    decide +kernel
  obtain ⟨s, reached, holds⟩ :=
    Machine.Reachable.of_replay replayed (justAccepted_initial _)
  obtain ⟨s', reached', holds'⟩ :=
    Machine.Reachable.of_replay replayed' (justAccepted_initial _)
  obtain ⟨tables, sent, some⟩ := of_decide_eq_true holds
  obtain ⟨tables', sent'⟩ := of_decide_eq_true holds'
  exact ⟨s, s', reached.of_restrict, reached'.of_restrict, tables, tables',
    some, strangers_alike Tables.env Tables.env 4 4 s s' reached reached'
      (sent.trans sent'.symm)⟩

/-- A client that has not logged in is told the name of a user. -/
theorem stranger_told_name : ¬ ∀ (fd : Fd) (s s' : State Tables),
    (strangers Tables.env fd).Reachable s →
    (strangers Tables.env fd).Reachable s' →
    delivered (s.conns.conns fd).history.reads =
      delivered (s'.conns.conns fd).history.reads →
    (s.conns.conns fd).history.pushed =
      (s'.conns.conns fd).history.pushed := by
  intro alike
  have replayed : ((strangers Tables.env 4).replay (justAccepted twoUsers)
      [.recvMsg 4 (whole (.ofData 0x11 0x00 (Buffer.ofWord 2)))]).any
        (fun s => delivered (s.conns.conns 4).history.reads =
          (Message.ofData 0x11 0x00 (Buffer.ofWord 2)).wire ∧
          (s.conns.conns 4).history.pushed =
            [Connections.usernameMsg (Buffer.ofText "b")]) = true := by
    decide +kernel
  have replayed' : ((strangers Tables.env 4).replay (justAccepted otherUser)
      [.recvMsg 4 (whole (.ofData 0x11 0x00 (Buffer.ofWord 2)))]).any
        (fun s => delivered (s.conns.conns 4).history.reads =
          (Message.ofData 0x11 0x00 (Buffer.ofWord 2)).wire ∧
          (s.conns.conns 4).history.pushed =
            [Connections.usernameMsg (Buffer.ofText "d")]) = true := by
    decide +kernel
  obtain ⟨s, reached, holds⟩ :=
    Machine.Reachable.of_replay replayed (justAccepted_initial _)
  obtain ⟨s', reached', holds'⟩ :=
    Machine.Reachable.of_replay replayed' (justAccepted_initial _)
  obtain ⟨sent, pushed⟩ := of_decide_eq_true holds
  obtain ⟨sent', pushed'⟩ := of_decide_eq_true holds'
  have same := alike 4 s s' reached reached' (sent.trans sent'.symm)
  rw [pushed, pushed'] at same
  exact absurd same (by decide)

end GroupChat.Server
