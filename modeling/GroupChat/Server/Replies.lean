import GroupChat.Server.Frames
import GroupChat.Server.Serving

namespace GroupChat.Server

/-! The replies to the requests for names and for histories: which messages on
a connection they are, and what asked for them. -/

variable {ω : Type} {env : Env ω}

def isRequest (frame : Message) : Bool :=
  frame.header.type = 0x11 || frame.header.type = 0x12

def isAnswer (msg : Message) : Bool :=
  msg.header.type = 0x91 || msg.header.type = 0x92

def Answers (request msg : Message) : Prop :=
  msg.header.type = request.header.type ||| 0x80

theorem Answers.isAnswer {request msg : Message} (answers : Answers request msg)
    (asked : isRequest request = true) : isAnswer msg = true := by
  simp only [isRequest, Bool.or_eq_true, decide_eq_true_eq] at asked
  rw [Answers] at answers
  cases asked with
  | inl name =>
      rw [name] at answers
      have type : msg.header.type = 0x91 := answers
      simp [Server.isAnswer, type]
  | inr history =>
      rw [history] at answers
      have type : msg.header.type = 0x92 := answers
      simp [Server.isAnswer, type]

theorem isAnswer_other {msg : Message} (type : msg.header.type ∈
    ([0xA0, 0xA1, 0xA3, 0xA7, 0xA8, 0xA9, 0xAA] : List UInt8)) :
    isAnswer msg = false := by
  simp only [List.mem_cons, List.not_mem_nil, or_false] at type
  rcases type with same | same | same | same | same | same | same <;>
    simp [isAnswer, same]

namespace Connections

theorem Served.reply {s s' : Connections ω} {fd : Fd}
    (served : Served env s fd s') (asked : isRequest (s.frame fd) = true) :
    ∃ msg, Queued s s' [(fd, msg)] ∧ Answers (s.frame fd) msg := by
  have kind : (s.frame fd).header.type = 0x11 ∨
      (s.frame fd).header.type = 0x12 := by
    simpa [isRequest] using asked
  have unlike {other : UInt8} (type : (s.frame fd).header.type = other)
      (differs : other ≠ 0x11 ∧ other ≠ 0x12) : False := by
    rw [type] at kind
    exact kind.elim differs.1 differs.2
  cases served with
  | answer world queried made type failed =>
      exact ⟨_, Queued.of_push s world fd _, type⟩
  | @history world uid myUid found type read mine queried searched =>
      exact ⟨_, Queued.of_push s found.world fd _, by rw [Answers, type]; rfl⟩
  | unsaved type read mine queried failed =>
      exact (unlike type (by decide)).elim
  | text exist online type read mine queried saved reach =>
      exact (unlike type (by decide)).elim
  | login db type took listed queried =>
      exact (unlike type (by decide)).elim
  | file kind' read mine found queried =>
      simp only [transfileTypes, List.mem_cons, Prod.mk.injEq,
        List.not_mem_nil, or_false] at kind'
      rcases kind' with ⟨type, _⟩ | ⟨type, _⟩ | ⟨type, _⟩ | ⟨type, _⟩ <;>
        exact (unlike type (by decide)).elim

/-- Of the messages queued where a frame came from, those that are answers
answer it. -/
theorem Served.answers {s s' : Connections ω} {fd : Fd}
    (served : Served env s fd s')
    (plain : isRequest (s.frame fd) = true ∨
      ∀ msg, Answers (s.frame fd) msg → isAnswer msg = false) :
    ∃ l, Queued s s' l ∧
      List.Forall₂ Answers ([s.frame fd].filter isRequest)
        ((sentTo fd l).filter isAnswer) := by
  cases asked : isRequest (s.frame fd) with
  | true =>
      obtain ⟨msg, queued, answers⟩ := served.reply asked
      refine ⟨_, queued, ?_⟩
      rw [sentTo_cons, if_pos rfl, sentTo_nil,
        List.filter_cons_of_pos (answers.isAnswer asked),
        List.filter_cons_of_pos asked]
      exact .cons answers .nil
  | false =>
      obtain ⟨l, queued, kinds⟩ := served.queued
      have silent : (sentTo fd l).filter isAnswer = [] := by
        apply List.filter_eq_nil_iff.mpr
        intro msg member
        rw [Bool.not_eq_true]
        rcases kinds _ (mem_sentTo.mp member) with own | listed
        · have answers := plain.resolve_left (by simp [asked])
          exact answers msg own.2
        · exact isAnswer_other listed
      refine ⟨l, queued, ?_⟩
      rw [silent, List.filter_cons_of_neg (by simp [asked])]
      exact .nil

end Connections

namespace Conn

theorem recvData_tooShort {conn : Conn} {net : List ReadResult}
    (header : conn.recvingHeader = false)
    (short : (conn.recvData net).1 = .tooShort) :
    (conn.recvData net).2.recvingHeader = false ∧
      (conn.recvData net).2.expectLen < 0 := by
  unfold recvData at short ⊢
  by_cases negative : conn.expectLen < 0
  · rw [if_pos negative]
    exact ⟨header, negative⟩
  · rw [if_neg negative] at short
    split at short
    · dsimp only at short
      split at short
      · cases short
      · split at short <;> cases short
    · cases short

theorem receive_tooShort {conn : Conn} {net : List ReadResult}
    (short : (conn.receive net).1 = .tooShort) :
    (conn.receive net).2.recvingHeader = false ∧
      (conn.receive net).2.expectLen < 0 := by
  cases header : conn.recvingHeader with
  | false =>
      rw [receive_data header] at short ⊢
      exact recvData_tooShort header short
  | true =>
      rw [receive_header header] at short ⊢
      unfold recvHeader at short ⊢
      dsimp only at short ⊢
      split at short
      · cases short
      · rename_i going
        rw [if_neg going]
        split at short
        · cases short
        · rename_i whole
          rw [if_neg whole]
          exact recvData_tooShort rfl short

end Conn

namespace State

/-- The frame that a step hands over on a connection. -/
def handedOn (s : State ω) (fd : Fd) : Step → Option Message
  | .recvMsg target net =>
      if target = fd ∧ ((s.conns.conns fd).receive net).1 = .complete then
        some ((s.conns.conns fd).receive net).2.recvMsg
      else none
  | _ => none

variable {s s' : State ω} {step : Step} {fd : Fd}

theorem handedOn_handles {conns : Connections ω}
    (handles : Handles s step fd conns) :
    s.handedOn fd step = some (conns.frame fd) := by
  obtain ⟨net, rfl, complete, rfl⟩ := handles
  rw [handedOn, if_pos ⟨rfl, complete⟩, Connections.frame,
    Connections.setConn_conns_self]

theorem handles_of_handedOn {frame : Message}
    (handed : s.handedOn fd step = some frame) :
    ∃ conns, Handles s step fd conns ∧ conns.frame fd = frame := by
  cases step with
  | recvMsg target net =>
      by_cases both : target = fd ∧
          ((s.conns.conns fd).receive net).1 = .complete
      · rw [handedOn, if_pos both] at handed
        obtain ⟨rfl, complete⟩ := both
        cases handed
        refine ⟨_, ⟨net, rfl, complete, rfl⟩, ?_⟩
        rw [Connections.frame, Connections.setConn_conns_self]
      · rw [handedOn, if_neg both] at handed
        cases handed
  | accept _ | sendMsg _ _ | closeConn _ => cases handed

theorem next_records (reached : (machine env).Reachable s)
    (allowed : s.Enabled step) (moved : s.next env step = .ok s')
    (opened : s.clientFds fd = true) :
    (∃ msgs, Queues s s' fd msgs) ∧
      (s'.conns.conns fd).history.parsed =
        (s.conns.conns fd).history.parsed ++ (s.handedOn fd step).toList ∧
      (s.conns.conns fd).history.accepted <+:
        (s'.conns.conns fd).history.accepted := by
  have queues := queues_invariant.holds reached fd
  cases State.moves (sessions_invariant.holds reached) allowed moved fd with
  | accept closed opened' conn wfds hung =>
      rw [closed] at opened
      contradiction
  | @recvMsg net l opened' clientFds conn made wfds hung =>
      obtain ⟨reported, received⟩ :=
        Conn.receive_received net queues.receiving
      refine ⟨⟨l, ?_⟩, ?_, ?_⟩
      · rw [Queues, conn, Conn.pushAll_pushed, received.same.pushed]
      · have parsed : (s'.conns.conns fd).history.parsed =
            ((s.conns.conns fd).receive net).2.history.parsed := by
          rw [conn]
          rfl
        rw [parsed, handedOn]
        by_cases complete :
            ((s.conns.conns fd).receive net).1 = .complete
        · rw [if_pos ⟨rfl, complete⟩, (received.completed complete).parsed]
          rfl
        · rw [if_neg fun both => complete both.2,
            received.unparsed complete, Option.toList_none, List.append_nil]
      · rw [conn]
        exact (received.same.accepted).symm ▸ List.prefix_refl _
  | @sendMsg net msg outlet next opened' clientFds front sent conn wfds hung =>
      obtain ⟨_, _, transmitted⟩ := Conn.transmit_transmitted sent
      refine ⟨⟨[], ?_⟩, ?_, ?_⟩
      · rw [Queues, conn, transmitted.pushed, List.append_nil]
      · rw [conn, transmitted.same.parsed]
        exact (List.append_nil _).symm
      · rw [conn, transmitted.accepted]
        exact List.prefix_append _ _
  | closeConn closed conn wfds hung =>
      refine ⟨⟨[], ?_⟩, ?_, ?_⟩
      · rw [Queues, conn, List.append_nil]
        rfl
      · rw [conn]
        exact (List.append_nil _).symm
      · rw [conn]
        exact List.prefix_refl _
  | @other _ l elsewhere clientFds opened' conn made wfds hung =>
      refine ⟨⟨l, ?_⟩, ?_, ?_⟩
      · rw [Queues, conn, Conn.pushAll_pushed]
      · rw [conn]
        have none : s.handedOn fd step = none := by
          cases step with
          | recvMsg target net => exact if_neg fun both => elsewhere both.1
          | accept _ | sendMsg _ _ | closeConn _ => rfl
        rw [none]
        exact (List.append_nil _).symm
      · rw [conn]
        exact List.prefix_refl _

/-- What is handed over of a stream of frames are its frames, and no header is
too short. -/
theorem next_parsed (reached : (orderly env).Reachable s)
    (allowed : (orderly env).enabled s step)
    (moved : s.next env step = .ok s') (opened : s.clientFds fd = true)
    {frames : List Message} (framed : ∀ frame ∈ frames, frame.Framed)
    (parsed : (s.conns.conns fd).history.parsed <+: frames)
    (stream : ∀ net, step = .recvMsg fd net →
      delivered ((s.conns.conns fd).receive net).2.history.reads <+:
        wireOf frames) :
    (s'.conns.conns fd).history.parsed <+: frames ∧
      ∀ net, step = .recvMsg fd net →
        ((s.conns.conns fd).receive net).1 ≠ .tooShort := by
  have raw := reached.of_restrict
  have records := (next_records raw allowed.1 moved opened).2.1
  cases State.moves (sessions_invariant.holds raw) allowed.1 moved fd with
  | @recvMsg net l opened' clientFds conn made wfds hung =>
      obtain ⟨reported, received⟩ :=
        Conn.receive_received net (queues_invariant.holds raw fd).receiving
      by_cases closed : ((s.conns.conns fd).receive net).1 = .closed
      · refine ⟨?_, ?_⟩
        · rw [conn]
          exact (received.unparsed (by simp [closed])).symm ▸ parsed
        · intro net' same
          cases same
          simp [closed]
      · have going : s'.hung fd = false := by
          have before : s.hung fd = false := allowed.2
          rw [hung, before, decide_eq_false closed]
          rfl
        have after := reached.step allowed moved
        have read : delivered (s'.conns.conns fd).history.reads <+:
            wireOf frames := by
          rw [conn]
          exact stream net rfl
        obtain ⟨k, deframed⟩ := deframes_invariant.holds after fd
          (clientFds.trans opened) going frames framed read
        refine ⟨deframed.parsed ▸ List.take_prefix k frames, ?_⟩
        intro net' same short
        cases same
        obtain ⟨data, negative⟩ := Conn.receive_tooShort short
        have proper := (queues_invariant.holds after.of_restrict fd).receiving
        rcases deframed.position proper framed read with header | payload
        · rw [conn] at header
          exact absurd (header.1.symm.trans data) (by decide)
        · obtain ⟨next, found, _, same, _⟩ := payload
          have announced :=
            (framed next (List.mem_of_getElem? found)).announced
          rw [conn] at same
          have header : ((s.conns.conns fd).receive net).2.recvMsg.header =
              next.header := same
          rw [Conn.expectLen, header, announced] at negative
          omega
  | accept _ _ _ _ _ | sendMsg _ _ _ _ _ _ _ | closeConn _ _ _ _ =>
      refine ⟨?_, fun net impossible => by cases impossible⟩
      rw [records]
      simpa [handedOn] using parsed
  | other elsewhere clientFds opened' conn made wfds hung =>
      refine ⟨?_, ?_⟩
      · rw [conn]
        exact parsed
      · intro net same
        rw [same] at elsewhere
        exact absurd rfl elsewhere

/-- The answers a step queues to a connection are those to the requests it
handles there. -/
theorem next_answers (reached : (machine env).Reachable s)
    (moved : s.next env step = .ok s')
    (plain : ∀ frame ∈ s.handedOn fd step, isRequest frame = true ∨
      ∀ msg, Answers frame msg → isAnswer msg = false)
    (long : ∀ net, step = .recvMsg fd net →
      ((s.conns.conns fd).receive net).1 ≠ .tooShort)
    {msgs : List Message} (queues : Queues s s' fd msgs) :
    List.Forall₂ Answers ((s.handedOn fd step).toList.filter isRequest)
      (msgs.filter isAnswer) := by
  cases handed : s.handedOn fd step with
  | some frame =>
      obtain ⟨conns, handles, same⟩ := handles_of_handedOn handed
      have known := plain frame handed
      rw [← same] at known ⊢
      obtain ⟨l, queued, answers⟩ := (handles.served moved).answers known
      rw [queues.eq_sentTo (handles.pushed reached fd) queued]
      exact answers
  | none =>
      have silent : msgs.filter isAnswer = [] := by
        apply List.filter_eq_nil_iff.mpr
        intro msg member
        rw [Bool.not_eq_true]
        rcases s.next_served reached moved with
          ⟨target, conns, handles, served⟩ | ⟨_, notices⟩
        · obtain ⟨l, queued, kinds⟩ := served.queued
          rw [queues.eq_sentTo (handles.pushed reached fd) queued] at member
          rcases kinds _ (mem_sentTo.mp member) with own | listed
          · obtain ⟨here, _⟩ := own
            dsimp only at here
            subst here
            rw [handedOn_handles handles] at handed
            cases handed
          · exact isAnswer_other listed
        · cases notices fd msgs queues msg member with
          | unknown type short => exact absurd short (long _ rfl)
          | offline uid => exact isAnswer_other (by simp [Connections.onlineMsg])
      rw [silent]
      exact .nil

end State

end GroupChat.Server
