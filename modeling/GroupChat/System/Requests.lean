import GroupChat.Client.Sending
import GroupChat.Server.Delivery
import GroupChat.Server.Replies
import GroupChat.System.Transfer

namespace GroupChat.System

/-! One connection from its beginning: the client, the server, and the two
streams of bytes between them. -/

open Client
open Server hiding Uid machine Record

variable {ω : Type} {env : Env ω} {host : Host} {fd : Fd}

/-- A message queued on the connection, with the frame of the client's that was
being handled, if any, and the database and the user of the connection as the
step found them. -/
structure Queueing (ω : Type) where
  msg : Message
  origin : Option Message
  world : ω
  user : Option Uid

/-- The server with all its connections, and the client on one of them.
`history` is that of the connection, also after it was closed. -/
structure Session (ω : Type) where
  server : State ω
  client : TcpClient
  current : Bool := true
  history : History := {}
  queued : List (Queueing ω) := []
  taken : List Message := []

inductive Turn where
  | server (step : Step)
  | client (event : Client.Event)

namespace Session

def fresh (s : Session ω) (fd : Fd) (step : Step) (server : State ω) :
    List (Queueing ω) :=
  ((server.conns.conns fd).history.pushed.drop s.history.pushed.length).map
    fun msg => ⟨msg, s.server.handedOn fd step, s.server.conns.db,
      s.server.conns.fdToUid.lookup fd⟩

def served (s : Session ω) (fd : Fd) (step : Step) (server : State ω) :
    Session ω :=
  if s.current = true ∧ step ≠ .closeConn fd then
    { s with
      server := server
      history := (server.conns.conns fd).history
      queued := s.queued ++ s.fresh fd step server }
  else
    { s with server := server, current := false }

def reacted (s : Session ω) (event : Client.Event) (client : TcpClient) :
    Session ω :=
  { s with
    client := client
    taken := match event with
      | .frame _ frame => s.taken ++ [frame]
      | _ => s.taken }

def next (env : Env ω) (host : Host) (fd : Fd) (s : Session ω) :
    Turn → Exec (Session ω)
  | .server step => do
      let server ← s.server.next env step
      .ok (s.served fd step server)
  | .client event => do
      let client ← s.client.next host event
      .ok (s.reacted event client)

/-- The server reads what the client has sent, in its order. -/
def Arrives (s : Session ω) (fd : Fd) : Step → Prop
  | .recvMsg target net => target = fd → s.current = true →
      delivered ((s.server.conns.conns fd).receive net).2.history.reads <+:
        s.client.sent.flatten
  | _ => True

/-- The client reads what the connection has taken, in its order, and connects
no further time. -/
def Reads (s : Session ω) : Client.Event → Prop
  | .connect2Host => False
  | .connectionSuccess => False
  | .frame _ frame =>
      frame.header.length.toNat = sizeofHeader + frame.data.length ∧
        wireOf (s.taken ++ [frame]) <+: s.history.accepted
  | _ => True

def Enabled (s : Session ω) (fd : Fd) : Turn → Prop
  | .server step =>
      s.server.Enabled step ∧ s.server.Orderly step ∧ s.Arrives fd step
  | .client event => s.client.Enabled event ∧ s.Reads event

instance (s : Session ω) (fd : Fd) : DecidablePred (s.Arrives fd) := fun step =>
  match step with
  | .recvMsg _ _ => inferInstanceAs (Decidable (_ = _ → _ = _ → _ <+: _))
  | .accept _ | .sendMsg _ _ | .closeConn _ =>
      inferInstanceAs (Decidable True)

instance (s : Session ω) : DecidablePred s.Reads := fun event =>
  match event with
  | .connect2Host | .connectionSuccess => inferInstanceAs (Decidable False)
  | .frame _ _ => inferInstanceAs (Decidable (_ = _ ∧ _ <+: _))
  | .login _ _ | .sendMessage _ _ | .changePassword _ _ | .sendFile _
  | .setUid _ | .closeConnection => inferInstanceAs (Decidable True)

instance (s : Session ω) (fd : Fd) : DecidablePred (s.Enabled fd) := fun turn =>
  match turn with
  | .server _ => inferInstanceAs (Decidable (_ ∧ _ ∧ _))
  | .client _ => inferInstanceAs (Decidable (_ ∧ _))

/-- The connection was just accepted, and the client has cleared its queue. -/
structure Begins (env : Env ω) (fd : Fd) (s : Session ω) : Prop where
  accepted : ∃ before, (orderly env).Reachable before ∧
    before.Enabled (.accept fd) ∧
    before.next env (.accept fd) = .ok s.server
  isOpen : s.client.isOpen = true
  sent : s.client.sent = []
  queueUid : s.client.queueUid = []
  rest : s = { server := s.server, client := s.client }

end Session

/-- The turns of the server and of the client in any order, with the other
clients of the server. -/
def exchange (env : Env ω) (host : Host) (fd : Fd) :
    Machine (Session ω) Turn where
  initial := Session.Begins env fd
  enabled := fun s turn => s.Enabled fd turn
  next := Session.next env host fd

instance (env : Env ω) (host : Host) (fd : Fd) (s : Session ω) :
    DecidablePred ((exchange env host fd).enabled s) :=
  inferInstanceAs (DecidablePred (s.Enabled fd))

namespace Session

variable {s : Session ω}

theorem served_current {step : Step} {server : State ω}
    (current : s.current = true) (going : step ≠ .closeConn fd) :
    s.served fd step server = { s with
      server := server
      history := (server.conns.conns fd).history
      queued := s.queued ++ s.fresh fd step server } :=
  if_pos ⟨current, going⟩

theorem served_ended {step : Step} {server : State ω}
    (gone : ¬ (s.current = true ∧ step ≠ .closeConn fd)) :
    s.served fd step server =
      { s with server := server, current := false } :=
  if_neg gone

theorem fresh_eq {step : Step} {server : State ω}
    (history : s.history = (s.server.conns.conns fd).history)
    {msgs : List Message} (queues : Queues s.server server fd msgs) :
    s.fresh fd step server = msgs.map fun msg =>
      ⟨msg, s.server.handedOn fd step, s.server.conns.db,
        s.server.conns.fdToUid.lookup fd⟩ := by
  rw [fresh, history, queues, List.drop_left]

/-- The server's side: as long as the connection is current, its history is the
one that is kept. -/
structure Serving (env : Env ω) (fd : Fd) (s : Session ω) : Prop where
  reached : (orderly env).Reachable s.server
  opened : s.current = true → s.server.clientFds fd = true
  history : s.current = true →
    s.history = (s.server.conns.conns fd).history

theorem serving_invariant :
    (exchange env host fd).Invariant (Serving env fd) where
  start := by
    intro s first
    obtain ⟨before, reached, allowed, moved⟩ := first.accepted
    have enabled : (orderly env).enabled before (.accept fd) :=
      ⟨allowed, trivial⟩
    refine ⟨reached.step enabled moved, ?_, ?_⟩
    · intro _
      rw [State.next_clientFds moved]
      exact Function.update_self ..
    · intro _
      have history : s.history = {} := by
        rw [first.rest]
      rw [history, ← Except.ok.inj moved]
      simp [Connections.accepted]
  kept := by
    intro before turn after _ serving allowed moved
    obtain ⟨reached, opened, history⟩ := serving
    cases turn with
    | client event =>
        obtain ⟨client, reacts, rest⟩ := Exec.of_bind_ok moved
        cases rest
        exact ⟨reached, opened, history⟩
    | server step =>
        obtain ⟨server, stepped, rest⟩ := Exec.of_bind_ok moved
        cases rest
        have next := reached.step ⟨allowed.1, allowed.2.1⟩ stepped
        by_cases going : before.current = true ∧ step ≠ .closeConn fd
        · rw [served_current going.1 going.2]
          refine ⟨next, ?_, fun _ => rfl⟩
          intro _
          have was := opened going.1
          rw [State.next_clientFds stepped]
          cases step with
          | accept other =>
              have differs : fd ≠ other := by
                intro same
                have closed := allowed.1.2
                rw [← same, was] at closed
                cases closed
              simpa [Function.update_of_ne differs] using was
          | closeConn other =>
              have differs : fd ≠ other := fun same => going.2 (by rw [same])
              simpa [Function.update_of_ne differs] using was
          | recvMsg _ _ | sendMsg _ _ => exact was
        · rw [served_ended going]
          refine ⟨next, ?_, ?_⟩
          · intro impossible
            cases impossible
          · intro impossible
            cases impossible

/-- The client's side: the frames it has sent and the requests among them, the
answers that were queued to it, and those it has taken. -/
structure Paired (s : Session ω) (frames : List Message)
    (requests : List Request) : Prop where
  sent : s.client.sent = frames.map Message.wire
  framed : ∀ frame ∈ frames, frame.Framed
  plain : ∀ frame ∈ frames, isRequest frame = true ∨
    ∀ msg, Answers frame msg → isAnswer msg = false
  asked : frames.filter isRequest = requests.map Request.frame
  parsed : s.history.parsed <+: frames
  pushed : s.queued.map Queueing.msg = s.history.pushed
  answered : List.Forall₂ (fun frame entry =>
      entry.origin = some frame ∧ Answers frame entry.msg)
    (s.history.parsed.filter isRequest)
    (s.queued.filter fun entry => isAnswer entry.msg)
  delivers : ∃ sent rest part, s.history.Delivers sent rest part
  announced : ∀ frame ∈ s.taken,
    frame.header.length.toNat = sizeofHeader + frame.data.length
  taken : wireOf s.taken <+: s.history.accepted
  queueUid : s.client.isOpen = true → s.client.queueUid =
    (requests.drop (s.taken.countP isAnswer)).map Request.uid

theorem received_of_wire {frame msg : Message} (same : msg.bytes = frame.wire) :
    frame = received msg := by
  obtain ⟨headers, data⟩ := List.append_inj same (by simp)
  rw [← Header.wire_ntohs msg.header] at headers
  have header := Header.wire_injective headers
  rw [received, header, data]

theorem isAnswer_of_wire {frame msg : Message}
    (same : msg.bytes = frame.wire) : isAnswer msg = isAnswer frame := by
  rw [received_of_wire same]
  rfl

theorem filter_getElem? {α : Type} {p : α → Bool} {l : List α} {i : Nat}
    {a : α} (found : l[i]? = some a) (picked : p a = true) :
    (l.filter p)[(l.take i).countP p]? = some a := by
  induction l generalizing i with
  | nil => cases found
  | cons b l induction =>
      cases i with
      | zero =>
          cases found
          rw [List.filter_cons_of_pos picked]
          rfl
      | succ i =>
          have next := induction found
          cases here : p b with
          | true =>
              rw [List.filter_cons_of_pos here, List.take_succ_cons,
                List.countP_cons_of_pos here]
              exact next
          | false =>
              rw [List.filter_cons_of_neg (by simp [here]),
                List.take_succ_cons, List.countP_cons_of_neg (by simp [here])]
              exact next

theorem countP_messages {taken : List Message} {queued : List (Queueing ω)}
    (messages : taken.map Message.wire <+:
      (queued.map Queueing.msg).map Message.bytes) :
    taken.countP isAnswer = (queued.take taken.length).countP
      fun entry => isAnswer entry.msg := by
  obtain ⟨behind, whole⟩ := messages
  induction taken generalizing queued with
  | nil => rfl
  | cons frame taken induction =>
      cases queued with
      | nil => cases whole
      | cons entry queued =>
          obtain ⟨here, next⟩ := List.cons.inj whole
          rw [List.countP_cons, List.length_cons, List.take_succ_cons,
            List.countP_cons, induction next, isAnswer_of_wire here.symm]

namespace Paired

variable {frames : List Message} {requests : List Request}

theorem messages (paired : s.Paired frames requests) {taken : List Message}
    (announced : ∀ frame ∈ taken,
      frame.header.length.toNat = sizeofHeader + frame.data.length)
    (front : wireOf taken <+: s.history.accepted) :
    taken.map Message.wire <+:
      (s.queued.map Queueing.msg).map Message.bytes := by
  obtain ⟨sent, rest, part, delivers⟩ := paired.delivers
  rw [paired.pushed]
  exact delivers.taken announced front

theorem countP_le (paired : s.Paired frames requests) :
    s.taken.countP isAnswer ≤ requests.length := by
  have answers := countP_messages
    (paired.messages paired.announced paired.taken)
  have asked := congrArg List.length paired.asked
  rw [List.length_map, ← List.countP_eq_length_filter] at asked
  have all := paired.answered.length_eq
  rw [← List.countP_eq_length_filter, ← List.countP_eq_length_filter] at all
  calc s.taken.countP isAnswer
      = (s.queued.take s.taken.length).countP
          fun entry => isAnswer entry.msg := answers
    _ ≤ s.queued.countP fun entry => isAnswer entry.msg :=
        (List.take_sublist _ _).countP_le
    _ = s.history.parsed.countP isRequest := all.symm
    _ ≤ frames.countP isRequest := paired.parsed.countP_le
    _ = requests.length := asked

theorem request (paired : s.Paired frames requests) {i : Nat}
    {entry : Queueing ω} (found : s.queued[i]? = some entry)
    (answer : isAnswer entry.msg = true) :
    ∃ request ∈ requests[(s.queued.take i).countP
        fun entry => isAnswer entry.msg]?,
      entry.origin = some request.frame ∧
        Answers request.frame entry.msg := by
  have place := filter_getElem? (p := fun entry : Queueing ω =>
    isAnswer entry.msg) found answer
  generalize (s.queued.take i).countP (fun entry => isAnswer entry.msg) = k
    at place ⊢
  obtain ⟨inside, here⟩ := List.getElem?_eq_some_iff.mp place
  have parsed : k < (s.history.parsed.filter isRequest).length := by
    rw [paired.answered.length_eq]
    exact inside
  obtain ⟨origin, answers⟩ := paired.answered.get parsed inside
  simp only [List.get_eq_getElem, here] at origin answers
  have front : s.history.parsed.filter isRequest <+:
      requests.map Request.frame :=
    paired.asked ▸ paired.parsed.filter isRequest
  have made : k < requests.length := by
    rw [← List.length_map Request.frame]
    exact Nat.lt_of_lt_of_le parsed front.length_le
  have frame := front.getElem parsed
  rw [List.getElem_map] at frame
  refine ⟨requests[k], List.getElem?_eq_getElem made, ?_, ?_⟩
  · rw [origin, frame]
  · rw [← frame]
    exact answers

theorem taking (paired : s.Paired frames requests) {now : Int}
    {frame : Message} (reads : s.Reads (.frame now frame)) :
    ∃ entry : Queueing ω, s.queued[s.taken.length]? = some entry ∧
      entry.msg.bytes = frame.wire := by
  obtain ⟨announced, front⟩ := reads
  have known : ∀ other ∈ s.taken ++ [frame],
      other.header.length.toNat = sizeofHeader + other.data.length := by
    intro other member
    rcases List.mem_append.mp member with before | last
    · exact paired.announced other before
    · rw [List.mem_singleton.mp last]
      exact announced
  have messages := paired.messages known front
  have inside : s.taken.length <
      ((s.taken ++ [frame]).map Message.wire).length := by
    rw [List.length_map, List.length_append]
    exact Nat.lt_succ_self _
  have queued : s.taken.length < s.queued.length := by
    have size := Nat.lt_of_lt_of_le inside messages.length_le
    rwa [List.length_map, List.length_map] at size
  refine ⟨_, List.getElem?_eq_getElem queued, ?_⟩
  have same := messages.getElem inside
  rw [List.getElem_map, List.getElem_map, List.getElem_map,
    List.getElem_concat_length rfl] at same
  exact same.symm

theorem asked_next (paired : s.Paired frames requests)
    {entry : Queueing ω} (next : s.queued[s.taken.length]? = some entry)
    (answer : isAnswer entry.msg = true) :
    ∃ request ∈ requests[s.taken.countP isAnswer]?,
      entry.origin = some request.frame ∧
        Answers request.frame entry.msg := by
  have found := paired.request next answer
  rwa [← countP_messages (paired.messages paired.announced paired.taken)]
    at found

/-- The request at the front of the client's queue is that of the answer which
the client takes next. -/
theorem asked_front (paired : s.Paired frames requests)
    (opened : s.client.isOpen = true) {entry : Queueing ω}
    (next : s.queued[s.taken.length]? = some entry)
    (answer : isAnswer entry.msg = true) :
    ∃ (request : Request) (waiting : List Uid),
      s.client.queueUid = request.uid :: waiting ∧
      entry.origin = some request.frame ∧
      Answers request.frame entry.msg := by
  obtain ⟨request, made, origin, answers⟩ := paired.asked_next next answer
  have queue := paired.queueUid opened
  rw [List.drop_eq_getElem?_toList_append, Option.mem_def.mp made] at queue
  exact ⟨request, _, queue, origin, answers⟩

theorem served (paired : s.Paired frames requests) {step : Step}
    {server : State ω} (serving : Serving env fd s)
    (allowed : s.Enabled fd (.server step))
    (stepped : s.server.next env step = .ok server)
    (after : Serving env fd (s.served fd step server)) :
    (s.served fd step server).Paired frames requests := by
  by_cases going : s.current = true ∧ step ≠ .closeConn fd
  · have enabled : (orderly env).enabled s.server step :=
      ⟨allowed.1, allowed.2.1⟩
    have reached := serving.reached
    have opened := serving.opened going.1
    have history := serving.history going.1
    have stream : ∀ net, step = .recvMsg fd net →
        delivered ((s.server.conns.conns fd).receive net).2.history.reads <+:
          wireOf frames := by
      intro net same
      have arrives := allowed.2.2
      rw [same] at arrives
      have front := arrives rfl going.1
      rw [paired.sent, ← List.flatMap_def] at front
      exact front
    have parsed := paired.parsed
    rw [history] at parsed
    obtain ⟨⟨msgs, queues⟩, records, more⟩ := State.next_records
      reached.of_restrict allowed.1 stepped opened
    obtain ⟨next, long⟩ := State.next_parsed reached enabled stepped opened
      paired.framed parsed stream
    have plain : ∀ frame ∈ s.server.handedOn fd step,
        isRequest frame = true ∨
          ∀ msg, Answers frame msg → isAnswer msg = false := by
      intro frame handed
      apply paired.plain
      apply next.subset
      rw [records, Option.mem_def.mp handed]
      exact List.mem_append_right _ (List.mem_singleton_self frame)
    have answers := State.next_answers reached.of_restrict stepped plain long
      queues
    have fresh := @fresh_eq _ fd s step server history msgs queues
    rw [served_current going.1 going.2] at after ⊢
    refine ⟨paired.sent, paired.framed, paired.plain, paired.asked, next, ?_,
      ?_, ?_, paired.announced, ?_, paired.queueUid⟩
    · dsimp only
      rw [List.map_append, paired.pushed, history, queues, fresh,
        List.map_map]
      exact congrArg _ (List.map_id _)
    · dsimp only
      rw [records, ← history, fresh, List.filter_append, List.filter_append]
      refine List.rel_append paired.answered ?_
      rw [List.filter_map, List.forall₂_map_right_iff]
      have handed : ∀ frame ∈ (s.server.handedOn fd step).toList.filter
          isRequest, s.server.handedOn fd step = some frame := by
        intro frame member
        exact Option.mem_toList.mp (List.mem_of_mem_filter member)
      exact (List.forall₂_and_left _ _).mpr ⟨handed, answers⟩
    · obtain ⟨sent, part, delivers⟩ :=
        delivers_invariant.holds after.reached fd (after.opened going.1)
      exact ⟨sent, _, part, delivers⟩
    · rw [← history] at more
      exact paired.taken.trans more
  · rw [served_ended going]
    exact ⟨paired.sent, paired.framed, paired.plain, paired.asked,
      paired.parsed, paired.pushed, paired.answered, paired.delivers,
      paired.announced, paired.taken, paired.queueUid⟩

theorem called (paired : s.Paired frames requests) {client : TcpClient}
    {made : List Message} (calls : TcpClient.Calls s.client client made) :
    { s with client := client }.Paired (frames ++ made) requests := by
  refine ⟨?_, ?_, ?_, ?_, ?_, paired.pushed, paired.answered,
    paired.delivers, paired.announced, paired.taken, ?_⟩
  · dsimp only
    rw [calls.sent, paired.sent, List.map_append]
  · intro frame member
    rcases List.mem_append.mp member with before | last
    · exact paired.framed frame before
    · exact (calls.framed frame last).1
  · intro frame member
    rcases List.mem_append.mp member with before | last
    · exact paired.plain frame before
    · exact .inr (userTypes_plain (calls.framed frame last).2).2
  · have none : made.filter isRequest = [] := by
      apply List.filter_eq_nil_iff.mpr
      intro frame member
      rw [Bool.not_eq_true]
      exact (userTypes_plain (calls.framed frame member).2).1
    rw [List.filter_append, none, List.append_nil, paired.asked]
  · exact paired.parsed.trans (List.prefix_append _ _)
  · intro opened
    dsimp only at opened ⊢
    rw [calls.queueUid]
    exact paired.queueUid (calls.isOpen opened)

theorem handled (paired : s.Paired frames requests) {client : TcpClient}
    {now : Int} {frame : Message}
    (reads : s.Reads (.frame now frame))
    (parsed : s.client.parseHeader host now frame = .ok client) :
    (s.reacted (.frame now frame) client).Paired
      (frames ++ (s.client.requests frame).map Request.frame)
      (requests ++ s.client.requests frame) := by
  have reacts := TcpClient.parseHeader_reacts parsed
  obtain ⟨announced, front⟩ := reads
  refine ⟨?_, ?_, ?_, ?_, ?_, paired.pushed, paired.answered,
    paired.delivers, ?_, front, ?_⟩
  · dsimp only [reacted]
    rw [reacts.sent, paired.sent, List.map_append, List.map_map]
    rfl
  · intro frame member
    rcases List.mem_append.mp member with before | last
    · exact paired.framed frame before
    · obtain ⟨request, _, rfl⟩ := List.mem_map.mp last
      exact request.frame_framed
  · intro frame member
    rcases List.mem_append.mp member with before | last
    · exact paired.plain frame before
    · obtain ⟨request, _, rfl⟩ := List.mem_map.mp last
      exact .inl request.isRequest_frame
  · have all : ((s.client.requests frame).map Request.frame).filter
        isRequest = (s.client.requests frame).map Request.frame := by
      apply List.filter_eq_self.mpr
      intro frame member
      obtain ⟨request, _, rfl⟩ := List.mem_map.mp member
      exact request.isRequest_frame
    rw [List.filter_append, all, paired.asked, List.map_append]
  · exact paired.parsed.trans (List.prefix_append _ _)
  · intro other member
    rcases List.mem_append.mp member with before | last
    · exact paired.announced other before
    · rw [List.mem_singleton.mp last]
      exact announced
  · intro opened
    have queue := paired.queueUid (reacts.isOpen opened)
    have popped := reacts.queueUid
    have place : (s.reacted (.frame now frame) client).taken =
        s.taken ++ [frame] := rfl
    rw [place, List.countP_append, List.countP_singleton]
    cases answer : isAnswer frame with
    | true =>
        cases success : TcpClient.isReply frame with
        | false =>
            have closed := TcpClient.refused_closes parsed answer success
            exact absurd (opened.symm.trans closed) (by decide)
        | true =>
            rw [success, if_pos rfl, queue] at popped
            obtain ⟨uid, front⟩ := popped
            rw [TcpClient.requests_of_isAnswer answer, List.append_nil,
              if_pos rfl, ← List.drop_drop, List.drop_one, List.map_tail,
              front]
            rfl
    | false =>
        have unlike : TcpClient.isReply frame = false := by
          unfold TcpClient.isReply
          unfold isAnswer at answer
          rw [answer, Bool.false_and]
        rw [unlike, if_neg Bool.false_ne_true, queue] at popped
        rw [if_neg Bool.false_ne_true, Nat.add_zero,
          List.drop_append_of_le_length paired.countP_le, List.map_append]
        exact popped

end Paired

theorem Begins.paired (first : s.Begins env fd) : s.Paired [] [] := by
  obtain ⟨_, opened, sent, queueUid, rest⟩ := first
  rw [rest]
  refine ⟨sent, by simp, by simp, rfl, List.prefix_refl _, rfl, .nil, ?_,
    by simp, List.prefix_refl _, fun _ => queueUid⟩
  exact ⟨[], [], [], rfl, rfl, by simp, .inl rfl⟩

theorem paired_invariant : (exchange env host fd).Invariant fun s =>
    ∃ frames requests, s.Paired frames requests where
  start := fun _ first => ⟨[], [], first.paired⟩
  kept := by
    intro before turn after reached paired allowed moved
    obtain ⟨frames, requests, paired⟩ := paired
    have serving := serving_invariant.holds reached
    have next := serving_invariant.holds (reached.step allowed moved)
    cases turn with
    | server step =>
        obtain ⟨server, stepped, rest⟩ := Exec.of_bind_ok moved
        cases rest
        exact ⟨frames, requests, paired.served serving allowed stepped next⟩
    | client event =>
        obtain ⟨client, reacts, rest⟩ := Exec.of_bind_ok moved
        cases rest
        cases event with
        | frame now frame =>
            exact ⟨_, _, paired.handled allowed.2 reacts⟩
        | connect2Host => exact allowed.2.elim
        | connectionSuccess => exact allowed.2.elim
        | login _ _ | sendMessage _ _ | changePassword _ _ | sendFile _
        | setUid _ | closeConnection =>
            obtain ⟨made, calls⟩ := TcpClient.next_calls reacts
              ⟨by simp, by simp⟩ (by simp)
            exact ⟨_, _, paired.called calls⟩

end Session

/-- When the client handles a successful reply, the front of its queue is the
user of the request whose handling queued that reply. -/
theorem replies_paired (env : Env ω) (host : Host) (fd : Fd) (s : Session ω)
    (reached : (exchange env host fd).Reachable s) (now : Int)
    (frame : Message) (allowed : s.Enabled fd (.client (.frame now frame)))
    (reply : TcpClient.isReply frame = true) :
    ∃ (request : Request) (waiting : List Uid) (entry : Queueing ω),
      s.client.queueUid = request.uid :: waiting ∧
      s.queued[s.taken.length]? = some entry ∧
      entry.msg.bytes = frame.wire ∧
      entry.origin = some request.frame ∧
      frame.header.type = request.frame.header.type ||| 0x80 := by
  obtain ⟨frames, requests, paired⟩ :=
    Session.paired_invariant.holds reached
  obtain ⟨opened, reads⟩ := allowed
  obtain ⟨entry, next, wire⟩ := paired.taking reads
  have answer : isAnswer frame = true := by
    rw [TcpClient.isReply, Bool.and_eq_true] at reply
    exact reply.1
  rw [← Session.isAnswer_of_wire wire] at answer
  obtain ⟨request, waiting, queue, origin, answers⟩ :=
    paired.asked_front opened next answer
  refine ⟨request, waiting, entry, queue, next, wire, origin, ?_⟩
  rw [Session.received_of_wire wire]
  exact answers

def firstSession : Session Tables where
  server :=
    { conns := threeUsers.conns.accepted 4
      clientFds := Function.update threeUsers.clientFds 4 true
      hung := Function.update threeUsers.hung 4 false }
  client := { isOpen := true }

theorem firstSession_initial (host : Host) :
    (exchange Tables.env host 4).initial firstSession where
  accepted := ⟨threeUsers, .initial threeUsers_initial, by decide, rfl⟩
  isOpen := rfl
  sent := rfl
  queueUid := rfl
  rest := rfl

/-- A login, the replies to it, and the requests they lead to, up to the first
name. -/
def loginThenName : List Turn :=
  let sends (len : Nat) : Turn := .server (.sendMsg 4 [.took 4, .took len])
  [.client (.login (.ofText "a") (.ofText "a")),
    .server (.recvMsg 4 (whole (loginFrame "a"))), sends 8, sends 0, sends 8,
    .client (.frame 0 ⟨⟨0x90, 0x00, 12⟩,
      Buffer.ofWord 1 ++ Buffer.ofWord 0⟩),
    .client (.frame 0 ⟨⟨0xA1, 0x00, 4⟩, []⟩),
    .server (.recvMsg 4 (whole (Request.history uidForAll).frame)),
    .client (.frame 0 ⟨⟨0xA1, 0x01, 12⟩,
      Buffer.ofWord 2 ++ Buffer.ofWord 3⟩),
    .server (.recvMsg 4 (whole (Request.name 2).frame)), sends 0, sends 1,
    .client (.frame 0 ⟨⟨0x92, 0x00, 4⟩, []⟩)]

def nameReply : Message := ⟨⟨0x91, 0x00, 5⟩, Buffer.ofText "b"⟩

theorem replies_paired_name : ∃ s,
    (exchange Tables.env Host.latin1 4).Reachable s ∧
    s.client.queueUid = [2, 2, 3, 3] ∧
    ∃ (request : Request) (waiting : List Uid) (entry : Queueing Tables),
      s.client.queueUid = request.uid :: waiting ∧
      s.queued[s.taken.length]? = some entry ∧
      entry.msg.bytes = nameReply.wire ∧
      entry.origin = some request.frame ∧
      nameReply.header.type = request.frame.header.type ||| 0x80 := by
  have replayed : ((exchange Tables.env Host.latin1 4).replay firstSession
      loginThenName).any (fun s => s.client.queueUid = [2, 2, 3, 3] &&
        decide (s.Enabled 4 (.client (.frame 0 nameReply)))) = true := by
    decide +kernel
  obtain ⟨s, reached, holds⟩ :=
    Machine.Reachable.of_replay replayed (firstSession_initial Host.latin1)
  rw [Bool.and_eq_true, decide_eq_true_eq, decide_eq_true_eq] at holds
  exact ⟨s, reached, holds.1, replies_paired Tables.env Host.latin1 4 s reached
    0 nameReply holds.2 rfl⟩

end GroupChat.System
