import GroupChat.Server.Receiving

namespace GroupChat.Server

/-! What one step does to one connection, and what follows for the queues and
the watched descriptors. -/

variable {ω : Type} {env : Env ω}

namespace Connections

/-- The messages that can be queued, where those forwarded come from the frames
of a source. -/
inductive Made (source : Message → Prop) : Message → Prop
  | answer {msg : Message} (made : Answer msg) : Made source msg
  | welcome {subType : UInt8}
      (code : subType = 0x00 ∨ subType = 0x01 ∨ subType = 0x02) (uid : Uid)
      (primaryColor : Int) : Made source (loginMsg subType uid primaryColor)
  | list {subType : UInt8} (kind : subType = 0x00 ∨ subType = 0x01)
      (len bytes : Nat) (uids : List Uid) :
      Made source (listMsg subType len bytes uids)
  | shutdown : Made source shutdownMsg
  | online (uid : Uid) (online : Bool) : Made source (onlineMsg uid online)
  | forward {frame msg : Message} (origin : source frame)
      (made : Forwarded frame msg) : Made source msg

theorem Made.mono {source source' : Message → Prop} {msg : Message}
    (made : Made source msg) (wider : ∀ frame, source frame → source' frame) :
    Made source' msg := by
  cases made with
  | answer made => exact .answer made
  | welcome code uid primaryColor => exact .welcome code uid primaryColor
  | list kind len bytes uids => exact .list kind len bytes uids
  | shutdown => exact .shutdown
  | online uid online => exact .online uid online
  | forward origin made => exact .forward (wider _ origin) made

theorem Emits.made {s : Connections ω} {fd target : Fd} {msg : Message}
    {source : Message → Prop} (emits : Emits s fd target msg)
    (origin : source (s.frame fd)) : Made source msg := by
  cases emits with
  | answer made => exact .answer made
  | welcome code uid primaryColor => exact .welcome code uid primaryColor
  | list kind len bytes uids => exact .list kind len bytes uids
  | shutdown bound => exact .shutdown
  | online bound other => exact .online other true
  | forward bound made => exact .forward origin made

theorem Emits.target {s : Connections ω} {fd target : Fd} {msg : Message}
    (emits : Emits s fd target msg) :
    target = fd ∨ ∃ uid, s.fdToUid.lookup target = some uid := by
  cases emits with
  | answer made => exact .inl rfl
  | welcome code uid primaryColor => exact .inl rfl
  | list kind len bytes uids => exact .inl rfl
  | shutdown bound => exact .inr ⟨_, bound⟩
  | online bound other => exact .inr ⟨_, bound⟩
  | forward bound made => exact .inr ⟨_, bound⟩

/-- The frame a call of `recv_msg` hands over. -/
def Handed (s : Connections ω) (fd : Fd) (net : List ReadResult)
    (frame : Message) : Prop :=
  ((s.conns fd).receive net).1 = .complete ∧
    frame = ((s.conns fd).receive net).2.recvMsg

theorem recvMsg_emits {s s' : Connections ω} {fd : Fd}
    {net : List ReadResult} {kept : Bool}
    (inverse : FinMap.Inverse s.fdToUid s.uidToFd)
    (received : s.recvMsg env fd net = .ok (kept, s')) :
    ∃ l, Queued (s.setConn fd ((s.conns fd).receive net).2) s' l ∧
      ∀ push ∈ l, Emits (s.setConn fd ((s.conns fd).receive net).2) fd
        push.1 push.2 ∧ Made (s.Handed fd net) push.2 := by
  obtain ⟨_, closed | waiting | tooShort | complete⟩ := recvMsg_ok received
  · rw [closed.2.2]
    exact ⟨[], Queued.pushes _ [], by simp⟩
  · rw [waiting.2.2]
    exact ⟨[], Queued.pushes _ [], by simp⟩
  · rw [tooShort.2.2]
    refine ⟨_, Queued.of_push _ s.db fd _, ?_⟩
    intro push member
    rw [List.mem_singleton.mp member]
    exact ⟨.answer (.unknown _), .answer (.unknown _)⟩
  · obtain ⟨l, queued, emits⟩ := (parse_handled complete.2.2).emits inverse
    refine ⟨l, queued, ?_⟩
    intro push member
    refine ⟨emits push member, (emits push member).made ⟨complete.1, ?_⟩⟩
    rw [frame, setConn_conns_self]

theorem recvMsg_kept {s s' : Connections ω} {fd : Fd} {net : List ReadResult}
    {kept : Bool} (received : s.recvMsg env fd net = .ok (kept, s')) :
    kept = decide (((s.conns fd).receive net).1 ≠ .closed) := by
  obtain ⟨_, closed | waiting | tooShort | complete⟩ := recvMsg_ok received
  · simp [closed.1, closed.2.1]
  · simp [waiting.1, waiting.2.1]
  · simp [tooShort.1, tooShort.2.1]
  · simp [complete.1, complete.2.1]

theorem farewell_unbound {s : Connections ω} {fd : Fd}
    (free : s.fdToUid.lookup fd = none) (uid : Uid) :
    sentTo fd (s.farewell uid) = [] := by
  rw [farewell, sentTo_entries, free]
  rfl

theorem mem_farewell {s : Connections ω} {uid : Uid} {fd : Fd} {msg : Message}
    (member : msg ∈ sentTo fd (s.farewell uid)) :
    msg = onlineMsg uid false ∧ ∃ other, s.fdToUid.lookup fd = some other := by
  obtain ⟨entry, present, sent⟩ := List.mem_map.mp (mem_sentTo.mp member)
  obtain ⟨rfl, rfl⟩ := Prod.mk.inj sent
  exact ⟨rfl, entry.2, FinMap.mem_entries.mp present⟩

end Connections

def Step.fd : Step → Fd
  | .accept fd => fd
  | .recvMsg fd _ => fd
  | .sendMsg fd _ => fd
  | .closeConn fd => fd

def State.Handed (s : State ω) (step : Step) (frame : Message) : Prop :=
  ∃ fd net, step = .recvMsg fd net ∧ s.conns.Handed fd net frame

open Connections in
/-- What one step does to one connection. -/
inductive Moves (s s' : State ω) (fd : Fd) : Step → Prop
  | accept (closed : s.clientFds fd = false)
      (opened : s'.clientFds fd = true)
      (conn : s'.conns.conns fd = { s.conns.conns fd with history := {} })
      (wfds : s'.conns.wfds fd = s.conns.wfds fd)
      (hung : s'.hung fd = false) : Moves s s' fd (.accept fd)
  | recvMsg {net : List ReadResult} {l : List Message}
      (opened : s.clientFds fd = true)
      (clientFds : s'.clientFds fd = s.clientFds fd)
      (conn : s'.conns.conns fd =
        ((s.conns.conns fd).receive net).2.pushAll l)
      (made : ∀ msg ∈ l, Made (s.Handed (.recvMsg fd net)) msg)
      (wfds : s'.conns.wfds fd = (s.conns.wfds fd || !l.isEmpty))
      (hung : s'.hung fd = (s.hung fd ||
        ((s.conns.conns fd).receive net).1 = .closed)) :
      Moves s s' fd (.recvMsg fd net)
  | sendMsg {net : List WriteResult} {msg : Message} {outlet : Outlet}
      {after : Conn} (opened : s.clientFds fd = true)
      (clientFds : s'.clientFds fd = s.clientFds fd)
      (front : (s.conns.conns fd).sendQue.head? = some msg)
      (sent : (s.conns.conns fd).transmit msg net = .ok (outlet, after))
      (conn : s'.conns.conns fd = after)
      (wfds : s'.conns.wfds fd = if outlet = .popped ∧ after.sendQue = [] then
        false else s.conns.wfds fd)
      (hung : s'.hung fd = (s.hung fd || outlet = .closed)) :
      Moves s s' fd (.sendMsg fd net)
  | closeConn (closed : s'.clientFds fd = false)
      (conn : s'.conns.conns fd = (s.conns.conns fd).reset)
      (wfds : s'.conns.wfds fd = false)
      (hung : s'.hung fd = false) : Moves s s' fd (.closeConn fd)
  | other {step : Step} {l : List Message} (elsewhere : step.fd ≠ fd)
      (clientFds : s'.clientFds fd = s.clientFds fd)
      (opened : l ≠ [] → s.clientFds fd = true)
      (conn : s'.conns.conns fd = (s.conns.conns fd).pushAll l)
      (made : ∀ msg ∈ l, Made (s.Handed step) msg)
      (wfds : s'.conns.wfds fd = (s.conns.wfds fd || !l.isEmpty))
      (hung : s'.hung fd = s.hung fd) : Moves s s' fd step

theorem Moves.still {s s' : State ω} {fd : Fd} {step : Step}
    (elsewhere : step.fd ≠ fd) (clientFds : s'.clientFds fd = s.clientFds fd)
    (conn : s'.conns.conns fd = s.conns.conns fd)
    (wfds : s'.conns.wfds fd = s.conns.wfds fd)
    (hung : s'.hung fd = s.hung fd) : Moves s s' fd step := by
  refine @Moves.other _ s s' fd step [] elsewhere clientFds (by simp) ?_
    (by simp) ?_ hung
  · simpa using conn
  · simpa using wfds

namespace State

open Connections

variable {s s' : State ω}

theorem accept_moves {target : Fd} (allowed : s.Enabled (.accept target))
    (moved : s.next env (.accept target) = .ok s') (fd : Fd) :
    Moves s s' fd (.accept target) := by
  cases moved
  by_cases same : fd = target
  · subst same
    exact .accept allowed.2 (by simp) (by simp [accepted]) rfl (by simp)
  · refine .still (Ne.symm same) ?_ ?_ rfl ?_
    · simp [same]
    · simp [accepted, setConn, same]
    · simp [same]

theorem recvMsg_moves (kept : SessionsKept s) {target : Fd}
    {net : List ReadResult} (allowed : s.Enabled (.recvMsg target net))
    (moved : s.next env (.recvMsg target net) = .ok s') (fd : Fd) :
    Moves s s' fd (.recvMsg target net) := by
  obtain ⟨⟨keep, conns⟩, received, rest⟩ := Exec.of_bind_ok moved
  cases rest
  obtain ⟨l, queued, emits⟩ := recvMsg_emits kept.inverse received
  have keepEq := recvMsg_kept received
  have made : ∀ msg ∈ sentTo fd l,
      Made (s.Handed (.recvMsg target net)) msg := fun msg member =>
    (emits (fd, msg) (mem_sentTo.mp member)).2.mono
      fun frame handed => ⟨target, net, rfl, handed⟩
  by_cases same : fd = target
  · subst same
    refine .recvMsg allowed rfl ?_ made ?_ ?_
    · have shape := queued.conns fd
      rw [setConn_conns_self] at shape
      exact shape
    · exact queued.wfds fd
    · simp only [called, Function.update_self, keepEq]
      simp
  · refine .other (Ne.symm same) rfl ?_ ?_ made ?_ ?_
    · intro some
      obtain ⟨msg, member⟩ := List.exists_mem_of_ne_nil _ some
      rcases (emits (fd, msg) (mem_sentTo.mp member)).1.target with
        impossible | ⟨uid, bound⟩
      · exact absurd impossible same
      · exact kept.opened fd uid bound
    · have shape := queued.conns fd
      rw [setConn_conns, if_neg same] at shape
      exact shape
    · exact queued.wfds fd
    · simp [called, same]

theorem sendMsg_moves {target : Fd} {net : List WriteResult}
    (allowed : s.Enabled (.sendMsg target net))
    (moved : s.next env (.sendMsg target net) = .ok s') (fd : Fd) :
    Moves s s' fd (.sendMsg target net) := by
  obtain ⟨⟨keep, conns⟩, sent, rest⟩ := Exec.of_bind_ok moved
  cases rest
  obtain ⟨_, watched, msg, outlet, conn, front, transmitted, keepEq, rfl⟩ :=
    sendMsg_ok sent
  by_cases same : fd = target
  · subst same
    refine .sendMsg allowed rfl front transmitted (by simp [called]) ?_ ?_
    · simp only [called]
      split <;> simp [*]
    · simp [called, keepEq]
  · refine .still (Ne.symm same) rfl ?_ ?_ ?_
    · simp [called, setConn, same]
    · simp only [called]
      split <;> simp [same]
    · simp [called, same]

theorem closeConn_moves (kept : SessionsKept s) {target : Fd}
    (moved : s.next env (.closeConn target) = .ok s') (fd : Fd) :
    Moves s s' fd (.closeConn target) := by
  obtain ⟨conns, ended, rest⟩ := Exec.of_bind_ok moved
  cases rest
  obtain ⟨_, ⟨_, rfl⟩ | ⟨uid, bound, back, alone, rfl⟩⟩ := closeConn_ok ended
  · by_cases same : fd = target
    · subst same
      exact .closeConn (by simp) (by simp [closed]) (by simp [closed])
        (by simp)
    · refine .still (Ne.symm same) ?_ ?_ ?_ ?_
      · simp [same]
      · simp [closed, setConn, same]
      · simp [closed, same]
      · simp [same]
  · have queued := Queued.pushes (s.conns.unbind target uid)
      ((s.conns.unbind target uid).farewell uid)
    by_cases same : fd = target
    · subst same
      have none : sentTo fd ((s.conns.unbind fd uid).farewell uid) = [] :=
        farewell_unbound (AList.lookup_erase fd s.conns.fdToUid) uid
      refine .closeConn (by simp) ?_ (by simp [closed]) (by simp)
      simp only [closed, setConn_conns_self, queued.conns, none]
      simp [unbind]
    · refine @Moves.other _ s _ fd _
        (sentTo fd ((s.conns.unbind target uid).farewell uid))
        (Ne.symm same) (by simp [same]) ?_ ?_ ?_ ?_ (by simp [same])
      · intro some
        obtain ⟨msg, member⟩ := List.exists_mem_of_ne_nil _ some
        obtain ⟨_, other, stored⟩ := mem_farewell member
        simp only [unbind, FinMap.lookup_erase_eq, same, if_false] at stored
        exact kept.opened fd other stored
      · simpa [closed, setConn, same, unbind] using queued.conns fd
      · intro msg member
        rw [(mem_farewell member).1]
        exact .online uid false
      · simpa [closed, same, unbind] using queued.wfds fd

theorem moves (kept : SessionsKept s) {step : Step}
    (allowed : s.Enabled step) (moved : s.next env step = .ok s') (fd : Fd) :
    Moves s s' fd step := by
  cases step with
  | accept target => exact accept_moves allowed moved fd
  | recvMsg target net => exact recvMsg_moves kept allowed moved fd
  | sendMsg target net => exact sendMsg_moves allowed moved fd
  | closeConn target => exact closeConn_moves kept moved fd

end State

end GroupChat.Server
