import GroupChat.Server.Connections

namespace GroupChat.Server

/-! What queueing messages does to the state, and what it leaves alone. -/

namespace Conn

def pushAll (conn : Conn) (msgs : List Message) : Conn :=
  { conn with
    sendQue := conn.sendQue ++ msgs
    history := { conn.history with
      pushed := conn.history.pushed ++ msgs } }

@[simp] theorem pushAll_nil (conn : Conn) : conn.pushAll [] = conn := by
  simp [pushAll]

theorem push_pushAll (conn : Conn) (msg : Message) (msgs : List Message) :
    (conn.push msg).pushAll msgs = conn.pushAll (msg :: msgs) := by
  simp [push, pushAll]

theorem pushAll_pushAll (conn : Conn) (first second : List Message) :
    (conn.pushAll first).pushAll second = conn.pushAll (first ++ second) := by
  simp [pushAll]

@[simp] theorem pushAll_recvingHeader (conn : Conn) (msgs : List Message) :
    (conn.pushAll msgs).recvingHeader = conn.recvingHeader := rfl

@[simp] theorem pushAll_recvLen (conn : Conn) (msgs : List Message) :
    (conn.pushAll msgs).recvLen = conn.recvLen := rfl

@[simp] theorem pushAll_recvMsg (conn : Conn) (msgs : List Message) :
    (conn.pushAll msgs).recvMsg = conn.recvMsg := rfl

@[simp] theorem pushAll_sendingHeader (conn : Conn) (msgs : List Message) :
    (conn.pushAll msgs).sendingHeader = conn.sendingHeader := rfl

@[simp] theorem pushAll_sendLen (conn : Conn) (msgs : List Message) :
    (conn.pushAll msgs).sendLen = conn.sendLen := rfl

@[simp] theorem pushAll_sendQue (conn : Conn) (msgs : List Message) :
    (conn.pushAll msgs).sendQue = conn.sendQue ++ msgs := rfl

@[simp] theorem pushAll_reads (conn : Conn) (msgs : List Message) :
    (conn.pushAll msgs).history.reads = conn.history.reads := rfl

@[simp] theorem pushAll_parsed (conn : Conn) (msgs : List Message) :
    (conn.pushAll msgs).history.parsed = conn.history.parsed := rfl

@[simp] theorem pushAll_writes (conn : Conn) (msgs : List Message) :
    (conn.pushAll msgs).history.writes = conn.history.writes := rfl

@[simp] theorem pushAll_accepted (conn : Conn) (msgs : List Message) :
    (conn.pushAll msgs).history.accepted = conn.history.accepted := rfl

@[simp] theorem pushAll_pushed (conn : Conn) (msgs : List Message) :
    (conn.pushAll msgs).history.pushed = conn.history.pushed ++ msgs := rfl

end Conn

/-- The messages of a list of pushes that go to one connection. -/
def sentTo (fd : Fd) (pushes : List (Fd × Message)) : List Message :=
  (pushes.filter fun push => push.1 = fd).map Prod.snd

@[simp] theorem sentTo_nil (fd : Fd) : sentTo fd [] = [] := rfl

theorem sentTo_cons (fd target : Fd) (msg : Message)
    (pushes : List (Fd × Message)) :
    sentTo fd ((target, msg) :: pushes) =
      if target = fd then msg :: sentTo fd pushes else sentTo fd pushes := by
  unfold sentTo
  by_cases same : target = fd <;> simp [same]

theorem sentTo_append (fd : Fd) (first second : List (Fd × Message)) :
    sentTo fd (first ++ second) = sentTo fd first ++ sentTo fd second := by
  simp [sentTo]

theorem mem_sentTo {fd : Fd} {msg : Message}
    {pushes : List (Fd × Message)} :
    msg ∈ sentTo fd pushes ↔ (fd, msg) ∈ pushes := by
  simp only [sentTo, List.mem_map, List.mem_filter, decide_eq_true_eq]
  constructor
  · rintro ⟨⟨target, other⟩, ⟨member, rfl⟩, rfl⟩
    exact member
  · intro member
    exact ⟨(fd, msg), ⟨member, rfl⟩, rfl⟩

theorem sentTo_eq_nil {fd : Fd} {pushes : List (Fd × Message)}
    (apart : ∀ push ∈ pushes, push.1 ≠ fd) : sentTo fd pushes = [] := by
  apply List.eq_nil_iff_forall_not_mem.mpr
  intro msg member
  exact apart (fd, msg) (mem_sentTo.mp member) rfl

theorem sentTo_keys (fd : Fd) (msg : Message)
    {entries : List (Sigma fun _ : Fd => Uid)} (distinct : entries.NodupKeys) :
    sentTo fd (entries.map fun entry => (entry.1, msg)) =
      if (entries.dlookup fd).isSome then [msg] else [] := by
  induction entries with
  | nil => rfl
  | cons entry entries induction =>
      obtain ⟨fresh, distinct⟩ := List.nodupKeys_cons.mp distinct
      have rest := induction distinct
      rw [List.map_cons, sentTo_cons]
      by_cases same : entry.1 = fd
      · have none : entries.dlookup fd = none :=
          List.dlookup_eq_none.mpr (same ▸ fresh)
        rw [none] at rest
        have found : (List.dlookup fd (entry :: entries)).isSome = true := by
          rw [← same, List.dlookup_cons_eq entries entry.1 entry.2]
          rfl
        rw [if_pos same, rest, if_pos found]
        rfl
      · rw [if_neg same, rest, List.dlookup_cons_ne _ _ (Ne.symm same)]

theorem sentTo_entries (map : FinMap Fd Uid) (fd : Fd) (msg : Message) :
    sentTo fd (map.entries.map fun entry => (entry.1, msg)) =
      if (map.lookup fd).isSome then [msg] else [] :=
  sentTo_keys fd msg map.nodupKeys

namespace Connections

variable {ω : Type}

def pushes (s : Connections ω) : List (Fd × Message) → Connections ω
  | [] => s
  | (fd, msg) :: rest => (s.push fd msg).pushes rest

@[simp] theorem pushes_nil (s : Connections ω) : s.pushes [] = s := rfl

@[simp] theorem pushes_cons (s : Connections ω) (fd : Fd) (msg : Message)
    (rest : List (Fd × Message)) :
    s.pushes ((fd, msg) :: rest) = (s.push fd msg).pushes rest := rfl

@[simp] theorem push_db (s : Connections ω) (fd : Fd) (msg : Message) :
    (s.push fd msg).db = s.db := rfl

@[simp] theorem push_size (s : Connections ω) (fd : Fd) (msg : Message) :
    (s.push fd msg).size = s.size := rfl

@[simp] theorem push_uidToFd (s : Connections ω) (fd : Fd) (msg : Message) :
    (s.push fd msg).uidToFd = s.uidToFd := rfl

@[simp] theorem push_fdToUid (s : Connections ω) (fd : Fd) (msg : Message) :
    (s.push fd msg).fdToUid = s.fdToUid := rfl

@[simp] theorem push_logins (s : Connections ω) (fd : Fd) (msg : Message) :
    (s.push fd msg).logins = s.logins := rfl

@[simp] theorem push_loginMark (s : Connections ω) (fd : Fd) (msg : Message) :
    (s.push fd msg).loginMark = s.loginMark := rfl

theorem push_conns (s : Connections ω) (fd target : Fd) (msg : Message) :
    (s.push target msg).conns fd =
      if target = fd then (s.conns fd).push msg else s.conns fd := by
  by_cases same : target = fd
  · subst same
    simp [push]
  · simp [push, same, Function.update_of_ne (Ne.symm same)]

theorem push_wfds (s : Connections ω) (fd target : Fd) (msg : Message) :
    (s.push target msg).wfds fd =
      if target = fd then true else s.wfds fd := by
  by_cases same : target = fd
  · subst same
    simp [push]
  · simp [push, same, Function.update_of_ne (Ne.symm same)]

theorem pushes_eq (s : Connections ω) (l : List (Fd × Message)) :
    s.pushes l = { s with
      conns := fun fd => (s.conns fd).pushAll (sentTo fd l)
      wfds := fun fd => s.wfds fd || !(sentTo fd l).isEmpty } := by
  induction l generalizing s with
  | nil => simp
  | cons push l induction =>
      obtain ⟨target, msg⟩ := push
      have conns : ∀ fd, ((s.push target msg).conns fd).pushAll (sentTo fd l) =
          (s.conns fd).pushAll (sentTo fd ((target, msg) :: l)) := by
        intro fd
        rw [push_conns, sentTo_cons]
        by_cases same : target = fd
        · simp only [same, if_true, Conn.push_pushAll]
        · simp only [same, if_false]
      have wfds : ∀ fd, ((s.push target msg).wfds fd ||
          !(sentTo fd l).isEmpty) =
          (s.wfds fd || !(sentTo fd ((target, msg) :: l)).isEmpty) := by
        intro fd
        rw [push_wfds, sentTo_cons]
        by_cases same : target = fd
        · simp [same]
        · simp [same]
      rw [pushes_cons, induction]
      simp only [conns, wfds, push_db, push_size, push_uidToFd, push_fdToUid,
        push_logins, push_loginMark]

theorem pushes_conns (s : Connections ω) (l : List (Fd × Message)) (fd : Fd) :
    (s.pushes l).conns fd = (s.conns fd).pushAll (sentTo fd l) := by
  rw [pushes_eq]

theorem pushes_wfds (s : Connections ω) (l : List (Fd × Message)) (fd : Fd) :
    (s.pushes l).wfds fd = (s.wfds fd || !(sentTo fd l).isEmpty) := by
  rw [pushes_eq]

@[simp] theorem pushes_db (s : Connections ω) (l : List (Fd × Message)) :
    (s.pushes l).db = s.db := by
  rw [pushes_eq]

@[simp] theorem pushes_size (s : Connections ω) (l : List (Fd × Message)) :
    (s.pushes l).size = s.size := by
  rw [pushes_eq]

@[simp] theorem pushes_uidToFd (s : Connections ω) (l : List (Fd × Message)) :
    (s.pushes l).uidToFd = s.uidToFd := by
  rw [pushes_eq]

@[simp] theorem pushes_fdToUid (s : Connections ω) (l : List (Fd × Message)) :
    (s.pushes l).fdToUid = s.fdToUid := by
  rw [pushes_eq]

@[simp] theorem pushes_logins (s : Connections ω) (l : List (Fd × Message)) :
    (s.pushes l).logins = s.logins := by
  rw [pushes_eq]

@[simp] theorem pushes_loginMark (s : Connections ω) (l : List (Fd × Message)) :
    (s.pushes l).loginMark = s.loginMark := by
  rw [pushes_eq]

@[simp] theorem push_frame (s : Connections ω) (fd target : Fd)
    (msg : Message) : (s.push target msg).frame fd = s.frame fd := by
  unfold frame
  rw [push_conns]
  split <;> rfl

@[simp] theorem pushes_frame (s : Connections ω) (l : List (Fd × Message))
    (fd : Fd) : (s.pushes l).frame fd = s.frame fd := by
  unfold frame
  rw [pushes_conns, Conn.pushAll_recvMsg]

/-- One state comes from another by queueing messages and, apart from the
connections, in any way. -/
structure Queued (s s' : Connections ω) (l : List (Fd × Message)) : Prop where
  size : s'.size = s.size
  conns : ∀ fd, s'.conns fd = (s.conns fd).pushAll (sentTo fd l)
  wfds : ∀ fd, s'.wfds fd = (s.wfds fd || !(sentTo fd l).isEmpty)

theorem Queued.pushes (s : Connections ω) (l : List (Fd × Message)) :
    Queued s (s.pushes l) l :=
  ⟨pushes_size s l, pushes_conns s l, pushes_wfds s l⟩

theorem Queued.trans {s s' s'' : Connections ω}
    {first second : List (Fd × Message)} (before : Queued s s' first)
    (after : Queued s' s'' second) : Queued s s'' (first ++ second) where
  size := after.size.trans before.size
  conns := fun fd => by
    rw [after.conns, before.conns, Conn.pushAll_pushAll, sentTo_append]
  wfds := fun fd => by
    rw [after.wfds, before.wfds, sentTo_append]
    cases s.wfds fd <;> cases sentTo fd first <;> simp

end Connections

end GroupChat.Server
