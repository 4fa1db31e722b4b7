import GroupChat.Lib.Machine
import GroupChat.Server.Handled

namespace GroupChat.Server

/-! The server between two calls of its entry points, and the runs it makes. -/

variable {ω : Type} {env : Env ω}

/-- `hung` is for the record only: the open connections on which `recv_msg` or
`send_msg` has returned false. -/
structure State (ω : Type) where
  conns : Connections ω
  clientFds : Fd → Bool
  hung : Fd → Bool

inductive Step where
  | accept (fd : Fd)
  | recvMsg (fd : Fd) (net : List ReadResult)
  | sendMsg (fd : Fd) (net : List WriteResult)
  | closeConn (fd : Fd)
  deriving DecidableEq, Repr

namespace Connections

/-- A new connection: the records about the descriptor begin anew, and the
program itself does nothing. -/
def accepted (s : Connections ω) (fd : Fd) : Connections ω :=
  { s.setConn fd { s.conns fd with history := {} } with
    logins := Function.update s.logins fd []
    loginMark := Function.update s.loginMark fd 0 }

end Connections

namespace State

def init (db : ω) (size : Nat) : State ω where
  conns := Connections.init db size
  clientFds := fun _ => false
  hung := fun _ => false

/-- What a call on a connection leaves behind. -/
def called (s : State ω) (fd : Fd) (kept : Bool) (conns : Connections ω) :
    State ω :=
  { s with
    conns := conns
    hung := Function.update s.hung fd (s.hung fd || !kept) }

def next (env : Env ω) (s : State ω) : Step → Exec (State ω)
  | .accept fd =>
      .ok { conns := s.conns.accepted fd
            clientFds := Function.update s.clientFds fd true
            hung := Function.update s.hung fd false }
  | .recvMsg fd net => do
      let (kept, conns) ← s.conns.recvMsg env fd net
      .ok (s.called fd kept conns)
  | .sendMsg fd net => do
      let (kept, conns) ← s.conns.sendMsg fd net
      .ok (s.called fd kept conns)
  | .closeConn fd => do
      let conns ← s.conns.closeConn fd
      .ok { conns := conns
            clientFds := Function.update s.clientFds fd false
            hung := Function.update s.hung fd false }

/-- The kernel hands out descriptors that are not in use; every other call is
about an open connection. -/
def Enabled (s : State ω) : Step → Prop
  | .accept fd => fd < s.conns.size ∧ s.clientFds fd = false
  | .recvMsg fd _ => s.clientFds fd = true
  | .sendMsg fd _ => s.clientFds fd = true
  | .closeConn fd => s.clientFds fd = true

instance (s : State ω) : DecidablePred s.Enabled := fun step =>
  match step with
  | .accept fd => inferInstanceAs (Decidable (fd < s.conns.size ∧ _ = _))
  | .recvMsg fd _ => inferInstanceAs (Decidable (s.clientFds fd = true))
  | .sendMsg fd _ => inferInstanceAs (Decidable (s.clientFds fd = true))
  | .closeConn fd => inferInstanceAs (Decidable (s.clientFds fd = true))

/-- After a call has returned false the connection is only closed. -/
def Orderly (s : State ω) : Step → Prop
  | .recvMsg fd _ => s.hung fd = false
  | .sendMsg fd _ => s.hung fd = false
  | _ => True

instance (s : State ω) : DecidablePred s.Orderly := fun step =>
  match step with
  | .accept _ => inferInstanceAs (Decidable True)
  | .recvMsg fd _ => inferInstanceAs (Decidable (s.hung fd = false))
  | .sendMsg fd _ => inferInstanceAs (Decidable (s.hung fd = false))
  | .closeConn _ => inferInstanceAs (Decidable True)

end State

/-- Accepts and calls of the entry points in any order, over any bytes. -/
def machine (env : Env ω) : Machine (State ω) Step where
  initial := fun s => ∃ db size, s = State.init db size
  enabled := State.Enabled
  next := State.next env

/-- The runs in which a connection is given up once a call has returned
false. -/
def orderly (env : Env ω) : Machine (State ω) Step :=
  (machine env).restrict State.Orderly

instance (s : State ω) : DecidablePred ((machine env).enabled s) :=
  inferInstanceAs (DecidablePred s.Enabled)

instance (s : State ω) : DecidablePred ((orderly env).enabled s) :=
  fun step => inferInstanceAs (Decidable (s.Enabled step ∧ s.Orderly step))

/-! One lemma for each entry point. -/

namespace Connections

@[simp] theorem setConn_conns_self (s : Connections ω) (fd : Fd)
    (conn : Conn) : (s.setConn fd conn).conns fd = conn := by
  simp [setConn]

theorem setConn_conns (s : Connections ω) (fd other : Fd) (conn : Conn) :
    (s.setConn fd conn).conns other =
      if other = fd then conn else s.conns other := by
  by_cases same : other = fd
  · subst same
    simp
  · simp [setConn, same]

theorem recvMsg_ok {s s' : Connections ω} {fd : Fd} {net : List ReadResult}
    {kept : Bool} (received : s.recvMsg env fd net = .ok (kept, s')) :
    fd < s.size ∧
      (((s.conns fd).receive net).1 = .closed ∧ kept = false ∧
          s' = s.setConn fd ((s.conns fd).receive net).2 ∨
        ((s.conns fd).receive net).1 = .waiting ∧ kept = true ∧
          s' = s.setConn fd ((s.conns fd).receive net).2 ∨
        ((s.conns fd).receive net).1 = .tooShort ∧ kept = true ∧
          s' = (s.setConn fd ((s.conns fd).receive net).2).parseUnknown fd ∨
        ((s.conns fd).receive net).1 = .complete ∧ kept = true ∧
          (s.setConn fd ((s.conns fd).receive net).2).parse env fd =
            .ok s') := by
  obtain ⟨_, inside, rest⟩ := Exec.of_bind_ok received
  rw [Exec.require_eq_ok] at inside
  refine ⟨inside, ?_⟩
  cases intake : ((s.conns fd).receive net).1 with
  | closed =>
      simp only [intake] at rest
      cases rest
      exact .inl ⟨rfl, rfl, rfl⟩
  | waiting =>
      simp only [intake] at rest
      cases rest
      exact .inr (.inl ⟨rfl, rfl, rfl⟩)
  | tooShort =>
      simp only [intake] at rest
      cases rest
      exact .inr (.inr (.inl ⟨rfl, rfl, rfl⟩))
  | complete =>
      simp only [intake] at rest
      obtain ⟨after, parsed, rest⟩ := Exec.of_bind_ok rest
      cases rest
      exact .inr (.inr (.inr ⟨rfl, rfl, parsed⟩))

theorem recvMsg_handled {s s' : Connections ω} {fd : Fd}
    {net : List ReadResult} {kept : Bool}
    (received : s.recvMsg env fd net = .ok (kept, s')) :
    s' = s.setConn fd ((s.conns fd).receive net).2 ∨
      Handled env (s.setConn fd ((s.conns fd).receive net).2) fd s' := by
  obtain ⟨_, closed | waiting | tooShort | complete⟩ := recvMsg_ok received
  · exact .inl closed.2.2
  · exact .inl waiting.2.2
  · rw [tooShort.2.2]
    exact .inr (.unknown _ fd s.db)
  · exact .inr (parse_handled complete.2.2)

theorem sendMsg_ok {s s' : Connections ω} {fd : Fd} {net : List WriteResult}
    {kept : Bool} (sent : s.sendMsg fd net = .ok (kept, s')) :
    fd < s.size ∧ s.wfds fd = true ∧ ∃ msg outlet conn,
      (s.conns fd).sendQue.head? = some msg ∧
      (s.conns fd).transmit msg net = .ok (outlet, conn) ∧
      kept = decide (outlet ≠ .closed) ∧
      s' = { s.setConn fd conn with
        wfds := if outlet = .popped ∧ conn.sendQue = [] then
          Function.update s.wfds fd false else s.wfds } := by
  obtain ⟨_, inside, rest⟩ := Exec.of_bind_ok sent
  obtain ⟨msg, front, rest⟩ := Exec.of_bind_ok rest
  obtain ⟨_, watched, rest⟩ := Exec.of_bind_ok rest
  obtain ⟨⟨outlet, conn⟩, transmitted, rest⟩ := Exec.of_bind_ok rest
  rw [Exec.require_eq_ok] at inside watched
  rw [Exec.demand_eq_ok] at front
  refine ⟨inside, watched, msg, outlet, conn, front, transmitted, ?_⟩
  cases outlet with
  | closed =>
      cases rest
      exact ⟨rfl, by simp [setConn]⟩
  | waiting =>
      cases rest
      exact ⟨rfl, by simp [setConn]⟩
  | popped =>
      by_cases empty : conn.sendQue = []
      · simp only [empty, if_true] at rest
        cases rest
        exact ⟨rfl, by simp [empty, setConn]⟩
      · simp only [empty, if_false] at rest
        cases rest
        exact ⟨rfl, by simp [empty, setConn]⟩

def closed (s : Connections ω) (fd : Fd) : Connections ω :=
  { s.setConn fd (s.conns fd).reset with
    wfds := Function.update s.wfds fd false }

def unbind (s : Connections ω) (fd : Fd) (uid : Uid) : Connections ω :=
  { s with fdToUid := s.fdToUid.erase fd, uidToFd := s.uidToFd.erase uid }

def farewell (s : Connections ω) (uid : Uid) : List (Fd × Message) :=
  s.fdToUid.entries.map fun entry => (entry.1, onlineMsg uid false)

theorem closeConn_free {s : Connections ω} {fd : Fd} (inside : fd < s.size)
    (free : s.fdToUid.lookup fd = none) :
    s.closeConn fd = .ok (s.closed fd) := by
  simp only [closeConn, Exec.require_of inside, free, Exec.bind_ok]
  rfl

theorem closeConn_bound {s : Connections ω} {fd : Fd} {uid : Uid}
    (inside : fd < s.size) (bound : s.fdToUid.lookup fd = some uid)
    (back : s.uidToFd.lookup uid = some fd)
    (alone : ∀ entry ∈ (s.fdToUid.erase fd).entries, entry.2 ≠ uid) :
    s.closeConn fd = .ok (((s.unbind fd uid).pushes
      ((s.unbind fd uid).farewell uid)).closed fd) := by
  have told : (s.unbind fd uid).pushOnline uid false =
      .ok ((s.unbind fd uid).pushes ((s.unbind fd uid).farewell uid)) :=
    pushOnline_eq.mpr ⟨alone, rfl⟩
  simp only [closeConn, Exec.require_of inside, bound, back,
    Exec.demand_some, Exec.bind_ok, Exec.require_of]
  rw [show ({ s with
    fdToUid := s.fdToUid.erase fd
    uidToFd := s.uidToFd.erase uid } : Connections ω) = s.unbind fd uid
    from rfl, told]
  rfl

theorem closeConn_ok {s s' : Connections ω} {fd : Fd}
    (ended : s.closeConn fd = .ok s') :
    fd < s.size ∧
      (s.fdToUid.lookup fd = none ∧ s' = s.closed fd ∨
        ∃ uid, s.fdToUid.lookup fd = some uid ∧
          s.uidToFd.lookup uid = some fd ∧
          (∀ entry ∈ (s.fdToUid.erase fd).entries, entry.2 ≠ uid) ∧
          s' = ((s.unbind fd uid).pushes
            ((s.unbind fd uid).farewell uid)).closed fd) := by
  obtain ⟨_, inside, rest⟩ := Exec.of_bind_ok ended
  rw [Exec.require_eq_ok] at inside
  refine ⟨inside, ?_⟩
  cases bound : s.fdToUid.lookup fd with
  | none =>
      simp only [bound] at rest
      cases rest
      exact .inl ⟨rfl, rfl⟩
  | some uid =>
      simp only [bound] at rest
      obtain ⟨back, found, rest⟩ := Exec.of_bind_ok rest
      obtain ⟨_, same, rest⟩ := Exec.of_bind_ok rest
      obtain ⟨told, telling, rest⟩ := Exec.of_bind_ok rest
      rw [Exec.demand_eq_ok] at found
      rw [Exec.require_eq_ok] at same
      obtain ⟨alone, rfl⟩ := pushOnline_eq.mp telling
      cases rest
      exact .inr ⟨uid, rfl, same ▸ found, alone, rfl⟩

theorem Handled.size {s s' : Connections ω} {fd : Fd}
    (handled : Handled env s fd s') : s'.size = s.size := by
  cases handled with
  | answer db made => rfl
  | text db exist type kind size read bound => simp
  | file db kind size read bound found => rfl
  | login db verified took free fresh listed =>
      obtain ⟨_, _, _, _, _, _, _, _, _, _, _, _, _, rfl⟩ :=
        pushUserlist_eq listed
      rcases takeover_eq took with ⟨_, _, rfl⟩ | ⟨_, _, _, rfl⟩ |
        ⟨_, _, _, _, _, rfl⟩ <;>
      simp [welcomed, bind, noteLogin, pushShutdown]

end Connections

theorem State.next_size {s s' : State ω} {step : Step}
    (moved : s.next env step = .ok s') : s'.conns.size = s.conns.size := by
  cases step with
  | accept fd =>
      cases moved
      rfl
  | recvMsg fd net =>
      obtain ⟨⟨keep, conns⟩, received, rest⟩ := Exec.of_bind_ok moved
      cases rest
      rcases Connections.recvMsg_handled received with rfl | handled
      · rfl
      · exact handled.size
  | sendMsg fd net =>
      obtain ⟨⟨keep, conns⟩, sent, rest⟩ := Exec.of_bind_ok moved
      cases rest
      obtain ⟨_, _, _, _, _, _, _, _, rfl⟩ := Connections.sendMsg_ok sent
      rfl
  | closeConn fd =>
      obtain ⟨conns, ended, rest⟩ := Exec.of_bind_ok moved
      cases rest
      obtain ⟨_, ⟨_, rfl⟩ | ⟨_, _, _, _, rfl⟩⟩ := Connections.closeConn_ok ended
      · rfl
      · simp [Connections.closed, Connections.setConn, Connections.unbind]

theorem State.next_clientFds {s s' : State ω} {step : Step}
    (moved : s.next env step = .ok s') :
    s'.clientFds = match step with
      | .accept fd => Function.update s.clientFds fd true
      | .closeConn fd => Function.update s.clientFds fd false
      | _ => s.clientFds := by
  cases step with
  | accept fd =>
      cases moved
      rfl
  | recvMsg fd net =>
      obtain ⟨_, _, rest⟩ := Exec.of_bind_ok moved
      cases rest
      rfl
  | sendMsg fd net =>
      obtain ⟨_, _, rest⟩ := Exec.of_bind_ok moved
      cases rest
      rfl
  | closeConn fd =>
      obtain ⟨_, _, rest⟩ := Exec.of_bind_ok moved
      cases rest
      rfl

theorem inside_invariant : (machine env).Invariant fun s =>
    ∀ fd, s.clientFds fd = true → fd < s.conns.size where
  start := by
    rintro _ ⟨db, size, rfl⟩ fd opened
    cases opened
  kept := by
    intro before step after _ inside allowed moved fd opened
    rw [State.next_size moved]
    rw [State.next_clientFds moved] at opened
    cases step with
    | accept other =>
        by_cases same : fd = other
        · rw [same]
          exact allowed.1
        · exact inside fd (by simpa [Function.update_of_ne same] using opened)
    | recvMsg other net => exact inside fd opened
    | sendMsg other net => exact inside fd opened
    | closeConn other =>
        by_cases same : fd = other
        · simp [same] at opened
        · exact inside fd (by simpa [Function.update_of_ne same] using opened)

theorem opened_inside {s : State ω} (reached : (machine env).Reachable s)
    (fd : Fd) (opened : s.clientFds fd = true) : fd < s.conns.size :=
  inside_invariant.holds reached fd opened

end GroupChat.Server
