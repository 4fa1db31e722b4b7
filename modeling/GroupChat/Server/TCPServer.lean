import GroupChat.Server.Closing

namespace GroupChat.Server

/-! The event loop.  Each step of it is one call to the kernel or to
`Connections`, or the passing over of a descriptor that is not ready. -/

variable {ω : Type} {env : Env ω}

def fdSetsize : Nat := 1024

structure TCPServer (ω : Type) where
  listenFd : Fd
  maxFd : Fd
  numFd : Int
  clientFds : Fd → Bool
  conns : Connections ω

namespace TCPServer

def init (db : ω) (listenFd : Fd) : TCPServer ω where
  listenFd := listenFd
  maxFd := listenFd
  numFd := listenFd + 1
  clientFds := fun _ => false
  conns := Connections.init db fdSetsize

def addClient (s : TCPServer ω) (cfd : Fd) : TCPServer ω :=
  { s with
    maxFd := max s.maxFd cfd
    clientFds := Function.update s.clientFds cfd true
    numFd := s.numFd + 1
    conns := s.conns.accepted cfd }

def closeSock (s : TCPServer ω) (fd : Fd) : Exec (TCPServer ω) := do
  let conns ← s.conns.closeConn fd
  .ok { s with
    clientFds := Function.update s.clientFds fd false
    numFd := s.numFd - 1
    conns := conns }

def readSock (env : Env ω) (s : TCPServer ω) (fd : Fd)
    (net : List ReadResult) : Exec (Bool × TCPServer ω) := do
  let (res, conns) ← s.conns.recvMsg env fd net
  if res then
    .ok (true, { s with conns := conns })
  else do
    let s ← closeSock { s with conns := conns } fd
    .ok (false, s)

def writeSock (s : TCPServer ω) (fd : Fd) (net : List WriteResult) :
    Exec (TCPServer ω) := do
  let (res, conns) ← s.conns.sendMsg fd net
  if res then
    .ok { s with conns := conns }
  else
    closeSock { s with conns := conns } fd

end TCPServer

/-- Where the loop is: before `select`, or at a descriptor before or after it
was tested for reading, with what `select` left of the two sets. -/
inductive Phase where
  | select
  | read (fd : Fd) (rfds wfds : List Fd)
  | write (fd : Fd) (rfds wfds : List Fd)

/-- The state of `TCPServer::loop`. -/
structure Loop (ω : Type) where
  server : TCPServer ω
  phase : Phase

/-- What the loop meets next: the answer of the kernel to its call, or no call
at all. -/
inductive Event where
  | ready (rfds wfds : List Fd)
  | accepted (cfd : Option Fd)
  | received (net : List ReadResult)
  | sent (net : List WriteResult)
  | pass

namespace Loop

def next (env : Env ω) (l : Loop ω) (event : Event) : Exec (Loop ω) :=
  match l.phase, event with
  | .select, .ready rfds wfds =>
      .ok { l with phase := .read l.server.listenFd rfds wfds }
  | .read _ _ _, .accepted (some cfd) =>
      .ok { l with server := l.server.addClient cfd }
  | .read fd rfds wfds, .accepted none =>
      .ok { l with phase := .write fd rfds wfds }
  | .read fd rfds wfds, .received net => do
      let (res, server) ← l.server.readSock env fd net
      if res then
        .ok ⟨server, .write fd rfds wfds⟩
      else
        .ok ⟨server, .read (fd + 1) rfds wfds⟩
  | .read fd rfds wfds, .pass =>
      if l.server.maxFd < fd then
        .ok { l with phase := .select }
      else
        .ok { l with phase := .write fd rfds wfds }
  | .write fd rfds wfds, .sent net => do
      let server ← l.server.writeSock fd net
      .ok ⟨server, .read (fd + 1) rfds wfds⟩
  | .write fd rfds wfds, .pass =>
      .ok { l with phase := .read (fd + 1) rfds wfds }
  | _, _ => .ok l

/-- The descriptors `select` is asked about for reading. -/
def watched (s : TCPServer ω) (fd : Fd) : Bool :=
  s.clientFds fd || (s.numFd < fdSetsize && fd = s.listenFd)

/-- `select` leaves a part of the sets, and `accept` returns a descriptor in
range that is not in use; of the lowest one nothing more is needed. -/
def Enabled (l : Loop ω) (event : Event) : Prop :=
  match l.phase, event with
  | .select, .ready rfds wfds =>
      (∀ fd ∈ rfds, watched l.server fd = true) ∧
        ∀ fd ∈ wfds, l.server.conns.wfds fd = true
  | .read fd rfds _, .accepted cfd =>
      fd ≤ l.server.maxFd ∧ fd ∈ rfds ∧ fd = l.server.listenFd ∧
        l.server.numFd < fdSetsize ∧ ∀ new ∈ cfd,
          l.server.clientFds new = false ∧ l.server.listenFd < new ∧
            new < fdSetsize
  | .read fd rfds _, .received _ =>
      fd ≤ l.server.maxFd ∧ fd ∈ rfds ∧ fd ≠ l.server.listenFd
  | .read fd rfds _, .pass =>
      l.server.maxFd < fd ∨ fd ∉ rfds ∨
        fd = l.server.listenFd ∧ fdSetsize ≤ l.server.numFd
  | .write fd _ wfds, .sent _ => fd ∈ wfds
  | .write fd _ wfds, .pass => fd ∉ wfds
  | _, _ => False

instance (l : Loop ω) : DecidablePred l.Enabled := fun event =>
  match l, event with
  | ⟨_, .select⟩, .ready _ _ => inferInstanceAs (Decidable (_ ∧ _))
  | ⟨_, .read _ _ _⟩, .accepted _ => inferInstanceAs (Decidable
      (_ ∧ _ ∧ _ ∧ _ ∧ ∀ new ∈ _, _ ∧ _ ∧ _))
  | ⟨_, .read _ _ _⟩, .received _ => inferInstanceAs (Decidable (_ ∧ _ ∧ _))
  | ⟨_, .read _ _ _⟩, .pass => inferInstanceAs (Decidable (_ ∨ _ ∨ _ ∧ _))
  | ⟨_, .write _ _ _⟩, .sent _ => inferInstanceAs (Decidable (_ ∈ _))
  | ⟨_, .write _ _ _⟩, .pass => inferInstanceAs (Decidable (_ ∉ _))
  | ⟨_, .select⟩, .accepted _ => inferInstanceAs (Decidable False)
  | ⟨_, .select⟩, .received _ => inferInstanceAs (Decidable False)
  | ⟨_, .select⟩, .sent _ => inferInstanceAs (Decidable False)
  | ⟨_, .select⟩, .pass => inferInstanceAs (Decidable False)
  | ⟨_, .read _ _ _⟩, .ready _ _ => inferInstanceAs (Decidable False)
  | ⟨_, .read _ _ _⟩, .sent _ => inferInstanceAs (Decidable False)
  | ⟨_, .write _ _ _⟩, .ready _ _ => inferInstanceAs (Decidable False)
  | ⟨_, .write _ _ _⟩, .accepted _ => inferInstanceAs (Decidable False)
  | ⟨_, .write _ _ _⟩, .received _ => inferInstanceAs (Decidable False)

end Loop

def eventLoop (env : Env ω) : Machine (Loop ω) Event where
  initial := fun l => ∃ db listenFd, l = ⟨.init db listenFd, .select⟩
  enabled := Loop.Enabled
  next := Loop.next env

instance (l : Loop ω) : DecidablePred ((eventLoop env).enabled l) :=
  inferInstanceAs (DecidablePred l.Enabled)

/-- The server of the loop as a state of the entry points. -/
def TCPServer.state (s : TCPServer ω) : State ω where
  conns := s.conns
  clientFds := s.clientFds
  hung := fun _ => false

/-! Each step of the loop is made of steps of the entry points. -/

theorem update_calm (fd : Fd) :
    Function.update (fun _ : Fd => false) fd false = fun _ => false :=
  Function.update_eq_self fd _

namespace TCPServer

variable {s s' : TCPServer ω}

theorem addClient_next (env : Env ω) (s : TCPServer ω) (cfd : Fd) :
    s.state.next env (.accept cfd) = .ok (s.addClient cfd).state := by
  simp only [State.next, state, addClient, update_calm]

/-- Two states of the server that differ only in what the entry points and the
kernel changed. -/
structure Same (s s' : TCPServer ω) : Prop where
  listenFd : s'.listenFd = s.listenFd
  maxFd : s'.maxFd = s.maxFd

/-- A call on a connection that goes on, or that is followed by its closing. -/
def Calls (env : Env ω) (s s' : TCPServer ω) (fd : Fd) (step : Step)
    (kept : Bool) : Prop :=
  kept = true ∧ s.state.next env step = .ok s'.state ∨
    kept = false ∧ ∃ middle, s.state.next env step = .ok middle ∧
      middle.hung fd = true ∧
      middle.next env (.closeConn fd) = .ok s'.state

theorem closeSock_next (env : Env ω) {conns : Connections ω} {fd : Fd}
    (closed : closeSock { s with conns := conns } fd = .ok s') :
    Same s s' ∧ (s.state.called fd false conns).next env (.closeConn fd) =
      .ok s'.state := by
  obtain ⟨after, ended, rest⟩ := Exec.of_bind_ok closed
  cases rest
  refine ⟨⟨rfl, rfl⟩, ?_⟩
  simp only at ended
  simp only [State.next, State.called, ended, Exec.bind_ok, state]
  simp only [Function.update_idem, update_calm]

theorem readSock_calls {fd : Fd} {net : List ReadResult} {res : Bool}
    (read : s.readSock env fd net = .ok (res, s')) :
    Same s s' ∧ Calls env s s' fd (.recvMsg fd net) res := by
  obtain ⟨⟨kept, conns⟩, received, rest⟩ := Exec.of_bind_ok read
  have stepped : s.state.next env (.recvMsg fd net) =
      .ok (s.state.called fd kept conns) := by
    have same : s.state.conns = s.conns := rfl
    simp only [State.next, same, received, Exec.bind_ok]
  cases kept with
  | true =>
      cases rest
      refine ⟨⟨rfl, rfl⟩, .inl ⟨rfl, stepped.trans ?_⟩⟩
      simp [State.called, state]
  | false =>
      obtain ⟨after, closed, rest⟩ := Exec.of_bind_ok rest
      cases rest
      obtain ⟨same, ended⟩ := closeSock_next env closed
      exact ⟨same, .inr ⟨rfl, _, stepped, by simp [State.called], ended⟩⟩

theorem writeSock_calls (env : Env ω) {fd : Fd} {net : List WriteResult}
    (written : s.writeSock fd net = .ok s') :
    Same s s' ∧ ∃ res, Calls env s s' fd (.sendMsg fd net) res := by
  obtain ⟨⟨kept, conns⟩, sent, rest⟩ := Exec.of_bind_ok written
  have stepped : s.state.next env (.sendMsg fd net) =
      .ok (s.state.called fd kept conns) := by
    have same : s.state.conns = s.conns := rfl
    simp only [State.next, same, sent, Exec.bind_ok]
  cases kept with
  | true =>
      cases rest
      refine ⟨⟨rfl, rfl⟩, true, .inl ⟨rfl, stepped.trans ?_⟩⟩
      simp [State.called, state]
  | false =>
      obtain ⟨same, ended⟩ := closeSock_next env rest
      exact ⟨same, false, .inr ⟨rfl, _, stepped, by simp [State.called],
        ended⟩⟩

/-- What a step about another connection leaves of this one. -/
structure Stays (s s' : State ω) (fd : Fd) : Prop where
  clientFds : s'.clientFds fd = s.clientFds fd
  queued : (s.conns.conns fd).sendQue ≠ [] →
    (s'.conns.conns fd).sendQue ≠ []

theorem Stays.trans {first second third : State ω} {fd : Fd}
    (before : Stays first second fd) (after : Stays second third fd) :
    Stays first third fd :=
  ⟨after.clientFds.trans before.clientFds, after.queued ∘ before.queued⟩

theorem Stays.of_moves {before after : State ω} {fd : Fd} {step : Step}
    (moves : Moves before after fd step) (elsewhere : step.fd ≠ fd) :
    Stays before after fd := by
  cases moves with
  | accept closed opened conn wfds hung => exact absurd rfl elsewhere
  | recvMsg opened clientFds conn made wfds hung => exact absurd rfl elsewhere
  | sendMsg opened clientFds front sent conn wfds hung =>
      exact absurd rfl elsewhere
  | closeConn closed conn wfds hung => exact absurd rfl elsewhere
  | @other _ l _ clientFds opened conn made wfds hung =>
      refine ⟨clientFds, fun queued => ?_⟩
      rw [conn, Conn.pushAll_sendQue]
      exact List.append_ne_nil_of_left_ne_nil queued _

theorem Stays.of_recvMsg {before after : State ω} {fd : Fd}
    {net : List ReadResult} (reached : (machine env).Reachable before)
    (allowed : before.Enabled (.recvMsg fd net))
    (moved : before.next env (.recvMsg fd net) = .ok after) :
    Stays before after fd := by
  cases State.moves (sessions_invariant.holds reached) allowed moved fd with
  | @recvMsg _ l opened clientFds conn made wfds hung =>
      obtain ⟨_, received⟩ := Conn.receive_received net
        (queues_invariant.holds reached fd).receiving
      refine ⟨clientFds, fun queued => ?_⟩
      rw [conn, Conn.pushAll_sendQue, received.same.sendQue]
      exact List.append_ne_nil_of_left_ne_nil queued _
  | other elsewhere => exact absurd rfl elsewhere

/-- The steps that call an entry point on a connection. -/
inductive IsCall (fd : Fd) : Step → Prop
  | recvMsg (net : List ReadResult) : IsCall fd (.recvMsg fd net)
  | sendMsg (net : List WriteResult) : IsCall fd (.sendMsg fd net)

section Calls

variable {fd : Fd} {step : Step} {kept : Bool}

theorem IsCall.allowed (call : IsCall fd step)
    (opened : s.clientFds fd = true) :
    s.state.Enabled step ∧ s.state.Orderly step ∧ step.fd = fd := by
  cases call with
  | recvMsg net => exact ⟨opened, rfl, rfl⟩
  | sendMsg net => exact ⟨opened, rfl, rfl⟩

theorem IsCall.clientFds (call : IsCall fd step) {before after : State ω}
    (moved : before.next env step = .ok after) :
    after.clientFds = before.clientFds := by
  have shape := State.next_clientFds moved
  cases call with
  | recvMsg net => exact shape
  | sendMsg net => exact shape

theorem IsCall.closable (call : IsCall fd step)
    (opened : s.clientFds fd = true) {middle : State ω}
    (moved : s.state.next env step = .ok middle) :
    middle.Enabled (.closeConn fd) := by
  have same := congrFun (call.clientFds moved) fd
  exact same.trans opened

theorem Calls.reached (calls : Calls env s s' fd step kept)
    (call : IsCall fd step) (reached : (orderly env).Reachable s.state)
    (opened : s.clientFds fd = true) : (orderly env).Reachable s'.state := by
  obtain ⟨allowed, upright, _⟩ := call.allowed opened
  rcases calls with ⟨_, moved⟩ | ⟨_, middle, moved, _, ended⟩
  · exact .step reached ⟨allowed, upright⟩ moved
  · have between : (orderly env).Reachable middle :=
      .step reached ⟨allowed, upright⟩ moved
    have closable : (orderly env).enabled middle (.closeConn fd) :=
      ⟨call.closable opened moved, trivial⟩
    exact .step between closable ended

theorem Calls.stays (calls : Calls env s s' fd step kept)
    (call : IsCall fd step) (reached : (orderly env).Reachable s.state)
    (opened : s.clientFds fd = true) {other : Fd} (elsewhere : fd ≠ other) :
    Stays s.state s'.state other := by
  obtain ⟨allowed, upright, about⟩ := call.allowed opened
  have sessions := sessions_invariant.holds reached.of_restrict
  rcases calls with ⟨_, moved⟩ | ⟨_, middle, moved, _, ended⟩
  · exact .of_moves (State.moves sessions allowed moved other)
      (by rw [about]; exact elsewhere)
  · have between : (orderly env).Reachable middle :=
      .step reached ⟨allowed, upright⟩ moved
    have sessions' := sessions_invariant.holds between.of_restrict
    exact (Stays.of_moves (State.moves sessions allowed moved other)
      (by rw [about]; exact elsewhere)).trans
        (.of_moves (State.moves sessions' (call.closable opened moved) ended
          other) elsewhere)

theorem Calls.opened_before (calls : Calls env s s' fd step kept)
    (call : IsCall fd step) {other : Fd}
    (opened : s'.clientFds other = true) : s.clientFds other = true := by
  rcases calls with ⟨_, moved⟩ | ⟨_, middle, moved, _, ended⟩
  · have same := congrFun (call.clientFds moved) other
    exact same.symm.trans opened
  · have same := congrFun (call.clientFds moved) other
    have shape := congrFun (State.next_clientFds ended) other
    have after : Function.update middle.clientFds fd false other = true :=
      shape.symm.trans opened
    by_cases here : other = fd
    · simp [here] at after
    · rw [Function.update_of_ne here] at after
      exact same.symm.trans after

theorem Calls.size (calls : Calls env s s' fd step kept) :
    s'.conns.size = s.conns.size := by
  rcases calls with ⟨_, moved⟩ | ⟨_, middle, moved, _, ended⟩
  · exact State.next_size moved
  · exact (State.next_size ended).trans (State.next_size moved)

end Calls

end TCPServer

/-- Descriptors from `low` on in the set of `select` have something to send. -/
def Sendable (s : TCPServer ω) (wfds : List Fd) (low : Fd) : Prop :=
  ∀ fd, low ≤ fd → fd ∈ wfds →
    s.clientFds fd = true ∧ (s.conns.conns fd).sendQue ≠ []

/-- Descriptors from `low` on in the set of `select` are open. -/
def Readable (s : TCPServer ω) (rfds : List Fd) (low : Fd) : Prop :=
  ∀ fd, low ≤ fd → fd ∈ rfds →
    fd = s.listenFd ∨ s.clientFds fd = true

theorem Readable.above {s : TCPServer ω} {rfds : List Fd} {low : Fd}
    (readable : Readable s rfds low) : Readable s rfds (low + 1) :=
  fun fd here => readable fd (Nat.le_of_succ_le here)

theorem Sendable.above {s : TCPServer ω} {wfds : List Fd} {low : Fd}
    (sendable : Sendable s wfds low) : Sendable s wfds (low + 1) :=
  fun fd here => sendable fd (Nat.le_of_succ_le here)

/-- What holds in the loop between two of its calls. -/
structure Looping (env : Env ω) (l : Loop ω) : Prop where
  reached : (orderly env).Reachable l.server.state
  size : l.server.conns.size = fdSetsize
  above : ∀ fd, l.server.clientFds fd = true → l.server.listenFd < fd
  reading : ∀ fd rfds wfds, l.phase = .read fd rfds wfds →
    Readable l.server rfds fd ∧ Sendable l.server wfds fd
  writing : ∀ fd rfds wfds, l.phase = .write fd rfds wfds →
    Readable l.server rfds (fd + 1) ∧ Sendable l.server wfds fd

namespace Looping

variable {l : Loop ω}

theorem after_call (looping : Looping env l) {server : TCPServer ω}
    {fd : Fd} {step : Step} {kept : Bool} {rfds wfds : List Fd}
    (same : TCPServer.Same l.server server)
    (calls : TCPServer.Calls env l.server server fd step kept)
    (call : TCPServer.IsCall fd step)
    (opened : l.server.clientFds fd = true)
    (readable : Readable l.server rfds (fd + 1))
    (sendable : Sendable l.server wfds (fd + 1)) :
    Looping env ⟨server, .read (fd + 1) rfds wfds⟩ ∧
      Readable server rfds (fd + 1) ∧ Sendable server wfds (fd + 1) := by
  have stays : ∀ other, fd + 1 ≤ other →
      TCPServer.Stays l.server.state server.state other := fun other above =>
    calls.stays call looping.reached opened (Nat.ne_of_lt above)
  have readable' : Readable server rfds (fd + 1) := by
    intro other above ready
    rw [same.listenFd]
    rcases readable other above ready with listening | here
    · exact .inl listening
    · exact .inr ((stays other above).clientFds.trans here)
  have sendable' : Sendable server wfds (fd + 1) := by
    intro other above ready
    obtain ⟨here, queued⟩ := sendable other above ready
    exact ⟨(stays other above).clientFds.trans here,
      (stays other above).queued queued⟩
  refine ⟨⟨calls.reached call looping.reached opened,
    calls.size.trans looping.size, ?_, ?_, ?_⟩, readable', sendable'⟩
  · intro other here
    rw [same.listenFd]
    exact looping.above other (calls.opened_before call here)
  · rintro _ _ _ ⟨⟩
    exact ⟨readable', sendable'⟩
  · rintro _ _ _ ⟨⟩

theorem init (db : ω) (listenFd : Fd) :
    Looping env ⟨.init db listenFd, .select⟩ where
  reached := .initial ⟨db, fdSetsize, rfl⟩
  size := rfl
  above := by
    intro fd opened
    cases opened
  reading := by rintro _ _ _ ⟨⟩
  writing := by rintro _ _ _ ⟨⟩

theorem watched_iff (looping : Looping env l) (fd : Fd) :
    l.server.conns.wfds fd = true ↔ l.server.clientFds fd = true ∧
      (l.server.conns.conns fd).sendQue ≠ [] := by
  have queues := queues_invariant.holds looping.reached.of_restrict fd
  have watched : l.server.conns.wfds fd =
      !(l.server.conns.conns fd).sendQue.isEmpty := queues.watched
  rw [watched]
  constructor
  · intro queued
    have some : (l.server.conns.conns fd).sendQue ≠ [] := by
      simpa using queued
    refine ⟨?_, some⟩
    cases opened : l.server.clientFds fd with
    | true => rfl
    | false => exact absurd (queues.resting opened).sendQue some
  · rintro ⟨_, some⟩
    simpa using some

theorem ready (looping : Looping env l) {rfds wfds : List Fd}
    (reads : ∀ fd, fd ∈ rfds → Loop.watched l.server fd = true)
    (writes : ∀ fd, fd ∈ wfds → l.server.conns.wfds fd = true) :
    Looping env { l with phase := .read l.server.listenFd rfds wfds } where
  reached := looping.reached
  size := looping.size
  above := looping.above
  reading := by
    rintro _ _ _ ⟨⟩
    refine ⟨?_, fun fd _ ready => (looping.watched_iff fd).mp (writes fd ready)⟩
    intro fd _ ready
    have asked := reads fd ready
    simp only [Loop.watched, Bool.or_eq_true, Bool.and_eq_true,
      decide_eq_true_eq] at asked
    exact asked.symm.imp And.right id
  writing := by rintro _ _ _ ⟨⟩

theorem accept (looping : Looping env l) {cfd : Fd}
    (unused : l.server.clientFds cfd = false)
    (above : l.server.listenFd < cfd) (inside : cfd < fdSetsize) :
    Looping env { l with server := l.server.addClient cfd } := by
  have opens : ∀ fd, l.server.clientFds fd = true →
      (l.server.addClient cfd).clientFds fd = true := by
    intro fd opened
    by_cases same : fd = cfd
    · simp [TCPServer.addClient, same]
    · simpa [TCPServer.addClient, same] using opened
  have queues : ∀ fd, ((l.server.addClient cfd).conns.conns fd).sendQue =
      (l.server.conns.conns fd).sendQue := by
    intro fd
    simp only [TCPServer.addClient, Connections.accepted,
      Connections.setConn_conns]
    split <;> simp [*]
  have readable : ∀ {rfds low}, Readable l.server rfds low →
      Readable (l.server.addClient cfd) rfds low := by
    intro rfds low readable fd here ready
    exact (readable fd here ready).imp id (opens fd)
  have sendable : ∀ {wfds low}, Sendable l.server wfds low →
      Sendable (l.server.addClient cfd) wfds low := by
    intro wfds low sendable fd here ready
    obtain ⟨opened, queued⟩ := sendable fd here ready
    exact ⟨opens fd opened, by rw [queues]; exact queued⟩
  have allowed : (orderly env).enabled l.server.state (.accept cfd) :=
    ⟨⟨Nat.lt_of_lt_of_eq inside looping.size.symm, unused⟩, trivial⟩
  have moved : (orderly env).next l.server.state (.accept cfd) =
      .ok (l.server.addClient cfd).state := l.server.addClient_next env cfd
  refine ⟨.step looping.reached allowed moved, looping.size, ?_, ?_, ?_⟩
  · intro fd opened
    by_cases same : fd = cfd
    · rw [same]
      exact above
    · exact looping.above fd
        (by simpa [TCPServer.addClient, same] using opened)
  · intro fd rfds wfds phase
    obtain ⟨before, queued⟩ := looping.reading fd rfds wfds phase
    exact ⟨readable before, sendable queued⟩
  · intro fd rfds wfds phase
    obtain ⟨before, queued⟩ := looping.writing fd rfds wfds phase
    exact ⟨readable before, sendable queued⟩

theorem turn (looping : Looping env l) {phase : Phase}
    (reading : ∀ fd rfds wfds, phase = .read fd rfds wfds →
      Readable l.server rfds fd ∧ Sendable l.server wfds fd)
    (writing : ∀ fd rfds wfds, phase = .write fd rfds wfds →
      Readable l.server rfds (fd + 1) ∧ Sendable l.server wfds fd) :
    Looping env { l with phase := phase } :=
  ⟨looping.reached, looping.size, looping.above, reading, writing⟩

theorem received (looping : Looping env l) {after : Loop ω} {fd : Fd}
    {rfds wfds : List Fd} {net : List ReadResult}
    (phase : l.phase = .read fd rfds wfds) (ready : fd ∈ rfds)
    (client : fd ≠ l.server.listenFd)
    (moved : Loop.next env l (.received net) = .ok after) :
    Looping env after := by
  obtain ⟨readable, sendable⟩ := looping.reading fd rfds wfds phase
  have opened : l.server.clientFds fd = true :=
    (readable fd (Nat.le_refl fd) ready).resolve_left client
  simp only [Loop.next, phase] at moved
  obtain ⟨⟨res, server⟩, read, rest⟩ := Exec.of_bind_ok moved
  obtain ⟨same, calls⟩ := TCPServer.readSock_calls read
  obtain ⟨next, readable', sendable'⟩ := looping.after_call same calls
    (.recvMsg net) opened (Readable.above readable) (Sendable.above sendable)
  cases res with
  | false =>
      cases rest
      exact next
  | true =>
      cases rest
      have moved : l.server.state.next env (.recvMsg fd net) =
          .ok server.state := by
        rcases calls with ⟨_, moved⟩ | ⟨impossible, _⟩
        · exact moved
        · cases impossible
      have stays := TCPServer.Stays.of_recvMsg looping.reached.of_restrict
        opened moved
      refine ⟨next.reached, next.size, next.above, by rintro _ _ _ ⟨⟩, ?_⟩
      rintro _ _ _ ⟨⟩
      refine ⟨readable', fun other here ready => ?_⟩
      rcases Nat.lt_or_eq_of_le here with above | rfl
      · exact sendable' other above ready
      · obtain ⟨_, queued⟩ := sendable fd here ready
        exact ⟨stays.clientFds.trans opened, stays.queued queued⟩

theorem sent (looping : Looping env l) {after : Loop ω} {fd : Fd}
    {rfds wfds : List Fd} {net : List WriteResult}
    (phase : l.phase = .write fd rfds wfds) (ready : fd ∈ wfds)
    (moved : Loop.next env l (.sent net) = .ok after) :
    Looping env after := by
  obtain ⟨readable, sendable⟩ := looping.writing fd rfds wfds phase
  obtain ⟨opened, _⟩ := sendable fd (Nat.le_refl fd) ready
  simp only [Loop.next, phase] at moved
  obtain ⟨server, written, rest⟩ := Exec.of_bind_ok moved
  obtain ⟨same, res, calls⟩ :=
    TCPServer.writeSock_calls env written
  cases rest
  exact (looping.after_call same calls (.sendMsg net) opened readable
    (Sendable.above sendable)).1

end Looping

theorem looping_invariant : (eventLoop env).Invariant (Looping env) where
  start := by
    rintro _ ⟨db, listenFd, rfl⟩
    exact Looping.init db listenFd
  kept := by
    intro l event after _ looping allowed moved
    have enabled : Loop.Enabled l event := allowed
    have stepped : Loop.next env l event = .ok after := moved
    cases phase : l.phase with
    | select =>
        cases event with
        | ready rfds wfds =>
            simp only [Loop.Enabled, phase] at enabled
            simp only [Loop.next, phase] at stepped
            cases stepped
            exact looping.ready enabled.1 enabled.2
        | accepted cfd => simp [Loop.Enabled, phase] at enabled
        | received net => simp [Loop.Enabled, phase] at enabled
        | sent net => simp [Loop.Enabled, phase] at enabled
        | pass => simp [Loop.Enabled, phase] at enabled
    | read fd rfds wfds =>
        obtain ⟨readable, sendable⟩ := looping.reading fd rfds wfds phase
        have goesOn : Looping env { l with phase := .write fd rfds wfds } :=
          looping.turn (by rintro _ _ _ ⟨⟩) (by
            rintro _ _ _ ⟨⟩
            exact ⟨Readable.above readable, sendable⟩)
        cases event with
        | ready rfds wfds => simp [Loop.Enabled, phase] at enabled
        | accepted cfd =>
            simp only [Loop.Enabled, phase] at enabled
            simp only [Loop.next, phase] at stepped
            cases cfd with
            | none =>
                cases stepped
                exact goesOn
            | some cfd =>
                obtain ⟨_, _, _, _, fresh⟩ := enabled
                obtain ⟨unused, above, inside⟩ := fresh cfd rfl
                cases stepped
                exact phase ▸ looping.accept unused above inside
        | received net =>
            simp only [Loop.Enabled, phase] at enabled
            exact looping.received phase enabled.2.1 enabled.2.2 stepped
        | sent net => simp [Loop.Enabled, phase] at enabled
        | pass =>
            simp only [Loop.next, phase] at stepped
            split at stepped
            · cases stepped
              exact looping.turn (by rintro _ _ _ ⟨⟩) (by rintro _ _ _ ⟨⟩)
            · cases stepped
              exact goesOn
    | write fd rfds wfds =>
        obtain ⟨readable, sendable⟩ := looping.writing fd rfds wfds phase
        cases event with
        | ready rfds wfds => simp [Loop.Enabled, phase] at enabled
        | accepted cfd => simp [Loop.Enabled, phase] at enabled
        | received net => simp [Loop.Enabled, phase] at enabled
        | sent net =>
            simp only [Loop.Enabled, phase] at enabled
            exact looping.sent phase enabled stepped
        | pass =>
            simp only [Loop.next, phase] at stepped
            cases stepped
            refine looping.turn ?_ (by rintro _ _ _ ⟨⟩)
            rintro _ _ _ ⟨⟩
            exact ⟨readable, Sendable.above sendable⟩

/-- Between two calls of the loop a descriptor is watched for writing if and
only if it is open and has something queued; a descriptor at which the loop is
about to send meets what `send_msg` asserts, and one at which it is about to
receive is open. -/
theorem loop_watches (env : Env ω) (l : Loop ω)
    (reached : (eventLoop env).Reachable l) :
    (∀ fd, l.server.conns.wfds fd = true ↔ l.server.clientFds fd = true ∧
      (l.server.conns.conns fd).sendQue ≠ []) ∧
    (∀ fd net rfds wfds, l.phase = .write fd rfds wfds →
      l.Enabled (.sent net) → fd < l.server.conns.size ∧
        (l.server.conns.conns fd).sendQue ≠ [] ∧
        l.server.conns.wfds fd = true) ∧
    (∀ fd net rfds wfds, l.phase = .read fd rfds wfds →
      l.Enabled (.received net) → fd < l.server.conns.size ∧
        l.server.clientFds fd = true) := by
  have looping := looping_invariant.holds reached
  have inside : ∀ fd, l.server.clientFds fd = true →
      fd < l.server.conns.size :=
    opened_inside looping.reached.of_restrict
  refine ⟨looping.watched_iff, ?_, ?_⟩
  · intro fd net rfds wfds phase enabled
    simp only [Loop.Enabled, phase] at enabled
    have sendable := (looping.writing fd rfds wfds phase).2 fd (Nat.le_refl fd)
      enabled
    exact ⟨inside fd sendable.1, sendable.2,
      (looping.watched_iff fd).mpr sendable⟩
  · intro fd net rfds wfds phase enabled
    simp only [Loop.Enabled, phase] at enabled
    have opened := ((looping.reading fd rfds wfds phase).1 fd (Nat.le_refl fd)
      enabled.2.1).resolve_left enabled.2.2
    exact ⟨inside fd opened, opened⟩

/-- A client connects in one round, sends a frame nobody knows in the next, and
is about to be answered in the third. -/
def threeRounds : List Event :=
  [.ready [3] [], .accepted (some 4), .accepted none, .pass, .pass, .pass,
    .pass, .ready [4] [], .pass, .pass,
    .received [.data (Message.ofData 0x20 0x00 [0]).wire], .pass, .pass,
    .ready [] [4], .pass, .pass, .pass]

theorem loop_watches_answer : ∃ l, (eventLoop Tables.env).Reachable l ∧
    l.Enabled (.sent [.took 4]) ∧
    (l.server.conns.conns 4).sendQue ≠ [] ∧
    l.server.conns.wfds 4 = true := by
  have replayed : ((eventLoop Tables.env).replay
      ⟨.init (Tables.ofUsers []) 3, .select⟩ threeRounds).any (fun l =>
        match l.phase with
        | .write fd rfds wfds => decide (fd = 4 ∧ rfds = [] ∧ wfds = [4] ∧
            l.Enabled (.sent [.took 4]))
        | _ => false) = true := by
    decide +kernel
  obtain ⟨l, reached, here⟩ :=
    Machine.Reachable.of_replay replayed ⟨_, _, rfl⟩
  split at here
  · rename_i phase
    obtain ⟨rfl, rfl, rfl, enabled⟩ := of_decide_eq_true here
    obtain ⟨_, queued, watched⟩ := (loop_watches Tables.env l reached).2.1 4
      [.took 4] [] [4] phase enabled
    exact ⟨l, reached, enabled, queued, watched⟩
  · contradiction

end GroupChat.Server
