import GroupChat.Lib.Lowest
import GroupChat.Server.TCPServer

namespace GroupChat.Server

/-! The descriptors the kernel gives to the event loop. -/

variable {ω : Type} {env : Env ω}

/-- The process of the server: the loop, and a descriptor of the connection to
the database, which stays open. -/
structure Process (ω : Type) where
  loop : Loop ω
  dbFd : Fd

/-- A step of the loop, and the descriptors open at it besides those up to the
listening one and those of the clients. -/
structure Turn where
  event : Event
  held : List Fd

namespace Process

def Used (p : Process ω) (held : List Fd) (fd : Fd) : Prop :=
  fd ≤ p.loop.server.listenFd ∨ p.loop.server.clientFds fd = true ∨ fd ∈ held

structure Holds (p : Process ω) (held : List Fd) : Prop where
  database : p.dbFd ∈ held
  distinct : held.Nodup
  above : ∀ fd ∈ held, p.loop.server.listenFd < fd
  unused : ∀ fd ∈ held, p.loop.server.clientFds fd = false

/-- As in the loop, but `accept` returns the lowest free descriptor, whether it
is in range or not. -/
def Enabled (p : Process ω) (turn : Turn) : Prop :=
  match p.loop.phase, turn.event with
  | .read fd rfds _, .accepted (some new) =>
      fd ≤ p.loop.server.maxFd ∧ fd ∈ rfds ∧ fd = p.loop.server.listenFd ∧
        p.loop.server.numFd < fdSetsize ∧ p.Holds turn.held ∧
          LowestFree (p.Used turn.held) new
  | _, event => p.loop.Enabled event

def next (env : Env ω) (p : Process ω) (turn : Turn) : Exec (Process ω) := do
  let loop ← p.loop.next env turn.event
  .ok { p with loop := loop }

/-- Every client has a descriptor that fits in a set of `select`. -/
def InRange (p : Process ω) : Prop :=
  ∀ fd, p.loop.server.clientFds fd = true → fd < fdSetsize

/-- Where a client is accepted, the descriptors held besides leave room for
it: those in range and those that `_num_fd` counts do not fill the set. -/
def RoomLeft (p : Process ω) (turn : Turn) : Prop :=
  match turn.event with
  | .accepted (some _) => p.loop.server.numFd +
      ((turn.held.filter fun fd => fd < fdSetsize).length : Int) < fdSetsize
  | _ => True

end Process

def process (env : Env ω) : Machine (Process ω) Turn where
  initial := fun p => ∃ db listenFd dbFd, listenFd < dbFd ∧
    p = ⟨⟨.init db listenFd, .select⟩, dbFd⟩
  enabled := Process.Enabled
  next := Process.next env

namespace TCPServer

variable {s s' : TCPServer ω}

/-- `_num_fd` counts the descriptors up to the listening one and the
clients. -/
structure Counts (s : TCPServer ω) (clients : List Fd) : Prop where
  distinct : clients.Nodup
  members : ∀ fd, fd ∈ clients ↔ s.clientFds fd = true
  count : s.numFd = s.listenFd + 1 + clients.length

def Counted (s : TCPServer ω) : Prop := ∃ clients, s.Counts clients

theorem Counted.init (db : ω) (listenFd : Fd) :
    (TCPServer.init db listenFd).Counted :=
  ⟨[], List.nodup_nil, by simp [TCPServer.init], by simp [TCPServer.init]⟩

theorem Counted.addClient (counted : s.Counted) {cfd : Fd}
    (unused : s.clientFds cfd = false) : (s.addClient cfd).Counted := by
  obtain ⟨clients, distinct, members, count⟩ := counted
  have fresh : cfd ∉ clients := by
    rw [members, unused]
    decide
  refine ⟨cfd :: clients, List.nodup_cons.mpr ⟨fresh, distinct⟩, ?_, ?_⟩
  · intro fd
    by_cases same : fd = cfd
    · simp [TCPServer.addClient, same]
    · simp [TCPServer.addClient, same, members]
  · simp only [TCPServer.addClient, count, List.length_cons]
    omega

theorem Counted.closeSock (counted : s.Counted) {fd : Fd}
    (opened : s.clientFds fd = true) (closed : s.closeSock fd = .ok s') :
    s'.Counted := by
  obtain ⟨clients, distinct, members, count⟩ := counted
  obtain ⟨conns, _, rest⟩ := Exec.of_bind_ok closed
  cases rest
  have client : fd ∈ clients := (members fd).mpr opened
  refine ⟨clients.erase fd, distinct.erase fd, ?_, ?_⟩
  · intro other
    rw [distinct.mem_erase_iff, members]
    by_cases same : other = fd
    · simp [same]
    · simp [same]
  · have some := List.length_pos_of_mem client
    simp only [count, List.length_erase_of_mem client]
    omega

theorem Counted.congr (counted : s.Counted) (conns : Connections ω) :
    ({ s with conns := conns } : TCPServer ω).Counted := by
  obtain ⟨clients, distinct, members, count⟩ := counted
  exact ⟨clients, distinct, members, count⟩

theorem Counted.readSock (counted : s.Counted) {fd : Fd}
    {net : List ReadResult} {res : Bool} (opened : s.clientFds fd = true)
    (read : s.readSock env fd net = .ok (res, s')) : s'.Counted := by
  obtain ⟨⟨kept, conns⟩, _, rest⟩ := Exec.of_bind_ok read
  cases kept with
  | true =>
      cases rest
      exact counted.congr conns
  | false =>
      obtain ⟨after, closed, rest⟩ := Exec.of_bind_ok rest
      cases rest
      exact (counted.congr conns).closeSock opened closed

theorem Counted.writeSock (counted : s.Counted) {fd : Fd}
    {net : List WriteResult} (opened : s.clientFds fd = true)
    (written : s.writeSock fd net = .ok s') : s'.Counted := by
  obtain ⟨⟨kept, conns⟩, _, rest⟩ := Exec.of_bind_ok written
  cases kept with
  | true =>
      cases rest
      exact counted.congr conns
  | false => exact (counted.congr conns).closeSock opened rest

end TCPServer

/-- What holds of a process whose clients are in range. -/
structure Ranged (env : Env ω) (p : Process ω) : Prop where
  reached : (eventLoop env).Reachable p.loop
  counted : p.loop.server.Counted

namespace Ranged

variable {p after : Process ω} {turn : Turn}

theorem inRange (ranged : Ranged env p) : p.InRange := by
  intro fd opened
  have looping := looping_invariant.holds ranged.reached
  rw [← looping.size]
  exact opened_inside looping.reached.of_restrict fd opened

theorem lowest_iff (ranged : Ranged env p) {held : List Fd} {new : Fd}
    (few : p.loop.server.numFd < fdSetsize) (holds : p.Holds held)
    (lowest : LowestFree (p.Used held) new) :
    new < fdSetsize ↔ p.loop.server.numFd +
      ((held.filter fun fd => fd < fdSetsize).length : Int) < fdSetsize := by
  obtain ⟨clients, distinct, members, count⟩ := ranged.counted
  have above := (looping_invariant.holds ranged.reached).above
  have inside := ranged.inRange
  have listening : ∀ low : Nat, low ≤ p.loop.server.listenFd →
      low < fdSetsize := by
    intro low _
    omega
  have nodup : (List.range (p.loop.server.listenFd + 1) ++ (clients ++
      held.filter fun fd => fd < fdSetsize)).Nodup := by
    rw [List.nodup_append, List.nodup_append]
    refine ⟨List.nodup_range, ⟨distinct, holds.distinct.filter _, ?_⟩, ?_⟩
    · rintro fd client _ other rfl
      have opened := (members fd).mp client
      rw [holds.unused fd (List.mem_filter.mp other).1] at opened
      contradiction
    · rintro fd low _ other rfl
      have low := List.mem_range.mp low
      have high : p.loop.server.listenFd < fd := by
        rcases List.mem_append.mp other with client | besides
        · exact above fd ((members fd).mp client)
        · exact holds.above fd (List.mem_filter.mp besides).1
      exact Nat.not_lt.mpr (Nat.le_of_lt_succ low) high
  have whole : ∀ fd, fd ∈ List.range (p.loop.server.listenFd + 1) ++
      (clients ++ held.filter fun fd => fd < fdSetsize) ↔
        p.Used held fd ∧ fd < fdSetsize := by
    intro fd
    rw [List.mem_append, List.mem_append, List.mem_range, List.mem_filter,
      members, decide_eq_true_eq, Process.Used, Nat.lt_succ_iff]
    constructor
    · rintro (low | client | ⟨besides, here⟩)
      · exact ⟨.inl low, listening fd low⟩
      · exact ⟨.inr (.inl client), inside fd client⟩
      · exact ⟨.inr (.inr besides), here⟩
    · rintro ⟨low | client | besides, here⟩
      · exact .inl low
      · exact .inr (.inl client)
      · exact .inr (.inr ⟨besides, here⟩)
  have counts := lowest.lt_iff nodup whole
  rw [List.length_append, List.length_append, List.length_range] at counts
  apply counts.trans
  omega

theorem enabled_loop (allowed : p.Enabled turn)
    (other : ∀ new, turn.event ≠ .accepted (some new)) :
    p.loop.Enabled turn.event := by
  unfold Process.Enabled at allowed
  split at allowed
  · rename_i new _ accepted
    exact absurd accepted (other new)
  · exact allowed

theorem counted_turn (ranged : Ranged env p)
    (allowed : p.loop.Enabled turn.event)
    (other : ∀ new, turn.event ≠ .accepted (some new)) {loop : Loop ω}
    (moved : p.loop.next env turn.event = .ok loop) :
    loop.server.Counted := by
  have counted := ranged.counted
  obtain ⟨watched, writing, reading⟩ := loop_watches env p.loop ranged.reached
  cases phase : p.loop.phase with
  | select =>
      cases event : turn.event <;>
        simp only [Loop.next, phase, event] at moved <;>
        cases moved <;> exact counted
  | read fd rfds wfds =>
      cases event : turn.event with
      | ready rfds wfds =>
          simp only [Loop.next, phase, event] at moved
          cases moved
          exact counted
      | accepted cfd =>
          cases cfd with
          | none =>
              simp only [Loop.next, phase, event] at moved
              cases moved
              exact counted
          | some cfd => exact absurd event (other cfd)
      | received net =>
          rw [event] at allowed
          obtain ⟨_, opened⟩ := reading fd net rfds wfds phase allowed
          simp only [Loop.next, phase, event] at moved
          obtain ⟨⟨res, server⟩, read, rest⟩ := Exec.of_bind_ok moved
          have after := counted.readSock opened read
          cases res <;> cases rest <;> exact after
      | sent net =>
          simp only [Loop.next, phase, event] at moved
          cases moved
          exact counted
      | pass =>
          simp only [Loop.next, phase, event] at moved
          split at moved <;> cases moved <;> exact counted
  | write fd rfds wfds =>
      cases event : turn.event with
      | sent net =>
          rw [event] at allowed
          obtain ⟨_, _, watching⟩ := writing fd net rfds wfds phase allowed
          have opened := ((watched fd).mp watching).1
          simp only [Loop.next, phase, event] at moved
          obtain ⟨server, written, rest⟩ := Exec.of_bind_ok moved
          cases rest
          exact counted.writeSock opened written
      | ready _ _ | accepted _ | received _ | pass =>
          simp only [Loop.next, phase, event] at moved
          cases moved
          exact counted

theorem accepts_iff (ranged : Ranged env p) (allowed : p.Enabled turn)
    {new : Fd} (event : turn.event = .accepted (some new))
    (moved : p.next env turn = .ok after) :
    (after.InRange ↔ p.RoomLeft turn) ∧
      (p.RoomLeft turn → Ranged env after) := by
  cases phase : p.loop.phase with
  | select | write =>
      simp [Process.Enabled, Loop.Enabled, phase, event] at allowed
  | read fd rfds wfds =>
      simp only [Process.Enabled, phase, event] at allowed
      obtain ⟨low, ready, listening, few, holds, lowest⟩ := allowed
      have room := ranged.lowest_iff few holds lowest
      have looping := looping_invariant.holds ranged.reached
      simp only [Process.next, Loop.next, phase, event] at moved
      cases moved
      have inside : new < fdSetsize ↔ p.RoomLeft turn := by
        simp only [Process.RoomLeft, event]
        exact room
      have unused : p.loop.server.clientFds new = false := by
        cases used : p.loop.server.clientFds new with
        | false => rfl
        | true => exact absurd (.inr (.inl used)) lowest.free
      have above : p.loop.server.listenFd < new :=
        Nat.lt_of_not_le fun inside => lowest.free (.inl inside)
      constructor
      · rw [← inside]
        constructor
        · intro ranges
          exact ranges new (by simp [TCPServer.addClient])
        · intro here other opened
          by_cases same : other = new
          · rw [same]
            exact here
          · exact ranged.inRange other
              (by simpa [TCPServer.addClient, same] using opened)
      · intro left
        have enabled : p.loop.Enabled (.accepted (some new)) := by
          simp only [Loop.Enabled, phase]
          refine ⟨low, ready, listening, few, ?_⟩
          rintro _ ⟨⟩
          exact ⟨unused, above, inside.mpr left⟩
        refine ⟨.step ranged.reached enabled ?_,
          ranged.counted.addClient unused⟩
        simp only [eventLoop, Loop.next, phase]

end Ranged

theorem ranged_invariant :
    ((process env).restrict Process.RoomLeft).Invariant (Ranged env) where
  start := by
    rintro _ ⟨db, listenFd, dbFd, _, rfl⟩
    exact ⟨.initial ⟨db, listenFd, rfl⟩, .init db listenFd⟩
  kept := by
    intro p turn after _ ranged allowed moved
    obtain ⟨allowed, room⟩ := allowed
    by_cases accepts : ∃ new, turn.event = .accepted (some new)
    · obtain ⟨new, event⟩ := accepts
      exact (ranged.accepts_iff allowed event moved).2 room
    · have other : ∀ new, turn.event ≠ .accepted (some new) :=
        fun new event => accepts ⟨new, event⟩
      have enabled := Ranged.enabled_loop allowed other
      obtain ⟨loop, stepped, rest⟩ := Exec.of_bind_ok moved
      cases rest
      exact ⟨.step ranged.reached enabled stepped,
        ranged.counted_turn enabled other stepped⟩

/-- In every run in which there is room at each accept, all clients are in
range; and the first accept without room puts one out of range. -/
theorem descriptors_in_range (env : Env ω) (p : Process ω)
    (reached : ((process env).restrict Process.RoomLeft).Reachable p) :
    p.InRange ∧ ∀ turn after, (process env).enabled p turn →
      (process env).next p turn = .ok after →
        (after.InRange ↔ p.RoomLeft turn) := by
  have ranged := ranged_invariant.holds reached
  refine ⟨ranged.inRange, ?_⟩
  intro turn after allowed moved
  by_cases accepts : ∃ new, turn.event = .accepted (some new)
  · obtain ⟨new, event⟩ := accepts
    exact (ranged.accepts_iff allowed event moved).1
  · have room : p.RoomLeft turn := by
      unfold Process.RoomLeft
      split
      · rename_i new event
        exact absurd ⟨new, event⟩ accepts
      · trivial
    have next := ranged_invariant.holds (.step reached ⟨allowed, room⟩ moved)
    exact ⟨fun _ => room, fun _ => next.inRange⟩

/-- A server that listens on descriptor 3, with the database on 4, has accepted
so many clients in a row. -/
structure Crowded (p : Process Tables) (count : Nat) : Prop where
  dbFd : p.dbFd = 4
  phase : p.loop.phase = .read 3 [3] []
  listenFd : p.loop.server.listenFd = 3
  maxFd : 3 ≤ p.loop.server.maxFd
  numFd : p.loop.server.numFd = 4 + count
  clients : ∀ fd : Nat,
    p.loop.server.clientFds fd = true ↔ 5 ≤ fd ∧ fd < 5 + count

def nextClient (count : Nat) : Turn := ⟨.accepted (some (5 + count)), [4]⟩

theorem Crowded.accept {p : Process Tables} {count : Nat}
    (crowded : Crowded p count) (few : count < 1020) :
    (process Tables.env).enabled p (nextClient count) ∧
      ∃ after, (process Tables.env).next p (nextClient count) = .ok after ∧
        Crowded after (count + 1) := by
  have unused (fd : Nat) (outside : fd < 5 ∨ 5 + count ≤ fd) :
      p.loop.server.clientFds fd = false := by
    cases used : p.loop.server.clientFds fd with
    | false => rfl
    | true =>
        have inside := (crowded.clients fd).mp used
        omega
  have lowest : LowestFree (p.Used [4]) (5 + count) := by
    constructor
    · rintro (low | client | besides)
      · rw [crowded.listenFd] at low
        have low : 5 + count ≤ (3 : Nat) := low
        omega
      · rw [unused _ (.inr (Nat.le_refl _))] at client
        contradiction
      · have same : 5 + count = (4 : Nat) := List.mem_singleton.mp besides
        omega
    · intro other below
      by_cases low : other ≤ 3
      · exact .inl (by rw [crowded.listenFd]; exact low)
      · by_cases besides : other = 4
        · exact .inr (.inr (List.mem_singleton.mpr besides))
        · exact .inr (.inl ((crowded.clients other).mpr (by omega)))
  have holds : p.Holds [4] := by
    refine ⟨by simp [crowded.dbFd], List.nodup_singleton 4, ?_, ?_⟩
    · intro fd member
      rw [List.mem_singleton.mp member, crowded.listenFd]
      decide
    · intro fd member
      rw [List.mem_singleton.mp member]
      exact unused 4 (.inl (by decide))
  constructor
  · have counted := crowded.numFd
    have limit : p.loop.server.numFd < fdSetsize := by
      rw [counted, fdSetsize]
      omega
    simp only [process, Process.Enabled, nextClient, crowded.phase]
    exact ⟨crowded.maxFd, by simp, crowded.listenFd.symm, limit, holds, lowest⟩
  · simp only [process, Process.next, Loop.next, nextClient, crowded.phase,
      Exec.bind_ok]
    refine ⟨_, rfl, crowded.dbFd, rfl, crowded.listenFd, ?_, ?_, ?_⟩
    · exact Nat.le_trans crowded.maxFd (Nat.le_max_left _ _)
    · simp only [TCPServer.addClient, crowded.numFd]
      omega
    · intro fd
      by_cases same : fd = 5 + count
      · simp [TCPServer.addClient, same]
      · simp only [TCPServer.addClient, Function.update_of_ne same,
          crowded.clients]
        omega

theorem crowded_reached {count : Nat} (few : count ≤ 1019) :
    ∃ p, ((process Tables.env).restrict Process.RoomLeft).Reachable p ∧
      Crowded p count := by
  induction count with
  | zero =>
      have first : ((process Tables.env).restrict Process.RoomLeft).initial
          ⟨⟨.init (.ofUsers []) 3, .select⟩, 4⟩ :=
        ⟨_, 3, 4, by decide, rfl⟩
      have allowed : ((process Tables.env).restrict Process.RoomLeft).enabled
          ⟨⟨.init (.ofUsers []) 3, .select⟩, 4⟩ ⟨.ready [3] [], []⟩ :=
        ⟨⟨by decide, by simp⟩, trivial⟩
      refine ⟨_, .step (.initial first) allowed rfl, rfl, rfl, rfl,
        Nat.le_refl 3, rfl, ?_⟩
      intro fd
      simp only [TCPServer.init, Bool.false_eq_true, false_iff]
      omega
  | succ count induction =>
      obtain ⟨p, reached, crowded⟩ := induction (by omega)
      obtain ⟨allowed, after, moved, next⟩ := crowded.accept (by omega)
      have room : p.RoomLeft (nextClient count) := by
        simp only [Process.RoomLeft, nextClient, crowded.numFd]
        have one : ([4].filter fun fd => fd < fdSetsize).length = 1 := rfl
        rw [one, fdSetsize]
        omega
      exact ⟨after, .step reached ⟨allowed, room⟩ moved, next⟩

theorem descriptors_in_range_one : ∃ p : Process Tables,
    p.loop.server.clientFds 5 = true ∧ p.InRange := by
  obtain ⟨p, reached, crowded⟩ := @crowded_reached 1 (by decide)
  exact ⟨p, (crowded.clients 5).mpr (by decide),
    (descriptors_in_range Tables.env p reached).1⟩

/-- The thousand and twentieth client is accepted on descriptor 1024. -/
theorem client_out_of_range : ¬ ∀ p, (process Tables.env).Reachable p →
    p.InRange := by
  intro always
  obtain ⟨p, reached, crowded⟩ := @crowded_reached 1019 (by decide)
  obtain ⟨allowed, after, moved, next⟩ := crowded.accept (by decide)
  have inside := always after (.step reached.of_restrict allowed moved) 1024
    ((next.clients 1024).mpr (by decide))
  exact absurd inside (by decide)

end GroupChat.Server
