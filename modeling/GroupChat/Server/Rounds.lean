import GroupChat.Lib.Scan
import GroupChat.Server.TCPServer

namespace GroupChat.Server

/-! The rounds of the event loop: what is served between two calls of
`select`. -/

variable {ω : Type} {env : Env ω}

/-- The loop, with what `select` left of its sets in this round, the
descriptors on which `recv_msg` and `send_msg` were called since, and those that
were closed after their `recv_msg`. -/
structure Round (ω : Type) where
  loop : Loop ω
  rfds : List Fd := []
  wfds : List Fd := []
  read : List Fd := []
  written : List Fd := []
  closed : List Fd := []

namespace Round

def noted (r : Round ω) (event : Event) (loop : Loop ω) : Round ω :=
  match event, r.loop.phase, loop.phase with
  | .ready rfds wfds, _, _ => { loop := loop, rfds := rfds, wfds := wfds }
  | .received _, .read fd _ _, .write _ _ _ =>
      { r with loop := loop, read := r.read ++ [fd] }
  | .received _, .read fd _ _, _ =>
      { r with
        loop := loop
        read := r.read ++ [fd]
        closed := r.closed ++ [fd] }
  | .sent _, .write fd _ _, _ =>
      { r with loop := loop, written := r.written ++ [fd] }
  | _, _, _ => { r with loop := loop }

def next (env : Env ω) (r : Round ω) (event : Event) : Exec (Round ω) := do
  let loop ← r.loop.next env event
  .ok (r.noted event loop)

end Round

def rounds (env : Env ω) : Machine (Round ω) Event where
  initial := fun r => (eventLoop env).initial r.loop ∧ r = { loop := r.loop }
  enabled := fun r event => (eventLoop env).enabled r.loop event
  next := Round.next env

instance (r : Round ω) : DecidablePred ((rounds env).enabled r) :=
  inferInstanceAs (DecidablePred r.loop.Enabled)

namespace Round

def Reads (r : Round ω) (fd : Fd) : Prop :=
  fd ∈ r.rfds ∧ fd ≠ r.loop.server.listenFd

def Writes (r : Round ω) (fd : Fd) : Prop :=
  fd ∈ r.wfds ∧ fd ∉ r.closed

/-- The round has come to these descriptors. -/
structure Served (r : Round ω) (reading writing : Fd) : Prop where
  read : Scan r.read r.Reads reading
  written : Scan r.written r.Writes writing
  closed : ∀ fd ∈ r.closed, fd ∈ r.read ∧ fd < writing

/-- No client is above the last descriptor that the round comes to. -/
structure Scanned (env : Env ω) (r : Round ω) : Prop where
  looping : Looping env r.loop
  listens : r.loop.server.listenFd ≤ r.loop.server.maxFd
  clients : ∀ fd, r.loop.server.clientFds fd = true →
    fd ≤ r.loop.server.maxFd
  inside : ∀ fd, fd ∈ r.rfds ∨ fd ∈ r.wfds → fd ≤ r.loop.server.maxFd
  select : r.loop.phase = .select → r.Served (r.loop.server.maxFd + 1)
    (r.loop.server.maxFd + 1)
  reading : ∀ fd rfds wfds, r.loop.phase = .read fd rfds wfds →
    rfds = r.rfds ∧ wfds = r.wfds ∧ r.Served fd fd
  writing : ∀ fd rfds wfds, r.loop.phase = .write fd rfds wfds →
    rfds = r.rfds ∧ wfds = r.wfds ∧ fd ∉ r.closed ∧ r.Served (fd + 1) fd

end Round

theorem Loop.next_bounds {l l' : Loop ω} {event : Event}
    (moved : l.next env event = .ok l') :
    l'.server.listenFd = l.server.listenFd ∧
      l.server.maxFd ≤ l'.server.maxFd ∧
      ∀ fd, l'.server.clientFds fd = true →
        l.server.clientFds fd = true ∨ fd ≤ l'.server.maxFd := by
  have still {l' : Loop ω} (same : l'.server = l.server) :
      l'.server.listenFd = l.server.listenFd ∧
        l.server.maxFd ≤ l'.server.maxFd ∧
        ∀ fd, l'.server.clientFds fd = true →
          l.server.clientFds fd = true ∨ fd ≤ l'.server.maxFd := by
    rw [same]
    exact ⟨rfl, Nat.le_refl _, fun fd opened => .inl opened⟩
  have called {server : TCPServer ω} {fd : Fd} {step : Step} {kept : Bool}
      {phase : Phase} (same : TCPServer.Same l.server server)
      (calls : TCPServer.Calls env l.server server fd step kept)
      (call : TCPServer.IsCall fd step) :
      (⟨server, phase⟩ : Loop ω).server.listenFd = l.server.listenFd ∧
        l.server.maxFd ≤ (⟨server, phase⟩ : Loop ω).server.maxFd ∧
        ∀ fd, server.clientFds fd = true →
          l.server.clientFds fd = true ∨ fd ≤ server.maxFd :=
    ⟨same.listenFd, Nat.le_of_eq same.maxFd.symm,
      fun fd opened => .inl (calls.opened_before call opened)⟩
  cases phase : l.phase with
  | select =>
      cases event <;> simp only [Loop.next, phase] at moved <;> cases moved <;>
        exact still rfl
  | read fd rfds wfds =>
      cases event with
      | ready rfds wfds =>
          simp only [Loop.next, phase] at moved
          cases moved
          exact still rfl
      | accepted cfd =>
          cases cfd with
          | none =>
              simp only [Loop.next, phase] at moved
              cases moved
              exact still rfl
          | some cfd =>
              simp only [Loop.next, phase] at moved
              cases moved
              refine ⟨rfl, Nat.le_max_left _ _, fun fd opened => ?_⟩
              by_cases same : fd = cfd
              · exact .inr (same ▸ Nat.le_max_right _ _)
              · exact .inl (by
                  simpa [TCPServer.addClient, same] using opened)
      | received net =>
          simp only [Loop.next, phase] at moved
          obtain ⟨⟨res, server⟩, read, rest⟩ := Exec.of_bind_ok moved
          obtain ⟨same, calls⟩ := TCPServer.readSock_calls read
          cases res with
          | true =>
              cases rest
              exact called same calls (.recvMsg net)
          | false =>
              cases rest
              exact called same calls (.recvMsg net)
      | sent net =>
          simp only [Loop.next, phase] at moved
          cases moved
          exact still rfl
      | pass =>
          simp only [Loop.next, phase] at moved
          split at moved <;> cases moved <;> exact still rfl
  | write fd rfds wfds =>
      cases event with
      | sent net =>
          simp only [Loop.next, phase] at moved
          obtain ⟨server, written, rest⟩ := Exec.of_bind_ok moved
          obtain ⟨same, res, calls⟩ := TCPServer.writeSock_calls env written
          cases rest
          exact called same calls (.sendMsg net)
      | ready rfds wfds =>
          simp only [Loop.next, phase] at moved
          cases moved
          exact still rfl
      | accepted cfd =>
          simp only [Loop.next, phase] at moved
          cases moved
          exact still rfl
      | received net =>
          simp only [Loop.next, phase] at moved
          cases moved
          exact still rfl
      | pass =>
          simp only [Loop.next, phase] at moved
          cases moved
          exact still rfl

namespace Round

@[simp] theorem noted_loop (r : Round ω) (event : Event) (loop : Loop ω) :
    (r.noted event loop).loop = loop := by
  unfold noted
  split <;> rfl

theorem loop_reached {r : Round ω} (reached : (rounds env).Reachable r) :
    (eventLoop env).Reachable r.loop := by
  induction reached with
  | initial first => exact .initial first.1
  | @step before after event _ allowed moved induction =>
      obtain ⟨loop, looped, rest⟩ := Exec.of_bind_ok moved
      cases rest
      rw [← noted_loop before event loop] at looped
      exact .step induction allowed looped

theorem Served.congr {r r' : Round ω} {reading writing : Fd}
    (served : r.Served reading writing) (rfds : r'.rfds = r.rfds)
    (wfds : r'.wfds = r.wfds) (read : r'.read = r.read)
    (written : r'.written = r.written) (closed : r'.closed = r.closed)
    (listens : r'.loop.server.listenFd = r.loop.server.listenFd) :
    r'.Served reading writing where
  read := by
    rw [read]
    exact served.read.congr fun fd _ => by rw [Reads, Reads, rfds, listens]
  written := by
    rw [written]
    exact served.written.congr fun fd _ => by
      rw [Writes, Writes, wfds, closed]
  closed := by
    rw [closed, read]
    exact served.closed

theorem Served.reads {r r' : Round ω} {fd : Fd} (served : r.Served fd fd)
    (wants : r.Reads fd) (rfds : r'.rfds = r.rfds) (wfds : r'.wfds = r.wfds)
    (read : r'.read = r.read ++ [fd]) (written : r'.written = r.written)
    (closed : r'.closed = r.closed)
    (listens : r'.loop.server.listenFd = r.loop.server.listenFd) :
    fd ∉ r'.closed ∧ r'.Served (fd + 1) fd := by
  refine ⟨?_, ?_, ?_, ?_⟩
  · rw [closed]
    exact fun member => absurd (served.closed fd member).2 (Nat.lt_irrefl fd)
  · rw [read]
    exact (served.read.take wants).congr fun other _ => by
      rw [Reads, Reads, rfds, listens]
  · rw [written]
    exact served.written.congr fun other _ => by
      rw [Writes, Writes, wfds, closed]
  · rw [closed, read]
    intro other member
    obtain ⟨was, below⟩ := served.closed other member
    exact ⟨List.mem_append_left _ was, below⟩

theorem Served.closes {r r' : Round ω} {fd : Fd} (served : r.Served fd fd)
    (wants : r.Reads fd) (rfds : r'.rfds = r.rfds) (wfds : r'.wfds = r.wfds)
    (read : r'.read = r.read ++ [fd]) (written : r'.written = r.written)
    (closed : r'.closed = r.closed ++ [fd])
    (listens : r'.loop.server.listenFd = r.loop.server.listenFd) :
    r'.Served (fd + 1) (fd + 1) where
  read := by
    rw [read]
    exact (served.read.take wants).congr fun other _ => by
      rw [Reads, Reads, rfds, listens]
  written := by
    rw [written]
    have before : Scan r.written r'.Writes fd :=
      served.written.congr fun other below => by
        rw [Writes, Writes, wfds, closed, List.mem_append,
          List.mem_singleton, or_iff_left (Nat.ne_of_lt below)]
    apply before.skip
    rintro ⟨_, kept⟩
    apply kept
    rw [closed]
    exact List.mem_append_right _ (List.mem_singleton_self fd)
  closed := by
    rw [closed, read]
    intro other member
    rcases List.mem_append.mp member with before | same
    · obtain ⟨was, below⟩ := served.closed other before
      exact ⟨List.mem_append_left _ was, Nat.lt_succ_of_lt below⟩
    · cases List.mem_singleton.mp same
      exact ⟨List.mem_append_right _ same, Nat.lt_succ_self fd⟩

theorem Served.writes {r r' : Round ω} {fd : Fd}
    (served : r.Served (fd + 1) fd) (wants : r.Writes fd)
    (rfds : r'.rfds = r.rfds) (wfds : r'.wfds = r.wfds)
    (read : r'.read = r.read) (written : r'.written = r.written ++ [fd])
    (closed : r'.closed = r.closed)
    (listens : r'.loop.server.listenFd = r.loop.server.listenFd) :
    r'.Served (fd + 1) (fd + 1) where
  read := by
    rw [read]
    exact served.read.congr fun other _ => by rw [Reads, Reads, rfds, listens]
  written := by
    rw [written]
    exact (served.written.take wants).congr fun other _ => by
      rw [Writes, Writes, wfds, closed]
  closed := by
    rw [closed, read]
    intro other member
    obtain ⟨was, below⟩ := served.closed other member
    exact ⟨was, Nat.lt_succ_of_lt below⟩

theorem Served.skipRead {r : Round ω} {fd : Fd} (served : r.Served fd fd)
    (other : ¬ r.Reads fd) : fd ∉ r.closed ∧ r.Served (fd + 1) fd :=
  ⟨fun member => absurd (served.closed fd member).2 (Nat.lt_irrefl fd),
    served.read.skip other, served.written, served.closed⟩

theorem Served.skipWrite {r : Round ω} {fd : Fd}
    (served : r.Served (fd + 1) fd) (other : ¬ r.Writes fd) :
    r.Served (fd + 1) (fd + 1) :=
  ⟨served.read, served.written.skip other, fun closed member =>
    ⟨(served.closed closed member).1,
      Nat.lt_succ_of_lt (served.closed closed member).2⟩⟩

theorem Served.finish {r : Round ω} {fd last : Fd} (served : r.Served fd fd)
    (past : last < fd) (inside : ∀ fd, fd ∈ r.rfds ∨ fd ∈ r.wfds → fd ≤ last)
    : r.Served (last + 1) (last + 1) := by
  have reads (other : Fd) (member : other ∈ r.rfds) : other < fd :=
    Nat.lt_of_le_of_lt (inside other (.inl member)) past
  have writes (other : Fd) (member : other ∈ r.wfds) : other < fd :=
    Nat.lt_of_le_of_lt (inside other (.inr member)) past
  refine ⟨⟨served.read.sorted, fun other => ?_⟩,
    ⟨served.written.sorted, fun other => ?_⟩, fun other member => ?_⟩
  · rw [served.read.past fun other wants => reads other wants.1]
    exact (and_iff_left_of_imp fun wants =>
      Nat.lt_succ_of_le (inside other (.inl wants.1))).symm
  · rw [served.written.past fun other wants => writes other wants.1]
    exact (and_iff_left_of_imp fun wants =>
      Nat.lt_succ_of_le (inside other (.inr wants.1))).symm
  · have was := (served.closed other member).1
    have wants := (served.read.mem_iff other).mp was
    exact ⟨was, Nat.lt_succ_of_le (inside other (.inl wants.1.1))⟩

theorem Scanned.of_step {r r' : Round ω} {event : Event}
    (scanned : r.Scanned env) (looping : Looping env r'.loop)
    (looped : r.loop.next env event = .ok r'.loop)
    (rfds : r'.rfds = r.rfds) (wfds : r'.wfds = r.wfds)
    (select : r'.loop.phase = .select → r'.Served
      (r'.loop.server.maxFd + 1) (r'.loop.server.maxFd + 1))
    (reading : ∀ fd rfds wfds, r'.loop.phase = .read fd rfds wfds →
      rfds = r'.rfds ∧ wfds = r'.wfds ∧ r'.Served fd fd)
    (writing : ∀ fd rfds wfds, r'.loop.phase = .write fd rfds wfds →
      rfds = r'.rfds ∧ wfds = r'.wfds ∧ fd ∉ r'.closed ∧
        r'.Served (fd + 1) fd) : r'.Scanned env := by
  obtain ⟨listens, grows, clients⟩ := Loop.next_bounds looped
  refine ⟨looping, ?_, ?_, ?_, select, reading, writing⟩
  · rw [listens]
    exact scanned.listens.trans grows
  · intro fd opened
    rcases clients fd opened with before | below
    · exact (scanned.clients fd before).trans grows
    · exact below
  · intro fd ready
    rw [rfds, wfds] at ready
    exact (scanned.inside fd ready).trans grows

theorem Scanned.ready {r : Round ω} {rfds wfds : List Fd}
    (scanned : r.Scanned env)
    (looping : Looping env
      { r.loop with phase := .read r.loop.server.listenFd rfds wfds })
    (reads : ∀ fd ∈ rfds, Loop.watched r.loop.server fd = true)
    (writes : ∀ fd ∈ wfds, r.loop.server.conns.wfds fd = true) :
    Scanned env ({
      loop := { r.loop with phase := .read r.loop.server.listenFd rfds wfds }
      rfds := rfds
      wfds := wfds } : Round ω) := by
  have read (fd : Fd) (ready : fd ∈ rfds) : r.loop.server.listenFd ≤ fd ∧
      fd ≤ r.loop.server.maxFd := by
    have asked := reads fd ready
    simp only [Loop.watched, Bool.or_eq_true, Bool.and_eq_true,
      decide_eq_true_eq] at asked
    rcases asked with opened | ⟨_, same⟩
    · exact ⟨Nat.le_of_lt (scanned.looping.above fd opened),
        scanned.clients fd opened⟩
    · rw [same]
      exact ⟨Nat.le_refl _, scanned.listens⟩
  have write (fd : Fd) (ready : fd ∈ wfds) : r.loop.server.listenFd ≤ fd ∧
      fd ≤ r.loop.server.maxFd := by
    have opened := ((scanned.looping.watched_iff fd).mp (writes fd ready)).1
    exact ⟨Nat.le_of_lt (scanned.looping.above fd opened),
      scanned.clients fd opened⟩
  refine ⟨looping, scanned.listens, scanned.clients, ?_, ?_, ?_, ?_⟩
  · rintro fd (ready | ready)
    · exact (read fd ready).2
    · exact (write fd ready).2
  · rintro ⟨⟩
  · rintro _ _ _ ⟨⟩
    refine ⟨rfl, rfl, .start ?_, .start ?_, ?_⟩
    · exact fun fd wants => (read fd wants.1).1
    · exact fun fd wants => (write fd wants.1).1
    · intro fd member
      cases member
  · rintro _ _ _ ⟨⟩

theorem Scanned.read_step {r : Round ω} {fd : Fd} {rfds wfds : List Fd}
    {event : Event} {loop : Loop ω} (scanned : r.Scanned env)
    (phase : r.loop.phase = .read fd rfds wfds)
    (allowed : r.loop.Enabled event)
    (looped : r.loop.next env event = .ok loop) (looping : Looping env loop) :
    (r.noted event loop).Scanned env := by
  obtain ⟨rfl, rfl, served⟩ := scanned.reading fd rfds wfds phase
  have moved := looped
  cases event with
  | ready rfds wfds => simp [Loop.Enabled, phase] at allowed
  | sent net => simp [Loop.Enabled, phase] at allowed
  | accepted cfd =>
      simp only [Loop.Enabled, phase] at allowed
      simp only [Loop.next, phase] at moved
      cases cfd with
      | none =>
          cases moved
          have other : ¬ r.Reads fd := fun wants => wants.2 allowed.2.2.1
          obtain ⟨kept, skipped⟩ := served.skipRead other
          simp only [noted]
          refine scanned.of_step looping looped rfl rfl ?_ ?_ ?_
          · rintro ⟨⟩
          · rintro _ _ _ ⟨⟩
          · rintro _ _ _ ⟨⟩
            exact ⟨rfl, rfl, kept, skipped.congr rfl rfl rfl rfl rfl rfl⟩
      | some cfd =>
          cases moved
          simp only [noted]
          refine scanned.of_step looping looped rfl rfl ?_ ?_ ?_
          · rintro ⟨⟩
          · rintro _ _ _ ⟨⟩
            exact ⟨rfl, rfl, served.congr rfl rfl rfl rfl rfl rfl⟩
          · rintro _ _ _ ⟨⟩
  | received net =>
      simp only [Loop.Enabled, phase] at allowed
      simp only [Loop.next, phase] at moved
      have wants : r.Reads fd := ⟨allowed.2.1, allowed.2.2⟩
      have listens := (Loop.next_bounds looped).1
      obtain ⟨⟨res, server⟩, read, rest⟩ := Exec.of_bind_ok moved
      cases res with
      | true =>
          cases rest
          simp only [noted, phase]
          refine scanned.of_step looping looped rfl rfl ?_ ?_ ?_
          · rintro ⟨⟩
          · rintro _ _ _ ⟨⟩
          · rintro _ _ _ ⟨⟩
            exact ⟨rfl, rfl, served.reads wants rfl rfl rfl rfl rfl listens⟩
      | false =>
          cases rest
          simp only [noted, phase]
          refine scanned.of_step looping looped rfl rfl ?_ ?_ ?_
          · rintro ⟨⟩
          · rintro _ _ _ ⟨⟩
            exact ⟨rfl, rfl,
              served.closes wants rfl rfl rfl rfl rfl listens⟩
          · rintro _ _ _ ⟨⟩
  | pass =>
      simp only [Loop.Enabled, phase] at allowed
      simp only [Loop.next, phase] at moved
      split at moved
      next past =>
        cases moved
        simp only [noted]
        refine scanned.of_step looping looped rfl rfl ?_ ?_ ?_
        · rintro ⟨⟩
          exact (served.finish past scanned.inside).congr rfl rfl rfl rfl rfl
            rfl
        · rintro _ _ _ ⟨⟩
        · rintro _ _ _ ⟨⟩
      next here =>
        cases moved
        have other : ¬ r.Reads fd := by
          rintro ⟨ready, client⟩
          rcases allowed with past | absent | listening
          · exact here past
          · exact absent ready
          · exact client listening.1
        obtain ⟨kept, skipped⟩ := served.skipRead other
        simp only [noted]
        refine scanned.of_step looping looped rfl rfl ?_ ?_ ?_
        · rintro ⟨⟩
        · rintro _ _ _ ⟨⟩
        · rintro _ _ _ ⟨⟩
          exact ⟨rfl, rfl, kept, skipped.congr rfl rfl rfl rfl rfl rfl⟩

theorem Scanned.write_step {r : Round ω} {fd : Fd} {rfds wfds : List Fd}
    {event : Event} {loop : Loop ω} (scanned : r.Scanned env)
    (phase : r.loop.phase = .write fd rfds wfds)
    (allowed : r.loop.Enabled event)
    (looped : r.loop.next env event = .ok loop) (looping : Looping env loop) :
    (r.noted event loop).Scanned env := by
  obtain ⟨rfl, rfl, kept, served⟩ := scanned.writing fd rfds wfds phase
  have moved := looped
  cases event with
  | ready rfds wfds => simp [Loop.Enabled, phase] at allowed
  | accepted cfd => simp [Loop.Enabled, phase] at allowed
  | received net => simp [Loop.Enabled, phase] at allowed
  | sent net =>
      simp only [Loop.Enabled, phase] at allowed
      simp only [Loop.next, phase] at moved
      have listens := (Loop.next_bounds looped).1
      obtain ⟨server, written, rest⟩ := Exec.of_bind_ok moved
      cases rest
      simp only [noted, phase]
      refine scanned.of_step looping looped rfl rfl ?_ ?_ ?_
      · rintro ⟨⟩
      · rintro _ _ _ ⟨⟩
        exact ⟨rfl, rfl,
          served.writes ⟨allowed, kept⟩ rfl rfl rfl rfl rfl listens⟩
      · rintro _ _ _ ⟨⟩
  | pass =>
      simp only [Loop.Enabled, phase] at allowed
      simp only [Loop.next, phase] at moved
      cases moved
      have skipped := served.skipWrite fun wants => allowed wants.1
      simp only [noted]
      refine scanned.of_step looping looped rfl rfl ?_ ?_ ?_
      · rintro ⟨⟩
      · rintro _ _ _ ⟨⟩
        exact ⟨rfl, rfl, skipped.congr rfl rfl rfl rfl rfl rfl⟩
      · rintro _ _ _ ⟨⟩

end Round

theorem scanned_invariant :
    (rounds env).Invariant (Round.Scanned env) where
  start := by
    rintro r ⟨⟨db, listenFd, initial⟩, same⟩
    obtain ⟨loop, rfds, wfds, read, written, closed⟩ := r
    cases initial
    cases same
    refine ⟨Looping.init db listenFd, Nat.le_refl _, ?_, ?_, ?_, ?_, ?_⟩
    · intro fd opened
      cases opened
    · rintro fd (ready | ready) <;> cases ready
    · intro _
      refine ⟨.start ?_, .start ?_, ?_⟩
      · rintro fd ⟨ready, _⟩
        cases ready
      · rintro fd ⟨ready, _⟩
        cases ready
      · intro fd member
        cases member
    · rintro _ _ _ ⟨⟩
    · rintro _ _ _ ⟨⟩
  kept := by
    intro before event after reached scanned allowed moved
    obtain ⟨loop, looped, rest⟩ := Exec.of_bind_ok moved
    cases rest
    have looping : Looping env loop := looping_invariant.kept before.loop event
      loop (Round.loop_reached reached) scanned.looping allowed looped
    have enabled : before.loop.Enabled event := allowed
    cases phase : before.loop.phase with
    | select =>
        have looped' := looped
        cases event with
        | ready rfds wfds =>
            simp only [Loop.Enabled, phase] at enabled
            simp only [Loop.next, phase] at looped'
            cases looped'
            exact scanned.ready looping enabled.1 enabled.2
        | accepted cfd => simp [Loop.Enabled, phase] at enabled
        | received net => simp [Loop.Enabled, phase] at enabled
        | sent net => simp [Loop.Enabled, phase] at enabled
        | pass => simp [Loop.Enabled, phase] at enabled
    | read fd rfds wfds =>
        exact scanned.read_step phase enabled looped looping
    | write fd rfds wfds =>
        exact scanned.write_step phase enabled looped looping

/-- When the loop comes back to `select`, every client that was ready for
reading has been read from once, every one that was ready for writing has been
written to once unless it was closed before, both in ascending order; and no
client is beyond the descriptors that the next round looks at. -/
theorem rounds_complete (env : Env ω) (r : Round ω)
    (reached : (rounds env).Reachable r) (phase : r.loop.phase = .select) :
    (r.read.Pairwise (· < ·) ∧
      ∀ fd, fd ∈ r.read ↔ fd ∈ r.rfds ∧ fd ≠ r.loop.server.listenFd) ∧
    (r.written.Pairwise (· < ·) ∧
      ∀ fd, fd ∈ r.written ↔ fd ∈ r.wfds ∧ fd ∉ r.closed) ∧
    (∀ fd ∈ r.closed, fd ∈ r.read) ∧
    ∀ fd, r.loop.server.clientFds fd = true →
      r.loop.server.listenFd < fd ∧ fd ≤ r.loop.server.maxFd := by
  have scanned := scanned_invariant.holds reached
  have served := scanned.select phase
  refine ⟨⟨served.read.sorted, ?_⟩, ⟨served.written.sorted, ?_⟩, ?_, ?_⟩
  · exact served.read.past fun fd wants =>
      Nat.lt_succ_of_le (scanned.inside fd (.inl wants.1))
  · exact served.written.past fun fd wants =>
      Nat.lt_succ_of_le (scanned.inside fd (.inr wants.1))
  · exact fun fd member => (served.closed fd member).1
  · exact fun fd opened =>
      ⟨scanned.looping.above fd opened, scanned.clients fd opened⟩

/-- The third round of the client that is answered. -/
theorem rounds_complete_answer : ∃ r, (rounds Tables.env).Reachable r ∧
    r.wfds = [4] ∧ ∀ fd, fd ∈ r.written ↔ fd ∈ r.wfds ∧ fd ∉ r.closed := by
  have replayed : ((rounds Tables.env).replay
      { loop := ⟨.init (Tables.ofUsers []) 3, .select⟩ }
      (threeRounds ++ [.sent [.took 2], .pass])).any (fun r =>
        r.wfds = [4] && match r.loop.phase with
        | .select => true
        | _ => false) = true := by
    decide +kernel
  obtain ⟨r, reached, here⟩ :=
    Machine.Reachable.of_replay replayed ⟨⟨_, _, rfl⟩, rfl⟩
  rw [Bool.and_eq_true, decide_eq_true_eq] at here
  cases phase : r.loop.phase with
  | select =>
      exact ⟨r, reached, here.1,
        (rounds_complete Tables.env r reached phase).2.1.2⟩
  | read fd rfds wfds =>
      rw [phase] at here
      cases here.2
  | write fd rfds wfds =>
      rw [phase] at here
      cases here.2

end GroupChat.Server
