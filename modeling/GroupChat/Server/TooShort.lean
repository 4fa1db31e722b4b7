import GroupChat.Server.Replies

namespace GroupChat.Server

/-! A header that is too short, and what is queued because of it. -/

variable {ω : Type} {env : Env ω} {fd : Fd}

/-- The header that came in declares less than its own length. -/
def Conn.Stuck (conn : Conn) : Prop :=
  conn.recvingHeader = false ∧ conn.expectLen < 0

instance (conn : Conn) : Decidable conn.Stuck :=
  inferInstanceAs (Decidable (_ ∧ _))

/-- The server after a header that is too short.  `answers` are the messages
that the calls of `recv_msg` on the connection have queued there since, `reads`
the number of these calls behind the one that took the header in. -/
structure Malformed (ω : Type) where
  state : State ω
  answers : List Message
  reads : Nat := 0

def Step.reads (fd : Fd) : Step → Bool
  | .recvMsg target _ => target = fd
  | _ => false

def newPushes (fd : Fd) (s s' : State ω) : List Message :=
  (s'.conns.conns fd).history.pushed.drop
    (s.conns.conns fd).history.pushed.length

namespace Malformed

def next (env : Env ω) (fd : Fd) (m : Malformed ω) (step : Step) :
    Exec (Malformed ω) := do
  let state ← m.state.next env step
  if step.reads fd then
    .ok ⟨state, m.answers ++ newPushes fd m.state state, m.reads + 1⟩
  else
    .ok { m with state := state }

/-- A call of `recv_msg` has just taken in a header that is too short. -/
def Begins (env : Env ω) (fd : Fd) (m : Malformed ω) : Prop :=
  ∃ (before : State ω) (net : List ReadResult),
    (orderly env).Reachable before ∧
    (orderly env).enabled before (.recvMsg fd net) ∧
    ¬ (before.conns.conns fd).Stuck ∧
    ((before.conns.conns fd).receive net).1 = .tooShort ∧
    before.next env (.recvMsg fd net) = .ok m.state ∧
    m.answers = newPushes fd before m.state ∧ m.reads = 0

end Malformed

/-- The runs from such a header up to the end of the connection. -/
def malformed (env : Env ω) (fd : Fd) : Machine (Malformed ω) Step where
  initial := Malformed.Begins env fd
  enabled := fun m step =>
    (orderly env).enabled m.state step ∧ step ≠ .closeConn fd
  next := Malformed.next env fd

instance (m : Malformed ω) : DecidablePred ((malformed env fd).enabled m) :=
  fun step => inferInstanceAs (Decidable ((_ ∧ _) ∧ step ≠ .closeConn fd))

namespace Conn

theorem Stuck.receive {conn : Conn} (stuck : conn.Stuck)
    (net : List ReadResult) : conn.receive net = (.tooShort, conn) := by
  rw [receive_data stuck.1, recvData, if_pos stuck.2]

theorem Stuck.congr {conn conn' : Conn} (stuck : conn.Stuck)
    (same : SameReceiving conn conn') : conn'.Stuck := by
  obtain ⟨data, short⟩ := stuck
  refine ⟨same.recvingHeader.trans data, ?_⟩
  rw [expectLen, same.recvMsg]
  exact short

end Conn

theorem State.called_unknown {s : State ω} (kept : Bool)
    (conn : Conn) : ((s.called fd kept ((s.conns.setConn fd
      conn).parseUnknown fd)).conns.conns fd) =
        conn.push (Connections.unknownMsg conn.recvMsg.header.type) := by
  simp [State.called, Connections.parseUnknown, Connections.push,
    Connections.frame]

theorem State.newPushes_unknown {s : State ω} {net : List ReadResult}
    (reached : (machine env).Reachable s) (kept : Bool) :
    newPushes fd s (s.called fd kept ((s.conns.setConn fd
      ((s.conns.conns fd).receive net).2).parseUnknown fd)) =
        [Connections.unknownMsg
          ((s.conns.conns fd).receive net).2.recvMsg.header.type] := by
  obtain ⟨_, took⟩ := Conn.receive_received net
    (queues_invariant.holds reached fd).receiving
  rw [newPushes, State.called_unknown, ← took.same.pushed]
  exact List.drop_left

theorem State.next_tooShort {s s' : State ω} {net : List ReadResult}
    (reached : (machine env).Reachable s)
    (short : ((s.conns.conns fd).receive net).1 = .tooShort)
    (moved : s.next env (.recvMsg fd net) = .ok s') :
    newPushes fd s s' = [Connections.unknownMsg
      ((s.conns.conns fd).receive net).2.recvMsg.header.type] ∧
      Conn.SameReceiving ((s.conns.conns fd).receive net).2
        (s'.conns.conns fd) := by
  obtain ⟨⟨kept, conns⟩, received, rest⟩ := Exec.of_bind_ok moved
  cases rest
  obtain ⟨_, closed | waiting | tooShort | complete⟩ :=
    Connections.recvMsg_ok received
  · exact absurd (short.symm.trans closed.1) (by decide)
  · exact absurd (short.symm.trans waiting.1) (by decide)
  · obtain ⟨_, _, rfl⟩ := tooShort
    refine ⟨State.newPushes_unknown reached kept, ?_⟩
    rw [State.called_unknown]
    exact ⟨rfl, rfl, rfl, rfl, rfl⟩
  · exact absurd (short.symm.trans complete.1) (by decide)

namespace Malformed

/-- The connection still holds the header, and every call has answered it. -/
structure Answered (env : Env ω) (fd : Fd) (m : Malformed ω) : Prop where
  reached : (orderly env).Reachable m.state
  opened : m.state.clientFds fd = true
  stuck : (m.state.conns.conns fd).Stuck
  answers : m.answers = List.replicate (m.reads + 1) (Connections.unknownMsg
    (m.state.conns.conns fd).recvMsg.header.type)

theorem answered_invariant :
    (malformed env fd).Invariant (Answered env fd) where
  start := by
    rintro m ⟨before, net, reached, allowed, _, short, moved, answers, reads⟩
    obtain ⟨queued, same⟩ :=
      State.next_tooShort reached.of_restrict short moved
    have stuck : ((before.conns.conns fd).receive net).2.Stuck :=
      Conn.receive_tooShort short
    refine ⟨reached.step allowed moved, ?_, stuck.congr same, ?_⟩
    · rw [State.next_clientFds moved]
      exact allowed.1
    · rw [answers, reads, queued, same.recvMsg]
      rfl
  kept := by
    intro before step after _ answered allowed moved
    obtain ⟨reached, opened, stuck, answers⟩ := answered
    obtain ⟨allowed, going⟩ := allowed
    obtain ⟨state, stepped, rest⟩ := Exec.of_bind_ok moved
    have next := reached.step allowed stepped
    have raw := reached.of_restrict
    cases reading : step.reads fd with
    | true =>
        rw [reading, if_pos rfl] at rest
        cases rest
        cases step with
        | recvMsg target net =>
            have here : target = fd := of_decide_eq_true reading
            subst here
            have received := stuck.receive net
            obtain ⟨queued, same⟩ := State.next_tooShort raw
              (by rw [received]) stepped
            rw [received] at queued same
            refine ⟨next, ?_, stuck.congr same, ?_⟩
            · rw [State.next_clientFds stepped]
              exact opened
            · dsimp only
              rw [queued, same.recvMsg, answers, ← List.replicate_succ']
        | accept _ | sendMsg _ _ | closeConn _ => cases reading
    | false =>
        rw [reading, if_neg Bool.false_ne_true] at rest
        cases rest
        have kept : state.clientFds fd = true ∧ Conn.SameReceiving
            (before.state.conns.conns fd) (state.conns.conns fd) := by
          cases State.moves (sessions_invariant.holds raw) allowed.1 stepped
            fd with
          | accept closed _ _ _ _ =>
              rw [opened] at closed
              cases closed
          | recvMsg _ _ _ _ _ _ => simp [Step.reads] at reading
          | @sendMsg net msg outlet conn opened' clientFds front sent same wfds
              hung =>
              obtain ⟨_, _, transmitted⟩ := Conn.transmit_transmitted sent
              rw [same]
              exact ⟨clientFds.trans opened, transmitted.same⟩
          | closeConn _ _ _ _ => exact absurd rfl going
          | other elsewhere clientFds opened' same made wfds hung =>
              rw [same]
              exact ⟨clientFds.trans opened, Conn.pushAll_same _ _⟩
        refine ⟨next, kept.1, stuck.congr kept.2, ?_⟩
        dsimp only
        rw [kept.2.recvMsg]
        exact answers

end Malformed

/-- A header that is too short is answered once, by the call that took it in,
and once more by each call that comes before the connection is closed. -/
theorem tooShort_answered_iff (env : Env ω) (fd : Fd) (m : Malformed ω)
    (reached : (malformed env fd).Reachable m) :
    (∃ msg, m.answers = [msg] ∧ msg.header.subType = 0xFF) ↔ m.reads = 0 := by
  have answers := (Malformed.answered_invariant.holds reached).answers
  constructor
  · rintro ⟨msg, once, _⟩
    have count := congrArg List.length (answers.symm.trans once)
    rw [List.length_replicate, List.length_singleton] at count
    exact Nat.succ.inj count
  · intro none
    rw [none] at answers
    exact ⟨_, answers, rfl⟩

def shortHeader : Header := ⟨0x13, 0x00, 3⟩

/-- What follows such a header on the first connection, up to a state with a
property. -/
def shortThen (schedule : List Step) (property : Malformed Tables → Bool) :
    Bool :=
  ((orderly Tables.env).replay threeUsers [.accept 4]).any fun before =>
    decide ((orderly Tables.env).enabled before
      (.recvMsg 4 [.data shortHeader.wire])) &&
    decide (¬ (before.conns.conns 4).Stuck) &&
    decide (((before.conns.conns 4).receive [.data shortHeader.wire]).1 =
      .tooShort) &&
    (before.next Tables.env (.recvMsg 4 [.data shortHeader.wire])).any
      fun state => ((malformed Tables.env 4).replay
        ⟨state, newPushes 4 before state, 0⟩ schedule).any property

theorem shortThen_reached {schedule : List Step}
    {property : Malformed Tables → Bool}
    (replayed : shortThen schedule property = true) :
    ∃ m, (malformed Tables.env 4).Reachable m ∧ property m = true := by
  obtain ⟨before, first, rest⟩ := (Option.any_eq_true _ _).mp replayed
  simp only [Bool.and_eq_true, decide_eq_true_eq] at rest
  obtain ⟨⟨⟨allowed, free⟩, short⟩, rest⟩ := rest
  obtain ⟨state, moved, rest⟩ := Exec.any_iff.mp rest
  have reached : (orderly Tables.env).Reachable before :=
    Machine.Reachable.replay (.initial threeUsers_initial) first
  exact Machine.Reachable.of_replay rest
    ⟨before, _, reached, allowed, free, short, moved, rfl, rfl⟩

theorem tooShort_answered_once : ∃ m,
    (malformed Tables.env 4).Reachable m ∧ m.state.clientFds 5 = true ∧
    ∃ msg, m.answers = [msg] ∧ msg.header.subType = 0xFF := by
  obtain ⟨m, reached, holds⟩ := @shortThen_reached [.accept 5]
    (fun m => m.reads = 0 ∧ m.state.clientFds 5 = true) (by decide +kernel)
  obtain ⟨none, opened⟩ := of_decide_eq_true holds
  exact ⟨m, reached, opened,
    (tooShort_answered_iff Tables.env 4 m reached).mpr none⟩

/-- Bytes behind the header are not read, and each time they make the
connection readable there is an answer more. -/
theorem tooShort_answered_twice : ¬ ∀ m,
    (malformed Tables.env 4).Reachable m →
    ∃ msg, m.answers = [msg] ∧ msg.header.subType = 0xFF := by
  intro always
  obtain ⟨m, reached, holds⟩ := @shortThen_reached
    [.recvMsg 4 [.data [0]]] (fun m => m.answers.length = 2)
    (by decide +kernel)
  obtain ⟨msg, once, _⟩ := always m reached
  have two := of_decide_eq_true holds
  rw [once] at two
  cases two

end GroupChat.Server
