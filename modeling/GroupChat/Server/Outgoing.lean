import GroupChat.Lib.Path
import GroupChat.Server.Delivery
import GroupChat.Server.TCPServer

namespace GroupChat.Server

/-! What becomes of the messages in a queue: they get out in a bounded number of
calls, and nothing gets out behind a message that ends the connection. -/

variable {ω : Type} {env : Env ω}

namespace Conn

variable {conn conn' : Conn} {msg : Message} {net : List WriteResult}
  {outlet : Outlet}

theorem sendHeader_cases
    (sent : conn.sendHeader msg net = .ok (outlet, conn')) :
    ∃ write, WriteSpec net (msg.header.memory.drop conn.sendLen) write ∧
      (write.res ≤ 0 ∧ outlet = .closed ∧
          conn'.history = (conn.wrote write).history ∨
        0 < write.res ∧ conn.sendLen + write.accepted.length < sizeofHeader ∧
          outlet = .waiting ∧ conn'.history = (conn.wrote write).history ∨
        0 < write.res ∧ lastHeader msg.header = true ∧ outlet = .closed ∧
          conn'.history = (conn.wrote write).history ∨
        0 < write.res ∧ lastHeader msg.header = false ∧
          { conn.wrote write with sendingHeader := false, sendLen := 0
            }.sendData msg write.rest = .ok (outlet, conn')) := by
  unfold sendHeader at sent
  dsimp only at sent
  generalize outEq : writeToFd net (msg.header.memory.drop conn.sendLen) =
    write at sent
  have spec : WriteSpec net (msg.header.memory.drop conn.sendLen) write :=
    outEq ▸ writeToFd_spec _ _
  refine ⟨write, spec, ?_⟩
  split at sent
  next ended =>
    cases sent
    exact .inl ⟨ended, rfl, rfl⟩
  next some =>
    have some : 0 < write.res := Int.not_le.mp some
    have counted : write.res.toNat = write.accepted.length := by
      rcases spec.counts with ⟨counted, _⟩ | ⟨failed, _⟩ <;> omega
    rw [wrote_sendLen, counted] at sent
    split at sent
    next more =>
      cases sent
      exact .inr (.inl ⟨some, more, rfl, rfl⟩)
    next whole =>
      split at sent
      next last =>
        cases sent
        exact .inr (.inr (.inl ⟨some, last, rfl, rfl⟩))
      next goesOn =>
        exact .inr (.inr (.inr ⟨some, Bool.eq_false_iff.mpr goesOn, sent⟩))

theorem sendData_accepted
    (sent : conn.sendData msg net = .ok (outlet, conn')) :
    ∃ chunk, conn'.history.accepted = conn.history.accepted ++ chunk ∧
      (outlet ≠ .closed → 0 < msg.data.length → 0 < chunk.length) := by
  obtain ⟨_, _, rest⟩ := Exec.of_bind_ok sent
  split at rest
  next payload =>
    dsimp only at rest
    generalize outEq : writeToFd net (msg.data.drop conn.sendLen) = write
      at rest
    have spec : WriteSpec net (msg.data.drop conn.sendLen) write :=
      outEq ▸ writeToFd_spec _ _
    refine ⟨write.accepted, ?_⟩
    split at rest
    next ended =>
      cases rest
      exact ⟨rfl, fun going => absurd rfl going⟩
    next some =>
      have counted : 0 < write.accepted.length := by
        rcases spec.counts with ⟨counted, _⟩ | ⟨failed, _⟩ <;> omega
      split at rest
      · cases rest
        exact ⟨rfl, fun _ _ => counted⟩
      · cases rest
        exact ⟨rfl, fun _ _ => counted⟩
  next none =>
    cases rest
    exact ⟨[], (List.append_nil _).symm, fun _ payload => absurd payload none⟩

theorem transmit_grows (proper : conn.Sending msg)
    (sent : conn.transmit msg net = .ok (outlet, conn'))
    (going : outlet ≠ .closed) :
    conn.history.accepted.length < conn'.history.accepted.length := by
  cases header : conn.sendingHeader with
  | false =>
      rw [transmit, header, if_neg Bool.false_ne_true] at sent
      have payload : 0 < msg.data.length :=
        Nat.lt_of_le_of_lt (Nat.zero_le _) ((sending_data header).mp proper)
      obtain ⟨chunk, accepted, some⟩ := sendData_accepted sent
      have some := some going payload
      rw [accepted, List.length_append]
      omega
  | true =>
      rw [transmit, header, if_pos rfl] at sent
      obtain ⟨write, spec, closed | waiting | last | data⟩ :=
        sendHeader_cases sent
      · exact absurd closed.2.1 going
      · obtain ⟨some, _, _, history⟩ := waiting
        have counted : 0 < write.accepted.length := by
          rcases spec.counts with ⟨counted, _⟩ | ⟨failed, _⟩ <;> omega
        rw [history, wrote, List.length_append]
        omega
      · exact absurd last.2.2.1 going
      · obtain ⟨some, _, rest⟩ := data
        have counted : 0 < write.accepted.length := by
          rcases spec.counts with ⟨counted, _⟩ | ⟨failed, _⟩ <;> omega
        obtain ⟨chunk, accepted, _⟩ := sendData_accepted rest
        rw [accepted, wrote, List.length_append, List.length_append]
        omega

theorem progress_length (proper : conn.Sending msg) :
    (conn.progress msg).length < msg.bytes.length := by
  rw [Message.bytes, List.length_append, Header.length_memory, progress]
  cases header : conn.sendingHeader with
  | true =>
      have position : conn.sendLen < 4 := (sending_header header).mp proper
      rw [if_pos rfl, List.length_take]
      omega
  | false =>
      have position := (sending_data header).mp proper
      rw [if_neg Bool.false_ne_true, List.length_append,
        Header.length_memory, List.length_take]
      omega

theorem transmit_headerOnly (header : conn.sendingHeader = true)
    (proper : conn.Sending msg) (last : lastHeader msg.header = true)
    (sent : conn.transmit msg net = .ok (outlet, conn')) :
    ∃ chunk, conn'.history.accepted = conn.history.accepted ++ chunk ∧
      conn.progress msg ++ chunk <+: msg.header.memory ∧
      (conn.progress msg ++ chunk = msg.header.memory → outlet = .closed) := by
  have position := (sending_header header).mp proper
  have out : conn.progress msg = msg.header.memory.take conn.sendLen := by
    rw [progress, header, if_pos rfl]
  rw [transmit, header, if_pos rfl] at sent
  obtain ⟨write, spec, outcome⟩ := sendHeader_cases sent
  have added : conn.progress msg ++ write.accepted =
      msg.header.memory.take (conn.sendLen + write.accepted.length) := by
    rw [out, Buffer.take_append_of_prefix spec.takes]
  have within : conn.progress msg ++ write.accepted <+: msg.header.memory := by
    rw [added]
    exact List.take_prefix _ _
  refine ⟨write.accepted, ?_, within, ?_⟩
  · rcases outcome with closed | waiting | ended | data
    · rw [closed.2.2]
      rfl
    · rw [waiting.2.2.2]
      rfl
    · rw [ended.2.2.2]
      rfl
    · rw [data.2.1] at last
      cases last
  · intro whole
    rcases outcome with closed | waiting | ended | data
    · exact closed.2.1
    · have size := congrArg List.length whole
      rw [added, List.length_take, Header.length_memory] at size
      have less : conn.sendLen + write.accepted.length < 4 := waiting.2.1
      omega
    · exact ended.2.2.1
    · rw [data.2.1] at last
      cases last

/-- Of the messages up to one that ends the connection at most the header of
that one is out, and if it is, then the connection was given up. -/
def Ending (conn : Conn) (hung : Bool) : Prop :=
  ∀ before msg after, conn.history.pushed = before ++ msg :: after →
    lastHeader msg.header = true →
      conn.history.accepted <+: streamOf before ++ msg.header.memory ∧
        (conn.history.accepted = streamOf before ++ msg.header.memory →
          hung = true)

theorem Ending.congr {hung : Bool} (ending : conn.Ending hung)
    (accepted : conn'.history.accepted = conn.history.accepted)
    (pushed : conn'.history.pushed = conn.history.pushed) :
    conn'.Ending hung := by
  intro before msg after split last
  rw [pushed] at split
  rw [accepted]
  exact ending before msg after split last

theorem Ending.hang {hung hung' : Bool} (ending : conn.Ending hung)
    (later : hung = true → hung' = true) : conn.Ending hung' :=
  fun before msg after split last =>
    ⟨(ending before msg after split last).1,
      fun whole => later ((ending before msg after split last).2 whole)⟩

theorem ending_behind {before : List Message} {hung : Bool}
    {accepted : Buffer} (within : accepted <+: streamOf before) :
    accepted <+: streamOf before ++ msg.header.memory ∧
      (accepted = streamOf before ++ msg.header.memory → hung = true) := by
  refine ⟨within.trans (List.prefix_append _ _), ?_⟩
  intro whole
  have size := within.length_le
  rw [whole, List.length_append, Header.length_memory] at size
  exact absurd size (Nat.not_le_of_lt (Nat.lt_add_of_pos_right (by decide)))

theorem Ending.pushAll {hung : Bool} (ending : conn.Ending hung)
    (streaming : conn.Streaming hung) (l : List Message) :
    (conn.pushAll l).Ending hung := by
  obtain ⟨_, _, _, within, _⟩ := streaming
  intro before msg after split last
  rw [pushAll_pushed] at split
  rcases List.append_eq_append_iff.mp split with
    ⟨between, front, _⟩ | ⟨between, front, behind⟩
  · apply ending_behind
    rw [front, streamOf_append]
    exact within.trans (List.prefix_append _ _)
  · cases between with
    | nil =>
        apply ending_behind
        rw [List.append_nil] at front
        rw [← front]
        exact within
    | cons first between =>
        obtain ⟨here, _⟩ := List.cons.inj behind
        rw [← here] at front
        exact ending before msg between front last

theorem Ending.unfinished {before after : List Message} {rest : Buffer}
    (ending : conn.Ending false)
    (pushed : conn.history.pushed = before ++ msg :: after)
    (last : lastHeader msg.header = true) :
    conn.history.accepted ≠
      streamOf before ++ (msg.header.memory ++ rest) := by
  intro accepted
  obtain ⟨within, whole⟩ := ending before msg after pushed last
  rw [accepted] at within whole
  have none : rest = [] := by
    have size := within.length_le
    simp only [List.length_append] at size
    exact List.length_eq_zero_iff.mp (by omega)
  have hung := whole (by rw [none, List.append_nil])
  cases hung

theorem Ending.transmit (ending : conn.Ending false)
    (streaming : conn.Streaming false)
    (front : conn.sendQue.head? = some msg)
    (moved : conn.transmit msg net = .ok (outlet, conn')) :
    conn'.Ending (outlet = .closed) := by
  obtain ⟨sent, pushed, _, _, aligned⟩ := streaming
  obtain ⟨reported, chunk, transmitted⟩ := transmit_transmitted moved
  cases aligned rfl with
  | idle sendQue header start out =>
      rw [sendQue] at front
      cases front
  | @busy first rest sendQue proper out =>
      rw [sendQue] at front pushed
      cases front
      have accepted : conn'.history.accepted =
          streamOf sent ++ (conn.progress msg ++ chunk) := by
        rw [transmitted.accepted, out, List.append_assoc]
      have atFront (last : lastHeader msg.header = true) :
          conn'.history.accepted <+: streamOf sent ++ msg.header.memory ∧
            (conn'.history.accepted = streamOf sent ++ msg.header.memory →
              decide (outlet = .closed) = true) := by
        cases header : conn.sendingHeader with
        | true =>
            obtain ⟨chunk', written, within, whole⟩ :=
              transmit_headerOnly header proper last moved
            rw [written, out, List.append_assoc]
            refine ⟨(List.prefix_append_right_inj _).mpr within, ?_⟩
            intro same
            exact decide_eq_true (whole (List.append_cancel_left same))
        | false =>
            rw [progress, header, if_neg Bool.false_ne_true] at out
            exact absurd out (ending.unfinished pushed last)
      intro before other after split last
      rw [transmitted.pushed] at split
      have split' := pushed.symm.trans split
      rcases List.append_eq_append_iff.mp split' with
        ⟨between, behind, rest'⟩ | ⟨between, behind, rest'⟩
      · cases between with
        | nil =>
            obtain ⟨rfl, _⟩ := List.cons.inj rest'
            rw [behind, List.append_nil]
            exact atFront last
        | cons next between =>
            obtain ⟨rfl, _⟩ := List.cons.inj rest'
            apply ending_behind
            rw [accepted, behind, streamOf_append, streamOf_cons]
            exact (List.prefix_append_right_inj _).mpr
              (transmitted.within.trans (List.prefix_append _ _))
      · cases between with
        | nil =>
            obtain ⟨rfl, _⟩ := List.cons.inj rest'
            rw [List.append_nil] at behind
            rw [← behind]
            exact atFront last
        | cons next between =>
            obtain ⟨rfl, _⟩ := List.cons.inj rest'
            rw [behind, streamOf_append, streamOf_cons, Message.bytes] at out
            rw [List.append_assoc, List.append_assoc, List.append_assoc] at out
            exact absurd out (ending.unfinished split last)

end Conn

theorem ending_invariant : (orderly env).Invariant fun s =>
    ∀ fd, s.clientFds fd = true →
      (s.conns.conns fd).Ending (s.hung fd) where
  start := by
    rintro _ ⟨db, size, rfl⟩ fd opened
    cases opened
  kept := by
    intro before step after reached ending allowed moved fd opened
    have raw := reached.of_restrict
    have queues := queues_invariant.holds raw fd
    have streaming := streaming_invariant.holds reached fd
    cases State.moves (sessions_invariant.holds raw) allowed.1 moved fd with
    | accept closed opened conn wfds hung =>
        rw [conn]
        intro front msg behind split _
        have impossible := congrArg List.length split
        rw [List.length_append] at impossible
        cases impossible
    | @recvMsg net l opened clientFds conn made wfds hung =>
        obtain ⟨reported, received⟩ :=
          Conn.receive_received net queues.receiving
        rw [conn, hung]
        exact (((ending fd opened).congr received.same.accepted
          received.same.pushed).pushAll
            ((streaming opened).congr received.same) l).hang
              fun held => by rw [held, Bool.true_or]
    | @sendMsg net msg outlet next opened clientFds front sent conn wfds
        hung =>
        have going : before.hung fd = false := allowed.2
        have ended := ending fd opened
        have streaming := streaming opened
        rw [going] at ended streaming
        rw [conn, hung, going, Bool.false_or]
        exact ended.transmit streaming front sent
    | closeConn closed conn wfds hung =>
        rw [closed] at opened
        cases opened
    | @other _ l elsewhere clientFds _ conn made wfds hung =>
        rw [conn, hung]
        exact (ending fd (clientFds ▸ opened)).pushAll
          (streaming (clientFds ▸ opened)) l

/-- On a connection that the event loop keeps open, a message that ends the
connection is not out with its header, and nothing behind it is out at all. -/
theorem nothing_after_last (env : Env ω) (l : Loop ω)
    (reached : (eventLoop env).Reachable l) (fd : Fd)
    (opened : l.server.clientFds fd = true) (before : List Message)
    (msg : Message) (after : List Message)
    (pushed : (l.server.conns.conns fd).history.pushed =
      before ++ msg :: after)
    (last : Conn.lastHeader msg.header = true) :
    (l.server.conns.conns fd).history.accepted <+:
        streamOf before ++ msg.header.memory ∧
      (l.server.conns.conns fd).history.accepted ≠
        streamOf before ++ msg.header.memory := by
  have looping := looping_invariant.holds reached
  obtain ⟨within, whole⟩ := ending_invariant.holds looping.reached fd opened
    before msg after pushed last
  refine ⟨within, fun same => ?_⟩
  have impossible : false = true := whole same
  cases impossible

theorem nothing_after_last_part : ∃ l, (eventLoop Tables.env).Reachable l ∧
    (l.server.conns.conns 4).history.accepted.length = 2 ∧
    (l.server.conns.conns 4).history.accepted <+:
      (Connections.unknownMsg 0x20).header.memory := by
  have replayed : ((eventLoop Tables.env).replay
      ⟨.init (Tables.ofUsers []) 3, .select⟩
      (threeRounds ++ [.sent [.took 2]])).any (fun l =>
        l.server.clientFds 4 &&
          (l.server.conns.conns 4).history.pushed = [Connections.unknownMsg 0x20] &&
          (l.server.conns.conns 4).history.accepted.length = 2) = true := by
    decide +kernel
  obtain ⟨l, reached, here⟩ :=
    Machine.Reachable.of_replay replayed ⟨_, _, rfl⟩
  simp only [Bool.and_eq_true, decide_eq_true_eq] at here
  obtain ⟨⟨opened, pushed⟩, two⟩ := here
  exact ⟨l, reached, two, (nothing_after_last Tables.env l reached 4 opened []
    (Connections.unknownMsg 0x20) [] pushed (by decide)).1⟩

/-- The steps that send on a connection. -/
def Step.sends (fd : Fd) : Step → Bool
  | .sendMsg target _ => target = fd
  | _ => false

/-- What a part of a run leaves of a connection that was open at its beginning
and is not given up at its end. -/
structure Advances (before after : State ω) (fd : Fd) (sends : Nat) :
    Prop where
  accepted : (before.conns.conns fd).history.accepted.length + sends ≤
    (after.conns.conns fd).history.accepted.length
  pushed : (before.conns.conns fd).history.pushed <+:
    (after.conns.conns fd).history.pushed

theorem Advances.trans {before middle after : State ω} {fd : Fd}
    {sends sends' : Nat} (first : Advances before middle fd sends)
    (second : Advances middle after fd sends') :
    Advances before after fd (sends + sends') where
  accepted := by
    have one := first.accepted
    have two := second.accepted
    omega
  pushed := first.pushed.trans second.pushed

theorem Step.sends_elsewhere {fd : Fd} {step : Step}
    (elsewhere : step.fd ≠ fd) : step.sends fd = false := by
  cases step with
  | accept target => rfl
  | recvMsg target net => rfl
  | sendMsg target net => exact decide_eq_false elsewhere
  | closeConn target => rfl

theorem State.stays_open {before after : State ω} {fd : Fd} {step : Step}
    (moved : before.next env step = .ok after)
    (opened : before.clientFds fd = true) (stays : step ≠ .closeConn fd) :
    after.clientFds fd = true := by
  rw [State.next_clientFds moved]
  cases step with
  | accept target =>
      by_cases same : fd = target
      · rw [same]
        exact Function.update_self ..
      · exact (Function.update_of_ne same _ _).trans opened
  | recvMsg target net => exact opened
  | sendMsg target net => exact opened
  | closeConn target =>
      have differs : fd ≠ target := fun same => stays (same ▸ rfl)
      exact (Function.update_of_ne differs _ _).trans opened

theorem Advances.of_step {before after : State ω} {fd : Fd} {step : Step}
    (reached : (orderly env).Reachable before)
    (allowed : (orderly env).enabled before step)
    (moved : (orderly env).next before step = .ok after)
    (opened : before.clientFds fd = true) (stays : step ≠ .closeConn fd)
    (going : after.hung fd = false) :
    before.hung fd = false ∧
      Advances before after fd (if step.sends fd then 1 else 0) := by
  have raw := reached.of_restrict
  have queues := queues_invariant.holds raw fd
  cases State.moves (sessions_invariant.holds raw) allowed.1 moved fd with
  | accept closed _ conn wfds hung =>
      rw [closed] at opened
      cases opened
  | @recvMsg net l _ clientFds conn made wfds hung =>
      obtain ⟨reported, received⟩ :=
        Conn.receive_received net queues.receiving
      rw [hung, Bool.or_eq_false_iff] at going
      refine ⟨going.1, ?_, ?_⟩
      · rw [conn]
        exact Nat.le_of_eq
          (congrArg List.length received.same.accepted.symm)
      · rw [conn, Conn.pushAll_pushed, received.same.pushed]
        exact List.prefix_append _ _
  | @sendMsg net msg outlet next _ clientFds front sent conn wfds hung =>
      rw [hung, Bool.or_eq_false_iff] at going
      have streaming := streaming_invariant.holds reached fd opened
      obtain ⟨reported, chunk, transmitted⟩ := Conn.transmit_transmitted sent
      refine ⟨going.1, ?_, ?_⟩
      · have sends : Step.sends fd (.sendMsg fd net) = true :=
          decide_eq_true rfl
        obtain ⟨_, _, _, _, aligned⟩ := streaming
        cases aligned going.1 with
        | idle sendQue header start out =>
            rw [sendQue] at front
            cases front
        | @busy first rest sendQue proper out =>
            rw [sendQue] at front
            cases front
            rw [conn, sends, if_pos rfl]
            exact Conn.transmit_grows proper sent
              (of_decide_eq_false going.2)
      · have same : (after.conns.conns fd).history.pushed =
            (before.conns.conns fd).history.pushed := by
          rw [conn, transmitted.pushed]
        exact same.symm ▸ List.prefix_rfl
  | closeConn closed conn wfds hung => exact absurd rfl stays
  | @other _ l elsewhere clientFds _ conn made wfds hung =>
      rw [hung] at going
      refine ⟨going, ?_, ?_⟩
      · rw [conn, Step.sends_elsewhere elsewhere]
        exact Nat.le_refl _
      · rw [conn, Conn.pushAll_pushed]
        exact List.prefix_append _ _

theorem Advances.of_path {before after : State ω} {fd : Fd}
    {steps : List Step} (reached : (orderly env).Reachable before)
    (path : (orderly env).Path before steps after)
    (opened : before.clientFds fd = true)
    (stays : ∀ step ∈ steps, step ≠ .closeConn fd)
    (going : after.hung fd = false) :
    after.clientFds fd = true ∧ before.hung fd = false ∧
      Advances before after fd (steps.countP (Step.sends fd)) := by
  induction path with
  | nil state => exact ⟨opened, going, Nat.le_refl _, List.prefix_refl _⟩
  | cons allowed moved rest induction =>
      rw [List.forall_mem_cons] at stays
      obtain ⟨opened', going', later⟩ := induction
        (reached.step allowed moved)
        (State.stays_open moved opened stays.1) stays.2 going
      obtain ⟨before, first⟩ :=
        Advances.of_step reached allowed moved opened stays.1 going'
      refine ⟨opened', before, ?_⟩
      rw [List.countP_cons, Nat.add_comm]
      exact first.trans later

/-- As long as the calls do not give the connection up, what was queued on it
is out, or there were fewer calls than bytes left to send. -/
theorem queue_drained (env : Env ω) (before after : State ω) (fd : Fd)
    (steps : List Step) (reached : (orderly env).Reachable before)
    (path : (orderly env).Path before steps after)
    (opened : before.clientFds fd = true)
    (stays : ∀ step ∈ steps, step ≠ .closeConn fd)
    (going : after.hung fd = false) :
    (∃ later, (after.conns.conns fd).history.pushed =
        (before.conns.conns fd).history.pushed ++ later ∧
      (after.conns.conns fd).sendQue <:+ later ∧
      streamOf (before.conns.conns fd).history.pushed <+:
        (after.conns.conns fd).history.accepted) ∨
    (before.conns.conns fd).history.accepted.length +
        steps.countP (Step.sends fd) <
      (streamOf (before.conns.conns fd).history.pushed).length := by
  obtain ⟨opened', _, advances⟩ :=
    Advances.of_path reached path opened stays going
  obtain ⟨sent, pushed, within, _, aligned⟩ :=
    streaming_invariant.holds (path.reached reached) fd opened'
  have accepted := advances.accepted
  obtain ⟨later, same⟩ := advances.pushed
  have done (between : List Message)
      (front : sent = (before.conns.conns fd).history.pushed ++ between)
      (behind : later = between ++ (after.conns.conns fd).sendQue) :
      ∃ later, (after.conns.conns fd).history.pushed =
          (before.conns.conns fd).history.pushed ++ later ∧
        (after.conns.conns fd).sendQue <:+ later ∧
        streamOf (before.conns.conns fd).history.pushed <+:
          (after.conns.conns fd).history.accepted := by
    refine ⟨later, same.symm, ⟨between, behind.symm⟩, ?_⟩
    rw [front, streamOf_append] at within
    exact (List.prefix_append _ _).trans within
  rcases List.append_eq_append_iff.mp (same.trans pushed) with
    ⟨between, front, behind⟩ | ⟨between, front, behind⟩
  · exact .inl (done between front behind)
  · cases between with
    | nil =>
        exact .inl (done [] (by rw [front, List.append_nil, List.append_nil])
          behind.symm)
    | cons msg between =>
        -- a message that was queued is still in the queue
        right
        cases aligned going with
        | idle sendQue header start out =>
            rw [sendQue] at behind
            cases behind
        | @busy first rest sendQue proper out =>
            rw [sendQue] at behind
            obtain ⟨rfl, _⟩ := List.cons.inj behind
            have less := Conn.progress_length proper
            rw [out, List.length_append] at accepted
            rw [front, streamOf_append, streamOf_cons, List.length_append,
              List.length_append]
            omega

/-- The three answers to a login, of which the first is out after two calls. -/
theorem queue_drained_login : ∃ before after : State Tables,
    (after.conns.conns 4).sendQue.length = 2 ∧
    ((∃ later, (after.conns.conns 4).history.pushed =
        (before.conns.conns 4).history.pushed ++ later ∧
      (after.conns.conns 4).sendQue <:+ later ∧
      streamOf (before.conns.conns 4).history.pushed <+:
        (after.conns.conns 4).history.accepted) ∨
    (before.conns.conns 4).history.accepted.length + 2 <
      (streamOf (before.conns.conns 4).history.pushed).length) := by
  have replayed : ((orderly Tables.env).replay threeUsers
      (arrives 4 [loginFrame "a"])).any (fun before =>
        before.clientFds 4 && ((orderly Tables.env).replay before
          [.sendMsg 4 [.took 3, .again], .sendMsg 4 [.took 1, .took 8]]).any
            fun after => !after.hung 4 &&
              (after.conns.conns 4).sendQue.length = 2) = true := by
    decide +kernel
  obtain ⟨before, first, found⟩ := (Option.any_eq_true _ _).mp replayed
  rw [Bool.and_eq_true] at found
  obtain ⟨after, second, here⟩ := (Option.any_eq_true _ _).mp found.2
  simp only [Bool.and_eq_true, Bool.not_eq_true', decide_eq_true_eq] at here
  have stays : ∀ step ∈ [Step.sendMsg 4 [.took 3, .again],
      .sendMsg 4 [.took 1, .took 8]], step ≠ .closeConn 4 := by
    decide
  have start : (orderly Tables.env).Reachable threeUsers :=
    .initial threeUsers_initial
  have path := Machine.Path.of_replay second
  have drained := queue_drained Tables.env before after 4 _
    (start.replay first) path found.1 stays here.1
  exact ⟨before, after, here.2, drained⟩

end GroupChat.Server
