import GroupChat.Client.Receiving
import GroupChat.Client.Writing
import GroupChat.Server.Delivery
import GroupChat.System.Transfer

namespace GroupChat.System

/-! The two byte streams of a connection as queues of whole messages. -/

open Client
open Server hiding Uid machine Record

variable {ω : Type} {env : Env ω}

theorem wire_received (msg : Message) : (received msg).wire = msg.bytes := by
  rw [Message.wire, Message.bytes, received, Header.wire_ntohs]

theorem prefix_of_wire {frames msgs : List Message}
    (front : frames.map Message.wire <+: msgs.map Message.bytes) :
    frames <+: msgs.map received := by
  have bytes : msgs.map Message.bytes =
      (msgs.map received).map Message.wire := by
    rw [List.map_map]
    exact List.map_congr_left fun msg _ => (wire_received msg).symm
  rw [bytes] at front
  obtain ⟨tail, same⟩ := front
  obtain ⟨first, rest, split, wires, _⟩ :=
    List.map_eq_append_iff.mp same.symm
  have first' : first = frames :=
    List.map_injective_iff.mpr (fun _ _ => wire_injective) wires
  exact ⟨rest, by rw [split, first']⟩

theorem wireOf_received (msgs : List Message) :
    wireOf (msgs.map received) = streamOf msgs := by
  induction msgs with
  | nil => rfl
  | cons msg msgs induction =>
      rw [List.map_cons, wireOf_cons, streamOf_cons, induction, wire_received]

theorem whole_received {msg : Message} (sized : msg.sized = true) :
    Whole (received msg) :=
  of_decide_eq_true sized |>.symm

section

variable {s : State ω} {fd : Fd} {host : Host} {clock : Nat → Int}
  {c : TcpClient} {arrivals : List Buffer}

/-- Of the messages queued on a connection, its client dispatches the first
ones, unchanged. -/
theorem dispatched_prefix (reached : (orderly env).Reachable s)
    (opened : s.clientFds fd = true) (connected : c.isOpen = true)
    (carried : arrivals.flatten <+: (s.conns.conns fd).history.accepted)
    {fuel : Nat} {r : Receiver} (returned :
      receive host clock fuel fuel ⟨c, ⟨[], arrivals⟩, []⟩ = .ok r) :
    r.dispatched <+: (s.conns.conns fd).history.pushed.map received ∧
      handleAll host clock 0 c r.dispatched = .ok r.client := by
  obtain ⟨sent, part, delivers⟩ := delivers_invariant.holds reached fd opened
  obtain ⟨_, done, progress⟩ := receive_progress connected rfl returned
  have dispatched : r.dispatched = done := progress.dispatched
  obtain ⟨tail, stream, _⟩ := progress.stream
  have stream : arrivals.flatten = wireOf done ++ tail := stream
  rw [dispatched]
  constructor
  · apply prefix_of_wire
    apply delivers.taken progress.whole
    exact (stream ▸ List.prefix_append _ _).trans carried
  · have handled := progress.handled []
    rw [List.append_nil] at handled
    exact handled.trans (by split <;> rfl)

/-- Once they are out and have arrived it has dispatched all of them. -/
theorem dispatched_all (reached : (orderly env).Reachable s)
    (opened : s.clientFds fd = true) (connected : c.isOpen = true)
    (out : (s.conns.conns fd).sendQue = [])
    (arrived : arrivals.flatten = (s.conns.conns fd).history.accepted)
    {c' : TcpClient} (handled : handleAll host clock 0 c
      ((s.conns.conns fd).history.pushed.map received) = .ok c') :
    ∃ fuel r, receive host clock fuel fuel ⟨c, ⟨[], arrivals⟩, []⟩ = .ok r ∧
      r.client = c' ∧ (c'.isOpen = true →
        r.dispatched = (s.conns.conns fd).history.pushed.map received) := by
  obtain ⟨sent, part, delivers⟩ := delivers_invariant.holds reached fd opened
  rw [out] at delivers
  have pushed : (s.conns.conns fd).history.pushed = sent := by
    rw [delivers.pushed, List.append_nil]
  have none : part = [] := by
    rcases delivers.begun with none | ⟨msg, front, _⟩
    · exact none
    · cases front
  have stream : arrivals.flatten =
      wireOf ((s.conns.conns fd).history.pushed.map received) ++ [] := by
    rw [arrived, delivers.accepted, none, wireOf_received, pushed]
  have whole : ∀ frame ∈ (s.conns.conns fd).history.pushed.map received,
      Whole frame := by
    intro frame member
    obtain ⟨msg, sent, rfl⟩ := List.mem_map.mp member
    exact whole_received (delivers.sized msg (pushed ▸ sent))
  let start : Receiver := ⟨c, ⟨[], arrivals⟩, []⟩
  let fuel := start.socket.stream.length + arrivals.length
  obtain ⟨r, returned⟩ := @receive_ends host clock fuel fuel start _ [] c'
    connected ⟨stream, whole, incomplete_nil, handled, .inl rfl⟩
    (Nat.le_add_right _ _) (Nat.le_add_left _ _) (Nat.le_add_left _ _)
  obtain ⟨ended, done, progress⟩ := receive_progress connected rfl returned
  obtain ⟨more, split, last⟩ := progress.cut ended whole incomplete_nil stream
  have dispatched : r.dispatched = done := progress.dispatched
  have client : r.client = c' := by
    have all := progress.handled more
    rw [← split] at all
    have all := handled.symm.trans all
    cases still : r.client.isOpen with
    | true =>
        rw [still, (last still).1] at all
        exact (Except.ok.inj all).symm
    | false =>
        rw [still] at all
        exact (Except.ok.inj all).symm
  refine ⟨fuel, r, returned, client, ?_⟩
  intro still
  rw [← client] at still
  rw [dispatched, split, (last still).1, List.append_nil]

/-- The messages queued on a connection reach its client in their order and
unchanged, and all of them once they are out and have arrived. -/
theorem pushed_dispatched (reached : (orderly env).Reachable s)
    (opened : s.clientFds fd = true) (connected : c.isOpen = true)
    (carried : arrivals.flatten <+: (s.conns.conns fd).history.accepted) :
    (∀ fuel r,
      receive host clock fuel fuel ⟨c, ⟨[], arrivals⟩, []⟩ = .ok r →
        r.dispatched <+: (s.conns.conns fd).history.pushed.map received ∧
          handleAll host clock 0 c r.dispatched = .ok r.client) ∧
    ((s.conns.conns fd).sendQue = [] →
      arrivals.flatten = (s.conns.conns fd).history.accepted →
      ∀ c', handleAll host clock 0 c
          ((s.conns.conns fd).history.pushed.map received) = .ok c' →
        ∃ fuel r,
          receive host clock fuel fuel ⟨c, ⟨[], arrivals⟩, []⟩ = .ok r ∧
          r.client = c' ∧ (c'.isOpen = true → r.dispatched =
            (s.conns.conns fd).history.pushed.map received)) :=
  ⟨fun _ _ returned => dispatched_prefix reached opened connected carried
      returned,
    fun out arrived _ handled => dispatched_all reached opened connected out
      arrived handled⟩

end

/-- A login and its three answers, read in two pieces. -/
theorem pushed_dispatched_login : ∃ s : State Tables,
    (s.conns.conns 4).history.pushed.length = 3 ∧
    ∃ fuel r, receive .latin1 (fun _ => 0) fuel fuel ⟨connectedClient,
      ⟨[], [(s.conns.conns 4).history.accepted.take 3,
        (s.conns.conns 4).history.accepted.drop 3]⟩, []⟩ = .ok r ∧
      r.dispatched = (s.conns.conns 4).history.pushed.map received := by
  have replayed : ((orderly Tables.env).replay threeUsers
      (arrives 4 [loginFrame "a"] ++
        [.sendMsg 4 [.took 4, .took 8], .sendMsg 4 [.took 4],
          .sendMsg 4 [.took 1, .eintr, .took 3, .took 8]])).any (fun s =>
        s.clientFds 4 && (s.conns.conns 4).sendQue.isEmpty &&
          (s.conns.conns 4).history.pushed.length = 3 &&
          (handleAll .latin1 (fun _ => 0) 0 connectedClient
            ((s.conns.conns 4).history.pushed.map received)).toOption.any
              TcpClient.isOpen) = true := by
    decide +kernel
  obtain ⟨s, reached, out⟩ :=
    Machine.Reachable.of_replay replayed threeUsers_initial
  simp only [Bool.and_eq_true, decide_eq_true_eq, List.isEmpty_iff] at out
  obtain ⟨⟨⟨opened, empty⟩, three⟩, handled⟩ := out
  have cut : [(s.conns.conns 4).history.accepted.take 3,
      (s.conns.conns 4).history.accepted.drop 3].flatten =
        (s.conns.conns 4).history.accepted := by
    rw [List.flatten_cons, List.flatten_singleton, List.take_append_drop]
  have carried : [(s.conns.conns 4).history.accepted.take 3,
      (s.conns.conns 4).history.accepted.drop 3].flatten <+:
        (s.conns.conns 4).history.accepted :=
    ⟨[], (List.append_nil _).trans cut⟩
  cases ran : handleAll .latin1 (fun _ => 0) 0 connectedClient
      ((s.conns.conns 4).history.pushed.map received) with
  | error fault =>
      rw [ran] at handled
      cases handled
  | ok c =>
      rw [ran] at handled
      obtain ⟨fuel, r, returned, _, all⟩ := (pushed_dispatched reached opened
        rfl carried).2 empty cut c ran
      exact ⟨s, three, fuel, r, returned, all handled⟩

/-- The bytes the socket has taken of frames that are sent one after the
other. -/
inductive Written : List Message → Buffer → Prop
  | none (frames : List Message) : Written frames []
  | going {frame : Message} {results : Nat → Int} {fuel : Nat}
      (writes : Writes frame.wire.length results)
      (late : LostLate frame.wire results) (frames : List Message) :
      Written (frame :: frames)
        ((writeFrame frame.wire results fuel).accepted frame.wire)
  | whole {frame : Message} {results : Nat → Int} {fuel : Nat}
      {frames : List Message} {bytes : Buffer}
      (writes : Writes frame.wire.length results)
      (late : LostLate frame.wire results)
      (ended : (writeFrame frame.wire results fuel).Ended frame.wire)
      (more : Written frames bytes) :
      Written (frame :: frames)
        ((writeFrame frame.wire results fuel).accepted frame.wire ++ bytes)

theorem Written.prefix_wireOf {frames : List Message} {bytes : Buffer}
    (written : Written frames bytes) : bytes <+: wireOf frames := by
  induction written with
  | none frames => exact List.nil_prefix
  | @going frame results fuel writes late frames =>
      rw [wireOf_cons]
      exact (late.accepted_prefix writes fuel).trans (List.prefix_append _ _)
  | whole writes late ended more induction =>
      rw [wireOf_cons, late.accepted_whole writes ended]
      exact (List.prefix_append_right_inj _).mpr induction

section

variable {s : State ω} {fd : Fd} {frames : List Message} {taken : Buffer}

/-- The frames a client has sent are handled in their order and unchanged, and
all of them once they were read. -/
theorem sent_parsed (reached : (orderly env).Reachable s)
    (opened : s.clientFds fd = true) (going : s.hung fd = false)
    (framed : ∀ frame ∈ frames, frame.Framed) (written : Written frames taken)
    (carried : delivered (s.conns.conns fd).history.reads <+: taken) :
    (s.conns.conns fd).history.parsed <+: frames ∧
      (delivered (s.conns.conns fd).history.reads = wireOf frames →
        (s.conns.conns fd).history.parsed = frames) := by
  have stream := carried.trans written.prefix_wireOf
  obtain ⟨k, deframed⟩ := deframes_invariant.holds reached fd opened going
    frames framed stream
  have proper := (queues_invariant.holds reached.of_restrict fd).receiving
  rw [deframed.parsed]
  refine ⟨List.take_prefix k frames, ?_⟩
  intro read
  have split : wireOf frames =
      wireOf (frames.take k) ++ wireOf (frames.drop k) := by
    rw [← wireOf_append, List.take_append_drop]
  have left : (s.conns.conns fd).partialFrame = wireOf (frames.drop k) := by
    rw [deframed.consumed, split] at read
    exact List.append_cancel_left read
  -- the part of a frame that is held is shorter than the frame
  have none : frames.drop k = [] := by
    cases behind : frames.drop k with
    | nil => rfl
    | cons frame rest =>
        have size := congrArg List.length left
        rw [behind, wireOf_cons, Message.wire, List.append_assoc,
          List.length_append, Header.length_wire, List.length_append] at size
        rcases deframed.position proper framed stream with
          ⟨header, few⟩ | ⟨next, found, data, _, few⟩
        · change _ < 4 at few
          rw [Conn.partialFrame, header, if_pos rfl, List.length_take] at size
          omega
        · have same : frame = next := by
            rw [Option.mem_def, ← List.head?_drop, behind] at found
            exact Option.some.inj found
          rw [Conn.partialFrame, data, if_neg Bool.false_ne_true,
            List.length_append, Header.length_wire, List.length_take, same]
            at size
          omega
  have parts := List.take_append_drop k frames
  rwa [none, List.append_nil] at parts

/-- A socket that takes some bytes at once and then no more. -/
def takesOnce (count : Nat) (call : Nat) : Int :=
  if call = 0 then count else 0

theorem countAfter_takesOnce (count calls : Nat) :
    countAfter (takesOnce count) (calls + 1) = count := by
  induction calls with
  | zero => exact (countAfter_succ _ 0).trans (Int.zero_add _)
  | succ calls induction =>
      rw [countAfter_succ, induction]
      exact Int.add_zero _

theorem takesOnce_writes {count size : Nat} (inside : count ≤ size) :
    Writes size (takesOnce count) where
  counts := by
    intro call _
    cases call with
    | zero =>
        refine ⟨Int.natCast_nonneg count, ?_⟩
        rw [← countAfter_succ, countAfter_takesOnce]
        exact Int.ofNat_le.mpr inside
    | succ call =>
        refine ⟨Int.le_refl 0, ?_⟩
        rw [← countAfter_succ, countAfter_takesOnce]
        exact Int.ofNat_le.mpr inside
  lost := by
    intro call lost
    cases call with
    | zero => exact absurd lost (by simp [takesOnce])
    | succ call => exact absurd lost (by simp [takesOnce])

theorem takesOnce_late (frame : Buffer) (count : Nat) :
    LostLate frame (takesOnce count) := by
  intro call lost _
  cases call with
  | zero => exact absurd lost (by simp [takesOnce])
  | succ call => exact absurd lost (by simp [takesOnce])

/-- A login, and a request of which only three bytes went out. -/
theorem sent_parsed_part : ∃ s : State Tables,
    (s.conns.conns 4).history.parsed.length = 1 ∧
      (s.conns.conns 4).history.parsed <+: loginThenRecords := by
  have replayed : ((orderly Tables.env).replay threeUsers
      [.accept 4, .recvMsg 4 [.data ((wireOf loginThenRecords).take 10)],
        .recvMsg 4 [.data (((wireOf loginThenRecords).drop 10).take 50)],
        .recvMsg 4 [.data (((wireOf loginThenRecords).drop 60).take 3)]]).any (fun s =>
        s.clientFds 4 && !s.hung 4 &&
          (s.conns.conns 4).history.parsed.length = 1 &&
          (delivered (s.conns.conns 4).history.reads).isPrefixOf
            ((wireOf loginThenRecords).take 63)) = true := by
    decide +kernel
  obtain ⟨s, reached, read⟩ :=
    Machine.Reachable.of_replay replayed threeUsers_initial
  simp only [Bool.and_eq_true, decide_eq_true_eq, Bool.not_eq_true',
    List.isPrefixOf_iff_prefix] at read
  obtain ⟨⟨⟨opened, going⟩, one⟩, carried⟩ := read
  have framed : ∀ frame ∈ loginThenRecords, frame.Framed := by
    simp only [loginThenRecords, List.forall_mem_cons]
    exact ⟨Message.ofData_framed (by decide) (by decide),
      Message.ofData_framed (by decide) (by decide), by simp⟩
  have whole : 60 ≤ (loginFrame "a").wire.length := by decide +kernel
  have some : 3 ≤ (Message.ofData 0x12 0x01
      (Buffer.ofWord 0xFFFF)).wire.length := by
    decide +kernel
  have ended : (writeFrame (loginFrame "a").wire (takesOnce 60) 1).Ended
      (loginFrame "a").wire := by
    show ((loginFrame "a").wire.length : Int) ≤
      (writeFrame (loginFrame "a").wire (takesOnce 60) 1).hasRead
    decide +kernel
  have written := Written.whole (takesOnce_writes whole) (takesOnce_late _ 60)
    ended (@Written.going _ _ 1 (takesOnce_writes some) (takesOnce_late _ 3) [])
  have taken : (wireOf loginThenRecords).take 63 =
      (writeFrame (loginFrame "a").wire (takesOnce 60) 1).accepted
        (loginFrame "a").wire ++
      (writeFrame (Message.ofData 0x12 0x01 (Buffer.ofWord 0xFFFF)).wire
        (takesOnce 3) 1).accepted
          (Message.ofData 0x12 0x01 (Buffer.ofWord 0xFFFF)).wire := by
    decide +kernel
  rw [taken] at carried
  exact ⟨s, one, (sent_parsed reached opened going framed written carried).1⟩

end

end GroupChat.System
