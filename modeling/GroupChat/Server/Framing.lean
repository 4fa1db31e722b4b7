import GroupChat.Server.Frames

namespace GroupChat.Server

/-! Any stream of bytes, cut into frames where their lengths say. -/

variable {ω : Type} {env : Env ω}

/-- The length of a frame tells how much payload it has. -/
def Message.Announced (frame : Message) : Prop :=
  frame.header.length.toNat = sizeofHeader + frame.data.length

namespace Conn

/-- What was read is cut into these frames, whose headers were handed over, and
the part of a frame that the connection holds. -/
structure Cut (conn : Conn) (frames : List Message) : Prop where
  announced : ∀ frame ∈ frames, frame.Announced
  consumed : delivered conn.history.reads = wireOf frames ++ conn.partialFrame
  parsed : conn.history.parsed.map Message.header = frames.map Message.header

theorem Cut.of_start {conn : Conn} (header : conn.recvingHeader = true)
    (start : conn.recvLen = 0) (reads : conn.history.reads = [])
    (parsed : conn.history.parsed = []) : conn.Cut [] where
  announced := by simp
  consumed := by simp [reads, partialFrame, header, start]
  parsed := by rw [parsed, List.map_nil]

theorem Cut.congr {conn conn' : Conn} {frames : List Message}
    (cut : conn.Cut frames) (same : SameReceiving conn conn') :
    conn'.Cut frames where
  announced := cut.announced
  consumed := by
    rw [same.reads, cut.consumed, partialFrame, partialFrame,
      same.recvingHeader, same.recvLen, same.recvMsg]
  parsed := by rw [same.parsed, cut.parsed]

/-- The frame that was handed over, with the payload that was read for it. -/
def lastFrame (conn : Conn) : Message :=
  { conn.recvMsg with data := conn.recvMsg.data.take conn.expectLen.toNat }

theorem Completed.announced {conn conn' : Conn} {consumed : Buffer}
    (completed : Completed conn conn' consumed) :
    conn'.lastFrame.Announced := by
  obtain ⟨complete, payload⟩ := completed.size
  change conn'.recvMsg.header.length.toNat =
    sizeofHeader + (conn'.recvMsg.data.take conn'.expectLen.toNat).length
  have length : (conn'.recvMsg.header.length.toNat : Int) =
      conn'.expectLen + sizeofHeader := (Int.sub_add_cancel _ _).symm
  rw [List.length_take]
  by_cases some : 0 < conn'.expectLen
  · have size := payload some
    omega
  · omega

/-- A call cuts one frame more off the stream if it hands one over. -/
theorem Cut.receive {conn conn' : Conn} {intake : Intake}
    {reported : List ReadResult} {frames : List Message}
    (cut : conn.Cut frames) (received : Received conn conn' intake reported)
    (going : intake ≠ .closed) :
    conn'.Cut (frames ++
      if intake = .complete then [conn'.lastFrame] else []) := by
  by_cases done : intake = .complete
  · have completed := received.completed done
    rw [if_pos done]
    refine ⟨?_, ?_, ?_⟩
    · intro frame member
      rcases List.mem_append.mp member with before | last
      · exact cut.announced frame before
      · rw [List.mem_singleton.mp last]
        exact completed.announced
    · have frame : conn'.lastFrame.wire =
          conn.partialFrame ++ delivered reported := completed.frame
      rw [received.reads, delivered_append, cut.consumed, List.append_assoc,
        wireOf_append, wireOf_cons, wireOf_nil, frame]
      simp [partialFrame, completed.header, completed.start]
    · rw [completed.parsed, List.map_append, List.map_append, cut.parsed]
      rfl
  · have progress := received.unfinished going done
    rw [if_neg done, List.append_nil]
    refine ⟨cut.announced, ?_, ?_⟩
    · rw [received.reads, delivered_append, cut.consumed, List.append_assoc,
        progress]
    · rw [received.unparsed done, cut.parsed]

theorem recvData_expectLen (conn : Conn) (net : List ReadResult) :
    (conn.recvData net).2.expectLen = conn.expectLen := by
  unfold recvData
  split
  · rfl
  · split
    · dsimp only
      split
      · rfl
      · split
        · rfl
        · rfl
    · rfl

theorem recvData_empty {conn : Conn} (net : List ReadResult)
    (empty : conn.expectLen = 0) :
    (conn.recvData net).2.recvMsg.data = conn.recvMsg.data := by
  unfold recvData
  rw [empty, if_neg (Int.lt_irrefl 0), if_neg (Int.lt_irrefl 0)]
  rfl

theorem receive_empty {conn : Conn} {net : List ReadResult}
    (complete : (conn.receive net).1 = .complete)
    (empty : (conn.receive net).2.expectLen = 0) :
    (conn.receive net).2.recvMsg.data = conn.recvMsg.data := by
  cases header : conn.recvingHeader with
  | false =>
      rw [receive_data header, recvData_expectLen] at empty
      rw [receive_data header]
      exact recvData_empty net empty
  | true =>
      rw [receive_header header, recvHeader_eq] at complete empty ⊢
      dsimp only at complete empty ⊢
      split at complete
      · cases complete
      · rename_i going
        rw [if_neg going] at empty ⊢
        split at complete
        · cases complete
        · rename_i whole
          rw [if_neg whole] at empty ⊢
          rw [recvData_expectLen] at empty
          exact recvData_empty _ empty

/-- What was read are whole frames, and the one handed over is the last of
them. -/
def Alone (conn : Conn) : Prop :=
  ∃ frames : List Message, (∀ frame ∈ frames, frame.Announced) ∧
    delivered conn.history.reads = wireOf frames ∧
    frames.getLast? = some conn.recvMsg

theorem Alone.announced {conn : Conn} (alone : conn.Alone) :
    conn.recvMsg.Announced := by
  obtain ⟨sent, announced, _, last⟩ := alone
  exact announced _ (List.mem_of_getLast? last)

end Conn

theorem cut_invariant : (orderly env).Invariant fun s =>
    ∀ fd, s.clientFds fd = true → s.hung fd = false →
      ∃ frames, (s.conns.conns fd).Cut frames := by
  apply @receiving_invariant _ _ fun conn => ∃ frames, conn.Cut frames
  · intro conn header start reads parsed
    exact ⟨[], .of_start header start reads parsed⟩
  · intro conn conn' intake reported cut received going
    obtain ⟨frames, cut⟩ := cut
    exact ⟨_, cut.receive received going⟩
  · intro conn conn' cut same
    obtain ⟨frames, cut⟩ := cut
    exact ⟨frames, cut.congr same⟩

/-- A frame that is handed over is there alone, unless it has no payload and
the buffer holds that of an earlier one. -/
theorem frames_alone_iff (env : Env ω) (s : State ω)
    (reached : (orderly env).Reachable s) (fd : Fd) (net : List ReadResult)
    (allowed : (orderly env).enabled s (.recvMsg fd net))
    (complete : ((s.conns.conns fd).receive net).1 = .complete) :
    ((s.conns.conns fd).receive net).2.Alone ↔
      ((s.conns.conns fd).receive net).2.recvMsg.header.length ≠ 4 ∨
        (s.conns.conns fd).recvMsg.data = [] := by
  obtain ⟨opened, going⟩ := allowed
  obtain ⟨frames, cut⟩ := cut_invariant.holds reached fd opened going
  obtain ⟨reported, received⟩ := Conn.receive_received net
    (queues_invariant.holds reached.of_restrict fd).receiving
  have completed := received.completed complete
  have next := cut.receive received (by rw [complete]; decide)
  rw [if_pos complete] at next
  have length : ((s.conns.conns fd).receive net).2.expectLen = 0 ↔
      ((s.conns.conns fd).receive net).2.recvMsg.header.length = 4 := by
    rw [Conn.expectLen, sizeofHeader, ← UInt16.toNat_inj]
    change _ ↔ _ = 4
    omega
  constructor
  · intro alone
    apply Decidable.or_iff_not_imp_left.mpr
    intro empty
    have short := alone.announced
    rw [Message.Announced, Decidable.of_not_not empty] at short
    rw [← Conn.receive_empty complete
      (length.mpr (Decidable.of_not_not empty))]
    exact List.eq_nil_of_length_eq_zero (Nat.add_left_cancel short).symm
  · intro alone
    have whole : ((s.conns.conns fd).receive net).2.lastFrame =
        ((s.conns.conns fd).receive net).2.recvMsg := by
      have take : ((s.conns.conns fd).receive net).2.recvMsg.data.take
          ((s.conns.conns fd).receive net).2.expectLen.toNat =
            ((s.conns.conns fd).receive net).2.recvMsg.data := by
        apply List.take_of_length_le
        by_cases empty : ((s.conns.conns fd).receive net).2.expectLen = 0
        · have none := alone.resolve_left (not_not.mpr (length.mp empty))
          rw [Conn.receive_empty complete empty, none]
          exact Nat.zero_le _
        · have nonnegative := completed.size.1
          have size := completed.size.2 (by omega)
          omega
      rw [Conn.lastFrame, take]
    refine ⟨_, next.announced, ?_, ?_⟩
    · rw [next.consumed]
      simp [Conn.partialFrame, completed.header, completed.start]
    · rw [List.getLast?_append, whole]
      rfl

theorem frames_alone_request : ∃ s, (orderly Tables.env).Reachable s ∧
    (s.conns.conns 4).recvMsg.data.length = 56 ∧
    ((s.conns.conns 4).receive
      [.data (Message.ofData 0x12 0x01 (Buffer.ofWord 0xFFFF)).wire]).2.Alone := by
  have replayed : ((orderly Tables.env).replay threeUsers
      (arrives 4 [loginFrame "a"])).any (fun s =>
        s.clientFds 4 = true ∧ s.hung 4 = false ∧
        (s.conns.conns 4).recvMsg.data.length = 56 ∧
        ((s.conns.conns 4).receive [.data (Message.ofData 0x12 0x01
          (Buffer.ofWord 0xFFFF)).wire]).1 = .complete ∧
        ((s.conns.conns 4).receive [.data (Message.ofData 0x12 0x01
          (Buffer.ofWord 0xFFFF)).wire]).2.recvMsg.header.length ≠ 4) =
          true := by
    decide +kernel
  obtain ⟨s, reached, holds⟩ :=
    Machine.Reachable.of_replay replayed threeUsers_initial
  obtain ⟨opened, going, size, complete, length⟩ := of_decide_eq_true holds
  exact ⟨s, reached, size, (frames_alone_iff Tables.env s reached 4 _
    ⟨opened, going⟩ complete).mpr (.inl length)⟩

/-- A frame without a payload, on a descriptor that another client logged in
on, is handed over with that client's name and password. -/
theorem earlier_client_seen : ¬ ∀ (s : State Tables) (fd : Fd)
    (net : List ReadResult), (orderly Tables.env).Reachable s →
    (orderly Tables.env).enabled s (.recvMsg fd net) →
    ((s.conns.conns fd).receive net).1 = .complete →
    ((s.conns.conns fd).receive net).2.Alone := by
  intro always
  have replayed : ((orderly Tables.env).replay threeUsers
      (arrives 4 [loginFrame "a"] ++ [.closeConn 4, .accept 4])).any (fun s =>
        s.clientFds 4 = true ∧ s.hung 4 = false ∧
        ((s.conns.conns 4).receive [.data (Header.mk 0x19 0x00
          4).wire]).1 = .complete ∧
        ((s.conns.conns 4).receive [.data (Header.mk 0x19 0x00
          4).wire]).2.recvMsg =
            ⟨⟨0x19, 0x00, 4⟩, (loginFrame "a").data⟩) = true := by
    decide +kernel
  obtain ⟨s, reached, holds⟩ :=
    Machine.Reachable.of_replay replayed threeUsers_initial
  obtain ⟨opened, going, complete, stale⟩ := of_decide_eq_true holds
  have announced := (always s 4 _ reached ⟨opened, going⟩ complete).announced
  rw [Message.Announced, stale] at announced
  exact absurd announced (by decide)

end GroupChat.Server
