import GroupChat.Server.Queues

namespace GroupChat.Server.Conn

/-! Sending on one connection: how much of the message at the front is out, and
what one call adds to it. -/

/-- The bytes of the message at the front that are out already. -/
def progress (conn : Conn) (msg : Message) : Buffer :=
  if conn.sendingHeader then
    msg.header.memory.take conn.sendLen
  else
    msg.header.memory ++ msg.data.take conn.sendLen

/-- Where sending stands between two calls. -/
def Sending (conn : Conn) (msg : Message) : Prop :=
  if conn.sendingHeader then
    conn.sendLen < sizeofHeader
  else
    conn.sendLen < msg.data.length

theorem sending_header {conn : Conn} {msg : Message}
    (header : conn.sendingHeader = true) :
    conn.Sending msg ↔ conn.sendLen < sizeofHeader := by
  simp [Sending, header]

theorem sending_data {conn : Conn} {msg : Message}
    (data : conn.sendingHeader = false) :
    conn.Sending msg ↔ conn.sendLen < msg.data.length := by
  simp [Sending, data]

/-- Two connections are the same on the receiving side. -/
structure SameReceiving (conn conn' : Conn) : Prop where
  recvingHeader : conn'.recvingHeader = conn.recvingHeader
  recvLen : conn'.recvLen = conn.recvLen
  recvMsg : conn'.recvMsg = conn.recvMsg
  reads : conn'.history.reads = conn.history.reads
  parsed : conn'.history.parsed = conn.history.parsed

/-- What a call of `transmit` writes, and where it leaves the message. -/
structure Transmitted (conn conn' : Conn) (msg : Message) (outlet : Outlet)
    (reported : List WriteResult) (chunk : Buffer) : Prop where
  same : SameReceiving conn conn'
  pushed : conn'.history.pushed = conn.history.pushed
  writes : conn'.history.writes = conn.history.writes ++ reported
  accepted : conn'.history.accepted = conn.history.accepted ++ chunk
  within : conn.progress msg ++ chunk <+: msg.bytes
  kept : outlet ≠ .popped → conn'.sendQue = conn.sendQue
  going : outlet = .waiting → conn'.Sending msg ∧
    conn'.progress msg = conn.progress msg ++ chunk
  popped : outlet = .popped → conn.progress msg ++ chunk = msg.bytes ∧
    conn'.sendingHeader = true ∧ conn'.sendLen = 0 ∧
    conn'.sendQue = conn.sendQue.tail

section Outcomes

variable {conn conn' : Conn} {msg : Message} {reported : List WriteResult}
  {chunk : Buffer}

theorem Transmitted.of_closed (same : SameReceiving conn conn')
    (pushed : conn'.history.pushed = conn.history.pushed)
    (writes : conn'.history.writes = conn.history.writes ++ reported)
    (accepted : conn'.history.accepted = conn.history.accepted ++ chunk)
    (within : conn.progress msg ++ chunk <+: msg.bytes)
    (kept : conn'.sendQue = conn.sendQue) :
    Transmitted conn conn' msg .closed reported chunk where
  same := same
  pushed := pushed
  writes := writes
  accepted := accepted
  within := within
  kept := fun _ => kept
  going := by simp
  popped := by simp

theorem Transmitted.of_waiting (same : SameReceiving conn conn')
    (pushed : conn'.history.pushed = conn.history.pushed)
    (writes : conn'.history.writes = conn.history.writes ++ reported)
    (accepted : conn'.history.accepted = conn.history.accepted ++ chunk)
    (within : conn.progress msg ++ chunk <+: msg.bytes)
    (kept : conn'.sendQue = conn.sendQue)
    (going : conn'.Sending msg)
    (progress : conn'.progress msg = conn.progress msg ++ chunk) :
    Transmitted conn conn' msg .waiting reported chunk where
  same := same
  pushed := pushed
  writes := writes
  accepted := accepted
  within := within
  kept := fun _ => kept
  going := fun _ => ⟨going, progress⟩
  popped := by simp

theorem Transmitted.of_popped (same : SameReceiving conn conn')
    (pushed : conn'.history.pushed = conn.history.pushed)
    (writes : conn'.history.writes = conn.history.writes ++ reported)
    (accepted : conn'.history.accepted = conn.history.accepted ++ chunk)
    (whole : conn.progress msg ++ chunk = msg.bytes)
    (header : conn'.sendingHeader = true) (start : conn'.sendLen = 0)
    (tail : conn'.sendQue = conn.sendQue.tail) :
    Transmitted conn conn' msg .popped reported chunk where
  same := same
  pushed := pushed
  writes := writes
  accepted := accepted
  within := whole ▸ List.prefix_refl _
  kept := by simp
  going := by simp
  popped := fun _ => ⟨whole, header, start, tail⟩

end Outcomes

theorem SameReceiving.trans {first second third : Conn}
    (before : SameReceiving first second)
    (after : SameReceiving second third) : SameReceiving first third where
  recvingHeader := after.recvingHeader.trans before.recvingHeader
  recvLen := after.recvLen.trans before.recvLen
  recvMsg := after.recvMsg.trans before.recvMsg
  reads := after.reads.trans before.reads
  parsed := after.parsed.trans before.parsed

theorem Transmitted.after {conn middle conn' : Conn} {msg : Message}
    {outlet : Outlet} {first second : List WriteResult}
    {chunk chunk' : Buffer}
    (sent : Transmitted middle conn' msg outlet second chunk')
    (same : SameReceiving conn middle)
    (pushed : middle.history.pushed = conn.history.pushed)
    (writes : middle.history.writes = conn.history.writes ++ first)
    (accepted : middle.history.accepted = conn.history.accepted ++ chunk)
    (sendQue : middle.sendQue = conn.sendQue)
    (progress : middle.progress msg = conn.progress msg ++ chunk) :
    Transmitted conn conn' msg outlet (first ++ second)
      (chunk ++ chunk') where
  same := same.trans sent.same
  pushed := sent.pushed.trans pushed
  writes := by rw [sent.writes, writes, List.append_assoc]
  accepted := by rw [sent.accepted, accepted, List.append_assoc]
  within := by
    rw [← List.append_assoc, ← progress]
    exact sent.within
  kept := fun unfinished => (sent.kept unfinished).trans sendQue
  going := fun waiting => by
    rw [← List.append_assoc, ← progress]
    exact sent.going waiting
  popped := fun done => by
    rw [← List.append_assoc, ← progress, ← sendQue]
    exact sent.popped done

def advance (conn : Conn) (out : WriteOutcome) : Conn :=
  { conn.wrote out with sendLen := conn.sendLen + out.accepted.length }

@[simp] theorem wrote_sendLen (conn : Conn) (out : WriteOutcome) :
    (conn.wrote out).sendLen = conn.sendLen := rfl

theorem sendData_transmitted {conn conn' : Conn} {msg : Message}
    {net : List WriteResult} {outlet : Outlet}
    (data : conn.sendingHeader = false)
    (sent : conn.sendData msg net = .ok (outlet, conn')) :
    ∃ reported chunk, Transmitted conn conn' msg outlet reported chunk := by
  obtain ⟨_, _, rest⟩ := Exec.of_bind_ok sent
  have out : conn.progress msg =
      msg.header.memory ++ msg.data.take conn.sendLen := by
    simp [progress, data]
  by_cases payload : 0 < msg.data.length
  · simp only [payload, if_true] at rest
    generalize outEq : writeToFd net (msg.data.drop conn.sendLen) = write
      at rest
    have spec : WriteSpec net (msg.data.drop conn.sendLen) write :=
      outEq ▸ writeToFd_spec _ _
    have added : conn.progress msg ++ write.accepted = msg.header.memory ++
        msg.data.take (conn.sendLen + write.accepted.length) := by
      rw [out, List.append_assoc, Buffer.take_append_of_prefix spec.takes]
    have within : conn.progress msg ++ write.accepted <+: msg.bytes := by
      rw [added, Message.bytes]
      exact (List.prefix_append_right_inj _).mpr (List.take_prefix _ _)
    refine ⟨write.reported, write.accepted, ?_⟩
    by_cases ended : write.res ≤ 0
    · simp only [ended, if_true] at rest
      cases rest
      exact .of_closed ⟨rfl, rfl, rfl, rfl, rfl⟩ rfl rfl rfl within rfl
    · have counted : write.res.toNat = write.accepted.length := by
        rcases spec.counts with ⟨counted, _⟩ | ⟨failed, _⟩ <;> omega
      simp only [ended, if_false, counted, wrote_sendLen] at rest
      by_cases more : conn.sendLen + write.accepted.length < msg.data.length
      · simp only [more, if_true] at rest
        cases rest
        refine .of_waiting ⟨rfl, rfl, rfl, rfl, rfl⟩ rfl rfl rfl within rfl
          ?_ ?_
        · exact (@sending_data (conn.advance write) msg data).mpr more
        · rw [added]
          simp [progress, wrote, data]
      · simp only [more, if_false] at rest
        cases rest
        refine .of_popped ⟨rfl, rfl, rfl, rfl, rfl⟩ rfl rfl rfl ?_ rfl rfl rfl
        rw [added, List.take_of_length_le (Nat.le_of_not_lt more)]
        rfl
  · have none : msg.data = [] :=
      List.eq_nil_of_length_eq_zero (Nat.eq_zero_of_not_pos payload)
    simp only [payload, if_false] at rest
    cases rest
    refine ⟨[], [], .of_popped ⟨rfl, rfl, rfl, rfl, rfl⟩ rfl (by simp [pop])
      (by simp [pop]) ?_ rfl rfl rfl⟩
    rw [out, none]
    simp [Message.bytes, none]

theorem sendHeader_transmitted {conn conn' : Conn} {msg : Message}
    {net : List WriteResult} {outlet : Outlet}
    (header : conn.sendingHeader = true)
    (sent : conn.sendHeader msg net = .ok (outlet, conn')) :
    ∃ reported chunk, Transmitted conn conn' msg outlet reported chunk := by
  have out : conn.progress msg = msg.header.memory.take conn.sendLen := by
    simp [progress, header]
  unfold sendHeader at sent
  dsimp only at sent
  generalize outEq : writeToFd net (msg.header.memory.drop conn.sendLen) =
    write at sent
  have spec : WriteSpec net (msg.header.memory.drop conn.sendLen) write :=
    outEq ▸ writeToFd_spec _ _
  have added : conn.progress msg ++ write.accepted =
      msg.header.memory.take (conn.sendLen + write.accepted.length) := by
    rw [out, Buffer.take_append_of_prefix spec.takes]
  have within : conn.progress msg ++ write.accepted <+: msg.bytes := by
    rw [added, Message.bytes]
    exact (List.take_prefix _ _).trans (List.prefix_append _ _)
  by_cases ended : write.res ≤ 0
  · simp only [ended, if_true] at sent
    cases sent
    exact ⟨write.reported, write.accepted,
      .of_closed ⟨rfl, rfl, rfl, rfl, rfl⟩ rfl rfl rfl within rfl⟩
  · have counted : write.res.toNat = write.accepted.length := by
      rcases spec.counts with ⟨counted, _⟩ | ⟨failed, _⟩ <;> omega
    simp only [ended, if_false, counted, wrote_sendLen] at sent
    by_cases more : conn.sendLen + write.accepted.length < sizeofHeader
    · simp only [more, if_true] at sent
      cases sent
      refine ⟨write.reported, write.accepted,
        .of_waiting ⟨rfl, rfl, rfl, rfl, rfl⟩ rfl rfl rfl within rfl ?_ ?_⟩
      · exact (@sending_header (conn.advance write) msg header).mpr more
      · rw [added]
        simp [progress, wrote, header]
    · simp only [more, if_false] at sent
      have whole : conn.progress msg ++ write.accepted =
          msg.header.memory := by
        rw [added]
        exact List.take_of_length_le (Nat.le_of_not_lt more)
      split at sent
      · cases sent
        exact ⟨write.reported, write.accepted,
          .of_closed ⟨rfl, rfl, rfl, rfl, rfl⟩ rfl rfl rfl within rfl⟩
      · obtain ⟨reported, chunk, rest⟩ :=
          sendData_transmitted rfl sent
        refine ⟨write.reported ++ reported, write.accepted ++ chunk,
          rest.after ⟨rfl, rfl, rfl, rfl, rfl⟩ rfl rfl rfl rfl ?_⟩
        rw [whole]
        simp [progress]

/-- One call of `transmit` goes on with the message where the last one
stopped. -/
theorem transmit_transmitted {conn conn' : Conn} {msg : Message}
    {net : List WriteResult} {outlet : Outlet}
    (sent : conn.transmit msg net = .ok (outlet, conn')) :
    ∃ reported chunk, Transmitted conn conn' msg outlet reported chunk := by
  cases header : conn.sendingHeader with
  | true =>
      simp only [transmit, header, if_true] at sent
      exact sendHeader_transmitted header sent
  | false =>
      simp only [transmit, header, Bool.false_eq_true, if_false] at sent
      exact sendData_transmitted header sent

end GroupChat.Server.Conn
