import GroupChat.Server.Sessions

namespace GroupChat.Server

/-! Receiving on one connection: how far a frame has come in, and what one call
adds to it. -/

namespace Conn

/-- The bytes of the frame coming in that were received already. -/
def partialFrame (conn : Conn) : Buffer :=
  if conn.recvingHeader then
    conn.recvMsg.header.memory.take conn.recvLen
  else
    conn.recvMsg.header.wire ++ conn.recvMsg.data.take conn.recvLen

def Receiving (conn : Conn) : Prop :=
  if conn.recvingHeader then
    conn.recvLen < sizeofHeader
  else
    (conn.expectLen < 0 ∧ conn.recvLen = 0 ∨
      (conn.recvLen : Int) < conn.expectLen) ∧
    conn.recvLen ≤ conn.recvMsg.data.length

theorem receiving_header {conn : Conn} (header : conn.recvingHeader = true) :
    conn.Receiving ↔ conn.recvLen < sizeofHeader := by
  simp [Receiving, header]

theorem receiving_data {conn : Conn} (data : conn.recvingHeader = false) :
    conn.Receiving ↔ (conn.expectLen < 0 ∧ conn.recvLen = 0 ∨
      (conn.recvLen : Int) < conn.expectLen) ∧
      conn.recvLen ≤ conn.recvMsg.data.length := by
  simp [Receiving, data]

theorem delivered_append (first second : List ReadResult) :
    delivered (first ++ second) = delivered first ++ delivered second := by
  simp [delivered]

@[simp] theorem delivered_nil : delivered [] = [] := rfl

/-- Two connections are the same on the sending side. -/
structure SameSending (conn conn' : Conn) : Prop where
  sendingHeader : conn'.sendingHeader = conn.sendingHeader
  sendLen : conn'.sendLen = conn.sendLen
  sendQue : conn'.sendQue = conn.sendQue
  writes : conn'.history.writes = conn.history.writes
  accepted : conn'.history.accepted = conn.history.accepted
  pushed : conn'.history.pushed = conn.history.pushed

/-- The frame handed over by a call that completed one. -/
structure Completed (conn conn' : Conn) (consumed : Buffer) : Prop where
  header : conn'.recvingHeader = true
  start : conn'.recvLen = 0
  parsed : conn'.history.parsed = conn.history.parsed ++ [conn'.recvMsg]
  frame : conn'.recvMsg.header.wire ++
    conn'.recvMsg.data.take conn'.expectLen.toNat = consumed
  size : 0 ≤ conn'.expectLen ∧ (0 < conn'.expectLen →
    (conn'.recvMsg.data.length : Int) = conn'.expectLen)

/-- What a call of `receive` reads, and what becomes of it. -/
structure Received (conn conn' : Conn) (intake : Intake)
    (reported : List ReadResult) : Prop where
  same : SameSending conn conn'
  reads : conn'.history.reads = conn.history.reads ++ reported
  proper : conn'.Receiving
  unparsed : intake ≠ .complete →
    conn'.history.parsed = conn.history.parsed
  progress : intake = .waiting ∨ intake = .tooShort →
    conn'.partialFrame = conn.partialFrame ++ delivered reported
  completed : intake = .complete →
    Completed conn conn' (conn.partialFrame ++ delivered reported)

theorem SameSending.trans {first second third : Conn}
    (before : SameSending first second) (after : SameSending second third) :
    SameSending first third where
  sendingHeader := after.sendingHeader.trans before.sendingHeader
  sendLen := after.sendLen.trans before.sendLen
  sendQue := after.sendQue.trans before.sendQue
  writes := after.writes.trans before.writes
  accepted := after.accepted.trans before.accepted
  pushed := after.pushed.trans before.pushed

section Outcomes

variable {conn conn' : Conn} {reported : List ReadResult}

theorem Received.of_closed (same : SameSending conn conn')
    (reads : conn'.history.reads = conn.history.reads ++ reported)
    (proper : conn'.Receiving)
    (parsed : conn'.history.parsed = conn.history.parsed) :
    Received conn conn' .closed reported where
  same := same
  reads := reads
  proper := proper
  unparsed := fun _ => parsed
  progress := by simp
  completed := by simp

theorem Received.of_going {intake : Intake}
    (going : intake = .waiting ∨ intake = .tooShort)
    (same : SameSending conn conn')
    (reads : conn'.history.reads = conn.history.reads ++ reported)
    (proper : conn'.Receiving)
    (parsed : conn'.history.parsed = conn.history.parsed)
    (progress : conn'.partialFrame =
      conn.partialFrame ++ delivered reported) :
    Received conn conn' intake reported where
  same := same
  reads := reads
  proper := proper
  unparsed := fun _ => parsed
  progress := fun _ => progress
  completed := by
    rintro rfl
    rcases going with impossible | impossible <;> cases impossible

theorem Received.of_complete (same : SameSending conn conn')
    (reads : conn'.history.reads = conn.history.reads ++ reported)
    (completed : Completed conn conn'
      (conn.partialFrame ++ delivered reported)) :
    Received conn conn' .complete reported where
  same := same
  reads := reads
  proper := (receiving_header completed.header).mpr
    (by rw [completed.start]; exact Nat.zero_lt_succ 3)
  unparsed := fun unfinished => absurd rfl unfinished
  progress := by simp
  completed := fun _ => completed

end Outcomes

theorem Received.unfinished {conn conn' : Conn} {intake : Intake}
    {reported : List ReadResult}
    (received : Received conn conn' intake reported)
    (going : intake ≠ .closed) (more : intake ≠ .complete) :
    conn'.partialFrame = conn.partialFrame ++ delivered reported := by
  apply received.progress
  cases intake with
  | closed => exact absurd rfl going
  | waiting => exact .inl rfl
  | tooShort => exact .inr rfl
  | complete => exact absurd rfl more

theorem Received.after {conn middle conn' : Conn} {intake : Intake}
    {first second : List ReadResult}
    (received : Received middle conn' intake second)
    (same : SameSending conn middle)
    (reads : middle.history.reads = conn.history.reads ++ first)
    (parsed : middle.history.parsed = conn.history.parsed)
    (partialFrame : middle.partialFrame =
      conn.partialFrame ++ delivered first) :
    Received conn conn' intake (first ++ second) where
  same := same.trans received.same
  reads := by rw [received.reads, reads, List.append_assoc]
  proper := received.proper
  unparsed := fun unfinished => (received.unparsed unfinished).trans parsed
  progress := fun going => by
    rw [received.progress going, partialFrame, delivered_append,
      List.append_assoc]
  completed := fun done => by
    have completed := received.completed done
    exact { completed with
      parsed := by rw [completed.parsed, parsed]
      frame := by
        rw [completed.frame, partialFrame, delivered_append,
          List.append_assoc] }

/-- Where the payload of a frame stands when there is some of it to come. -/
structure Filling (conn : Conn) : Prop where
  data : conn.recvingHeader = false
  room : conn.recvLen ≤ conn.recvMsg.data.length
  inside : 0 < conn.expectLen → (conn.recvLen : Int) < conn.expectLen
  start : conn.expectLen ≤ 0 → conn.recvLen = 0

theorem Filling.of_receiving {conn : Conn}
    (data : conn.recvingHeader = false) (proper : conn.Receiving) :
    conn.Filling := by
  obtain ⟨position, room⟩ := (receiving_data data).mp proper
  exact ⟨data, room, fun _ => by omega, fun _ => by omega⟩

/-- Reading `reported` into the payload. -/
def storeData (conn : Conn) (stored : Buffer) (reported : List ReadResult) :
    Conn :=
  { conn with
    recvMsg := { conn.recvMsg with
      data := (conn.recvMsg.data.resize conn.expectLen.toNat).overwrite
        conn.recvLen stored }
    history := { conn.history with
      reads := conn.history.reads ++ reported } }

section StoreData

variable {conn : Conn} {stored : Buffer} {reported : List ReadResult}

theorem storeData_length (reported : List ReadResult)
    (fits : conn.recvLen + stored.length ≤ conn.expectLen.toNat) :
    (conn.storeData stored reported).recvMsg.data.length =
      conn.expectLen.toNat := by
  have resized := Buffer.length_resize conn.recvMsg.data conn.expectLen.toNat
  simp only [storeData]
  rw [Buffer.length_overwrite (by omega), resized]

theorem storeData_take (reported : List ReadResult)
    (room : conn.recvLen ≤ conn.recvMsg.data.length)
    (fits : conn.recvLen + stored.length ≤ conn.expectLen.toNat) :
    (conn.storeData stored reported).recvMsg.data.take
        (conn.recvLen + stored.length) =
      conn.recvMsg.data.take conn.recvLen ++ stored := by
  have resized := Buffer.length_resize conn.recvMsg.data conn.expectLen.toNat
  simp only [storeData]
  rw [Buffer.take_overwrite (by omega), Buffer.take_resize room (by omega)]

theorem storeData_closed (filling : conn.Filling)
    (payload : 0 < conn.expectLen)
    (fits : conn.recvLen + stored.length ≤ conn.expectLen.toNat) :
    Received conn (conn.storeData stored reported) .closed reported := by
  have size := storeData_length reported fits
  have data : (conn.storeData stored reported).recvingHeader = false :=
    filling.data
  refine .of_closed ⟨rfl, rfl, rfl, rfl, rfl, rfl⟩ rfl ?_ rfl
  refine (receiving_data data).mpr ⟨.inr (filling.inside payload), ?_⟩
  rw [size]
  exact Nat.le_of_add_right_le fits

theorem storeData_waiting (filling : conn.Filling)
    (consumed : delivered reported = stored)
    (more : ((conn.recvLen + stored.length : Nat) : Int) < conn.expectLen) :
    Received conn { conn.storeData stored reported with
      recvLen := conn.recvLen + stored.length } .waiting reported := by
  have fits : conn.recvLen + stored.length ≤ conn.expectLen.toNat := by omega
  have size := storeData_length reported fits
  have taken := storeData_take reported filling.room fits
  have data : (conn.storeData stored reported).recvingHeader = false :=
    filling.data
  refine .of_going (.inl rfl) ⟨rfl, rfl, rfl, rfl, rfl, rfl⟩ rfl ?_ rfl ?_
  · refine (@receiving_data { conn.storeData stored reported with
      recvLen := conn.recvLen + stored.length } data).mpr ⟨.inr more, ?_⟩
    rw [size]
    exact fits
  · simp only [partialFrame, filling.data, Bool.false_eq_true, if_false,
      consumed, List.append_assoc, ← taken]
    simp [storeData, filling.data]

theorem storeData_complete (filling : conn.Filling)
    (payload : 0 < conn.expectLen)
    (consumed : delivered reported = stored)
    (whole : conn.recvLen + stored.length = conn.expectLen.toNat) :
    Received conn { conn.storeData stored reported with
      recvLen := conn.recvLen + stored.length }.finish .complete
      reported := by
  have fits := Nat.le_of_eq whole
  have size := storeData_length reported fits
  have taken := storeData_take reported filling.room fits
  refine .of_complete ⟨rfl, rfl, rfl, rfl, rfl, rfl⟩ rfl
    ⟨rfl, rfl, rfl, ?_, ?_, ?_⟩
  · simp only [partialFrame, filling.data, Bool.false_eq_true, if_false,
      consumed, List.append_assoc, ← taken]
    rw [whole]
    rfl
  · exact Int.le_of_lt payload
  · intro _
    exact size ▸ Int.toNat_of_nonneg (Int.le_of_lt payload)

end StoreData

theorem recvData_payload {conn : Conn} (net : List ReadResult)
    (payload : 0 < conn.expectLen) :
    conn.recvData net =
      let out := readFromFd net (conn.expectLen.toNat - conn.recvLen)
      if out.res ≤ 0 then
        (.closed, conn.storeData out.stored out.reported)
      else if ((conn.recvLen + out.res.toNat : Nat) : Int) <
          conn.expectLen then
        (.waiting, { conn.storeData out.stored out.reported with
          recvLen := conn.recvLen + out.res.toNat })
      else
        (.complete, { conn.storeData out.stored out.reported with
          recvLen := conn.recvLen + out.res.toNat }.finish) := by
  have long : ¬ conn.expectLen < 0 := by omega
  simp only [recvData, long, payload, if_true, if_false]
  rfl

theorem recvData_received {conn : Conn} (net : List ReadResult)
    (filling : conn.Filling) :
    ∃ reported, Received conn (conn.recvData net).2 (conn.recvData net).1
      reported := by
  have untouched : SameSending conn conn := ⟨rfl, rfl, rfl, rfl, rfl, rfl⟩
  by_cases short : conn.expectLen < 0
  · have proper : conn.Receiving := (receiving_data filling.data).mpr
      ⟨.inl ⟨short, filling.start (Int.le_of_lt short)⟩, filling.room⟩
    refine ⟨[], ?_⟩
    simp only [recvData, short, if_true]
    exact .of_going (.inr rfl) untouched (by simp) proper rfl (by simp)
  · by_cases payload : 0 < conn.expectLen
    · have position := filling.inside payload
      rw [recvData_payload net payload]
      dsimp only
      generalize outEq : readFromFd net
        (conn.expectLen.toNat - conn.recvLen) = out
      have spec : ReadSpec net (conn.expectLen.toNat - conn.recvLen) out :=
        outEq ▸ readFromFd_spec _ _
      have bound := spec.bound
      refine ⟨out.reported, ?_⟩
      by_cases ended : out.res ≤ 0
      · simp only [ended, if_true]
        exact storeData_closed filling payload (by omega)
      · have counted : out.res = out.stored.length := by
          rcases spec.counts with counted | ⟨failed, _⟩
          · exact counted
          · omega
        have taken : out.res.toNat = out.stored.length := by omega
        simp only [ended, if_false, taken]
        by_cases more : ((conn.recvLen + out.stored.length : Nat) : Int) <
            conn.expectLen
        · simp only [more, if_true]
          exact storeData_waiting filling spec.delivers more
        · simp only [more, if_false]
          exact storeData_complete filling payload spec.delivers (by omega)
    · have start := filling.start (by omega)
      have exactly : conn.expectLen = 0 := by omega
      refine ⟨[], ?_⟩
      simp only [recvData, short, payload, if_false]
      refine .of_complete ⟨rfl, rfl, rfl, rfl, rfl, rfl⟩ (by simp [finish])
        ⟨rfl, rfl, rfl, ?_, Int.le_of_eq exactly.symm, fun positive => ?_⟩
      · have none : conn.finish.expectLen = 0 := exactly
        rw [none]
        simp [partialFrame, filling.data, start, finish]
      · exact absurd positive payload

/-- Reading `reported` into the header. -/
def storeHeader (conn : Conn) (stored : Buffer)
    (reported : List ReadResult) : Conn :=
  { conn with
    recvLen := conn.recvLen + stored.length
    recvMsg := { conn.recvMsg with
      header := .ofMemory
        (conn.recvMsg.header.memory.overwrite conn.recvLen stored) }
    history := { conn.history with
      reads := conn.history.reads ++ reported } }

/-- The header is there: go on with the payload. -/
def startData (conn : Conn) : Conn :=
  { conn with
    recvingHeader := false
    recvLen := 0
    recvMsg := { conn.recvMsg with
      header := { conn.recvMsg.header with
        length := ntohs conn.recvMsg.header.length } } }

section StoreHeader

variable {conn : Conn} {stored : Buffer} {reported : List ReadResult}

theorem storeHeader_memory
    (fits : conn.recvLen + stored.length ≤ sizeofHeader) :
    (conn.storeHeader stored reported).recvMsg.header.memory =
      conn.recvMsg.header.memory.overwrite conn.recvLen stored := by
  have size := Header.length_memory conn.recvMsg.header
  have inside : conn.recvLen + stored.length ≤
      conn.recvMsg.header.memory.length := size.symm ▸ fits
  simp only [storeHeader]
  rw [Header.memory_ofMemory]
  rw [Buffer.length_overwrite inside, size]

theorem storeHeader_progress (header : conn.recvingHeader = true)
    (fits : conn.recvLen + stored.length ≤ sizeofHeader) :
    (conn.storeHeader stored reported).partialFrame =
      conn.partialFrame ++ stored := by
  have size := Header.length_memory conn.recvMsg.header
  have inside : conn.recvLen ≤ conn.recvMsg.header.memory.length := by
    rw [size]
    exact Nat.le_of_add_right_le fits
  have still : (conn.storeHeader stored reported).recvingHeader = true := header
  have position : (conn.storeHeader stored reported).recvLen =
      conn.recvLen + stored.length := rfl
  rw [partialFrame, partialFrame, still, header, position,
    storeHeader_memory fits]
  simp only [if_true]
  exact Buffer.take_overwrite inside

theorem startData_progress (header : conn.recvingHeader = true)
    (whole : conn.recvLen = sizeofHeader) :
    conn.startData.partialFrame = conn.partialFrame := by
  have memory : conn.recvMsg.header.memory.take sizeofHeader =
      conn.recvMsg.header.memory := List.take_of_length_le (Nat.le_refl 4)
  simp only [partialFrame, startData, header, whole, if_true,
    Bool.false_eq_true, if_false, List.take_zero, List.append_nil,
    Header.wire_ntohs, memory]

theorem startData_filling : conn.startData.Filling where
  data := rfl
  room := Nat.zero_le _
  inside := fun payload => payload
  start := fun _ => rfl

end StoreHeader

theorem recvHeader_eq (conn : Conn) (net : List ReadResult) :
    conn.recvHeader net =
      let out := readFromFd net (sizeofHeader - conn.recvLen)
      if out.res ≤ 0 then
        (.closed, { conn.storeHeader out.stored out.reported with
          recvLen := conn.recvLen })
      else if conn.recvLen + out.res.toNat < sizeofHeader then
        (.waiting, { conn.storeHeader out.stored out.reported with
          recvLen := conn.recvLen + out.res.toNat })
      else
        recvData ({ conn.storeHeader out.stored out.reported with
          recvLen := conn.recvLen + out.res.toNat }.startData) out.rest :=
  rfl

theorem recvHeader_received {conn : Conn} (net : List ReadResult)
    (header : conn.recvingHeader = true) (proper : conn.Receiving) :
    ∃ reported, Received conn (conn.recvHeader net).2 (conn.recvHeader net).1
      reported := by
  have position := (receiving_header header).mp proper
  rw [recvHeader_eq]
  dsimp only
  generalize outEq : readFromFd net (sizeofHeader - conn.recvLen) = out
  have spec : ReadSpec net (sizeofHeader - conn.recvLen) out :=
    outEq ▸ readFromFd_spec _ _
  have bound := spec.bound
  by_cases ended : out.res ≤ 0
  · refine ⟨out.reported, ?_⟩
    simp only [ended, if_true]
    refine .of_closed ⟨rfl, rfl, rfl, rfl, rfl, rfl⟩ rfl ?_ rfl
    exact (@receiving_header { conn.storeHeader out.stored out.reported with
      recvLen := conn.recvLen } header).mpr position
  · have counted : out.res = out.stored.length := by
      rcases spec.counts with counted | ⟨failed, _⟩
      · exact counted
      · omega
    have taken : out.res.toNat = out.stored.length := by omega
    have fits : conn.recvLen + out.stored.length ≤ sizeofHeader := by omega
    have stored : (conn.storeHeader out.stored out.reported).partialFrame =
        conn.partialFrame ++ delivered out.reported := by
      rw [storeHeader_progress header fits, spec.delivers]
    simp only [ended, if_false, taken]
    by_cases more : conn.recvLen + out.stored.length < sizeofHeader
    · refine ⟨out.reported, ?_⟩
      simp only [more, if_true]
      refine .of_going (.inl rfl) ⟨rfl, rfl, rfl, rfl, rfl, rfl⟩ rfl ?_ rfl
        stored
      exact (@receiving_header (conn.storeHeader out.stored out.reported)
        header).mpr more
    · simp only [more, if_false]
      obtain ⟨reported, received⟩ := recvData_received out.rest
        (@startData_filling (conn.storeHeader out.stored out.reported))
      refine ⟨out.reported ++ reported, received.after
        ⟨rfl, rfl, rfl, rfl, rfl, rfl⟩ rfl rfl ?_⟩
      rw [← stored]
      have whole : (conn.storeHeader out.stored out.reported).recvLen =
          sizeofHeader :=
        Nat.le_antisymm fits (Nat.le_of_not_lt more)
      exact startData_progress header whole

theorem receive_header {conn : Conn} (header : conn.recvingHeader = true)
    (net : List ReadResult) : conn.receive net = conn.recvHeader net := by
  rw [receive, header, if_pos rfl]

theorem receive_data {conn : Conn} (data : conn.recvingHeader = false)
    (net : List ReadResult) : conn.receive net = conn.recvData net := by
  rw [receive, data, if_neg Bool.false_ne_true]

/-- One call of `receive` goes on with the frame where the last one stopped. -/
theorem receive_received {conn : Conn} (net : List ReadResult)
    (proper : conn.Receiving) :
    ∃ reported, Received conn (conn.receive net).2 (conn.receive net).1
      reported := by
  cases header : conn.recvingHeader with
  | true =>
      rw [receive_header header]
      exact recvHeader_received net header proper
  | false =>
      rw [receive_data header]
      exact recvData_received net (Filling.of_receiving header proper)

end Conn

end GroupChat.Server
