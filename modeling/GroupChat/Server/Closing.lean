import GroupChat.Server.Frames

namespace GroupChat.Server

/-! When `recv_msg` and `send_msg` return false. -/

variable {ω : Type} {env : Env ω}

def Message.sized (msg : Message) : Bool :=
  sizeofHeader + msg.data.length = (ntohs msg.header.length).toNat

namespace Conn

/-- The header a call completes, if it completes one. -/
def arrivingHeader (conn : Conn) (net : List ReadResult) : Header :=
  .ofMemory (conn.recvMsg.header.memory.overwrite conn.recvLen
    ((delivered net).take (sizeofHeader - conn.recvLen)))

/-- There is nothing to read where the call starts, or where the payload of the
frame starts. -/
def readsDry (conn : Conn) (net : List ReadResult) : Bool :=
  if conn.recvingHeader then
    readStalls net ||
      match readBehind net (sizeofHeader - conn.recvLen) with
      | some rest =>
          sizeofHeader < (ntohs (conn.arrivingHeader net).length).toNat &&
            readStalls rest
      | none => false
  else
    0 < conn.expectLen && readStalls net

/-- What a call read, and whether it found nothing to read. -/
structure ReadsTo (conn conn' : Conn) (intake : Intake) (dry : Prop)
    (reported : List ReadResult) : Prop where
  reads : conn'.history.reads = conn.history.reads ++ reported
  why : intake = .closed → reported.any ReadResult.ends = true ∨ dry
  forced : dry → intake = .closed ∧
    reported.any ReadResult.ends = false

theorem recvData_reads (conn : Conn) (net : List ReadResult)
    (filling : conn.Filling) :
    ∃ reported, ReadsTo conn (conn.recvData net).2 (conn.recvData net).1
      (0 < conn.expectLen ∧ readStalls net = true) reported := by
  by_cases payload : 0 < conn.expectLen
  · have position := filling.inside payload
    have room : 0 < conn.expectLen.toNat - conn.recvLen := by omega
    rw [recvData_payload net payload]
    dsimp only
    generalize outEq : readFromFd net
      (conn.expectLen.toNat - conn.recvLen) = out
    have spec : ReadSpec net (conn.expectLen.toNat - conn.recvLen) out :=
      outEq ▸ readFromFd_spec _ _
    refine ⟨out.reported, ?_, ?_, ?_⟩
    · split
      · rfl
      · split <;> rfl
    · intro closed
      rcases spec.counts with counted | ⟨_, ended⟩
      · have zero : out.res = 0 := by
          by_contra some
          have positive : ¬ out.res ≤ 0 := by omega
          simp only [positive, if_false] at closed
          split at closed <;> cases closed
        rcases spec.silent zero room with ended | stalls
        · exact .inl ended
        · exact .inr ⟨payload, stalls⟩
      · exact .inl ended
    · rintro ⟨_, stalls⟩
      obtain ⟨zero, clean⟩ := spec.fails stalls room
      simp [zero, clean]
  · refine ⟨[], ?_, ?_, fun dry => absurd dry.1 payload⟩
    · simp only [recvData, payload, if_false]
      split <;> simp [finish]
    · simp only [recvData, payload, if_false]
      split <;> simp

theorem arrivingHeader_eq {conn : Conn} {net : List ReadResult}
    {stored : Buffer} (front : stored <+: delivered net)
    (whole : stored.length = sizeofHeader - conn.recvLen) :
    conn.arrivingHeader net =
      .ofMemory (conn.recvMsg.header.memory.overwrite conn.recvLen stored) := by
  rw [arrivingHeader, ← whole, ← List.prefix_iff_eq_take.mp front]

theorem recvHeader_reads (conn : Conn) (net : List ReadResult)
    (header : conn.recvingHeader = true)
    (position : conn.recvLen < sizeofHeader) :
    ∃ reported, ReadsTo conn (conn.recvHeader net).2 (conn.recvHeader net).1
      (conn.readsDry net = true) reported := by
  have room : 0 < sizeofHeader - conn.recvLen := by omega
  rw [recvHeader_eq]
  dsimp only
  generalize outEq : readFromFd net (sizeofHeader - conn.recvLen) = out
  have spec : ReadSpec net (sizeofHeader - conn.recvLen) out :=
    outEq ▸ readFromFd_spec _ _
  have behind := readFromFd_behind net (sizeofHeader - conn.recvLen)
  rw [outEq] at behind
  simp only [readsDry, header, if_true]
  cases left : readBehind net (sizeofHeader - conn.recvLen) with
  | none =>
      simp only [left] at behind
      simp only [Bool.or_false]
      refine ⟨out.reported, ?_, ?_, ?_⟩
      · split
        · rfl
        · rw [if_pos (by omega)]
          rfl
      · intro closed
        rcases spec.counts with counted | ⟨_, ended⟩
        · have zero : out.res = 0 := by
            by_contra some
            rw [if_neg (by omega), if_pos (by omega)] at closed
            cases closed
          exact spec.silent zero room
        · exact .inl ended
      · intro stalls
        obtain ⟨zero, clean⟩ := spec.fails stalls room
        simp [zero, clean]
  | some rest =>
      simp only [left] at behind
      obtain ⟨counted, restEq⟩ := behind
      have clean := spec.clean counted
      have taken : out.res.toNat = out.stored.length := by
        rcases spec.counts with counts | ⟨failed, _⟩ <;> omega
      have going : readStalls net = false := by
        by_contra stalls
        have zero := (spec.fails (by simpa using stalls) room).1
        omega
      rw [if_neg (by omega), if_neg (by omega), taken, restEq]
      have size : out.stored.length = sizeofHeader - conn.recvLen := by omega
      have arriving := arrivingHeader_eq spec.front size
      obtain ⟨reported, reads⟩ := recvData_reads
        (conn.storeHeader out.stored out.reported).startData rest
        startData_filling
      have announced :
          (conn.storeHeader out.stored out.reported).startData.expectLen =
            ((ntohs (conn.arrivingHeader net).length).toNat : Int) -
              sizeofHeader := by
        rw [arriving]
        rfl
      have dry : (readStalls net || decide (sizeofHeader <
            (ntohs (conn.arrivingHeader net).length).toNat) &&
            readStalls rest) = true ↔
          (0 < (conn.storeHeader out.stored
            out.reported).startData.expectLen ∧ readStalls rest = true) := by
        rw [going, announced]
        simp only [Bool.false_or, Bool.and_eq_true, decide_eq_true_eq]
        constructor
        · rintro ⟨long, stalls⟩
          exact ⟨by omega, stalls⟩
        · rintro ⟨long, stalls⟩
          exact ⟨by omega, stalls⟩
      refine ⟨out.reported ++ reported, ?_, ?_, ?_⟩
      · have first : (conn.storeHeader out.stored
            out.reported).startData.history.reads =
            conn.history.reads ++ out.reported := rfl
        rw [← List.append_assoc, ← first]
        exact reads.reads
      · intro closed
        rw [List.any_append, clean, Bool.false_or, dry]
        exact reads.why closed
      · intro stalled
        rw [List.any_append, clean, Bool.false_or]
        exact reads.forced (dry.mp stalled)

theorem receive_reads (conn : Conn) (net : List ReadResult)
    (proper : conn.Receiving) :
    ∃ reported, ReadsTo conn (conn.receive net).2 (conn.receive net).1
      (conn.readsDry net = true) reported := by
  cases header : conn.recvingHeader with
  | true =>
      rw [receive_header header]
      exact recvHeader_reads conn net header
        ((receiving_header header).mp proper)
  | false =>
      obtain ⟨reported, reads⟩ := conn.recvData_reads net
        (Filling.of_receiving header proper)
      refine ⟨reported, ?_⟩
      simpa [receive_data header, header, readsDry] using reads

def headerOut (conn : Conn) (net : List WriteResult) : Bool :=
  conn.sendingHeader &&
    (writeBehind net (sizeofHeader - conn.sendLen)).isSome

/-- There is no room to write where the call starts, or where the payload of the
message starts. -/
def writesDry (conn : Conn) (msg : Message) (net : List WriteResult) : Bool :=
  if conn.sendingHeader then
    writeStalls net ||
      match writeBehind net (sizeofHeader - conn.sendLen) with
      | some rest =>
          !lastHeader msg.header && msg.sized && !msg.data.isEmpty &&
            writeStalls rest
      | none => false
  else
    msg.sized && writeStalls net

/-- What a call wrote, and what a false result is due to. -/
structure WritesTo (conn : Conn) (msg : Message) (net : List WriteResult)
    (conn' : Conn) (reported : List WriteResult) : Prop where
  writes : conn'.history.writes = conn.history.writes ++ reported
  why : reported.any WriteResult.fails = true ∨
    conn.writesDry msg net = true ∨
    conn.headerOut net = true ∧ lastHeader msg.header = true ∧
      conn'.sendingHeader = false

structure GivesUp (conn : Conn) (msg : Message) (net : List WriteResult)
    (conn' : Conn) (reported : List WriteResult) : Prop where
  closed : conn.transmit msg net = .ok (.closed, conn')
  writes : conn'.history.writes = conn.history.writes ++ reported
  clean : reported.any WriteResult.fails = false

theorem sendData_sized {conn : Conn} {msg : Message} {net : List WriteResult}
    {result : Outlet × Conn} (sent : conn.sendData msg net = .ok result) :
    msg.sized = true := by
  obtain ⟨_, size, _⟩ := Exec.of_bind_ok sent
  rw [Exec.require_eq_ok] at size
  exact decide_eq_true size

theorem sendData_closed {conn conn' : Conn} {msg : Message}
    {net : List WriteResult}
    (position : conn.sendLen < msg.data.length ∨ conn.sendLen = 0)
    (sent : conn.sendData msg net = .ok (.closed, conn')) :
    ∃ reported, conn'.history.writes = conn.history.writes ++ reported ∧
      (reported.any WriteResult.fails = true ∨
        0 < msg.data.length ∧ writeStalls net = true) := by
  obtain ⟨_, _, rest⟩ := Exec.of_bind_ok sent
  by_cases payload : 0 < msg.data.length
  · simp only [payload, if_true] at rest
    generalize outEq : writeToFd net (msg.data.drop conn.sendLen) = out
      at rest
    have spec : WriteSpec net (msg.data.drop conn.sendLen) out :=
      outEq ▸ writeToFd_spec _ _
    have some : msg.data.drop conn.sendLen ≠ [] := by
      intro none
      have size := congrArg List.length none
      simp at size
      omega
    by_cases ended : out.res ≤ 0
    · simp only [ended, if_true] at rest
      cases rest
      refine ⟨out.reported, rfl, ?_⟩
      rcases spec.counts with ⟨counted, _⟩ | ⟨_, failed⟩
      · exact .inr ⟨payload, spec.silent (by omega) some⟩
      · exact .inl failed
    · simp only [ended, if_false] at rest
      split at rest <;> cases rest
  · simp only [payload, if_false] at rest
    cases rest

theorem sendData_stalls {conn : Conn} {msg : Message} {net : List WriteResult}
    (sized : msg.sized = true) (some : msg.data.drop conn.sendLen ≠ [])
    (stalls : writeStalls net = true) :
    ∃ conn' reported, conn.sendData msg net = .ok (.closed, conn') ∧
      conn'.history.writes = conn.history.writes ++ reported ∧
      reported.any WriteResult.fails = false ∧
      conn'.sendingHeader = conn.sendingHeader := by
  have payload : 0 < msg.data.length := by
    by_contra none
    have empty : msg.data = [] :=
      List.eq_nil_of_length_eq_zero (Nat.eq_zero_of_not_pos none)
    rw [empty] at some
    simp at some
  have spec := writeToFd_spec net (msg.data.drop conn.sendLen)
  have zero := spec.stalls stalls some
  have clean : (writeToFd net (msg.data.drop conn.sendLen)).reported.any
      WriteResult.fails = false := by
    rcases spec.counts with ⟨_, clean⟩ | ⟨failed, _⟩
    · exact clean
    · omega
  refine ⟨conn.wrote (writeToFd net (msg.data.drop conn.sendLen)), _, ?_, rfl,
    clean, rfl⟩
  simp only [sendData, Exec.require_of (of_decide_eq_true sized),
    Exec.bind_ok, payload, if_true, zero, Int.le_refl]

/-- The header of the message, when the call gets it out to its end. -/
def headerSent (conn : Conn) (out : WriteOutcome) : Conn :=
  { conn.wrote out with sendingHeader := false, sendLen := 0 }

theorem sendHeader_eq (conn : Conn) (msg : Message)
    (net : List WriteResult) :
    conn.sendHeader msg net =
      let out := writeToFd net (msg.header.memory.drop conn.sendLen)
      if out.res ≤ 0 then
        .ok (.closed, conn.wrote out)
      else if conn.sendLen + out.res.toNat < sizeofHeader then
        .ok (.waiting, { conn.wrote out with
          sendLen := conn.sendLen + out.res.toNat })
      else if lastHeader msg.header then
        .ok (.closed, conn.headerSent out)
      else
        (conn.headerSent out).sendData msg out.rest :=
  rfl

theorem header_left {conn : Conn} (msg : Message)
    (position : conn.sendLen < sizeofHeader) :
    (msg.header.memory.drop conn.sendLen).length =
        sizeofHeader - conn.sendLen ∧
      msg.header.memory.drop conn.sendLen ≠ [] := by
  have size : (msg.header.memory.drop conn.sendLen).length =
      sizeofHeader - conn.sendLen := by
    rw [List.length_drop, Header.length_memory]
    rfl
  refine ⟨size, fun none => ?_⟩
  rw [none, List.length_nil] at size
  omega

/-- A call that gets the header out to its end goes on with the payload, unless
the message is a last one. -/
theorem sendHeader_whole {conn : Conn} {msg : Message}
    {net rest : List WriteResult} (position : conn.sendLen < sizeofHeader)
    (left : writeBehind net (sizeofHeader - conn.sendLen) = some rest) :
    ∃ out, out.reported.any WriteResult.fails = false ∧
      conn.sendHeader msg net =
        if lastHeader msg.header then .ok (.closed, conn.headerSent out)
        else (conn.headerSent out).sendData msg rest := by
  obtain ⟨size, some⟩ := header_left msg position
  have spec := writeToFd_spec net (msg.header.memory.drop conn.sendLen)
  have behind := writeToFd_behind net (msg.header.memory.drop conn.sendLen)
  rw [size, left] at behind
  obtain ⟨counted, restEq⟩ := behind
  refine ⟨writeToFd net (msg.header.memory.drop conn.sendLen), ?_, ?_⟩
  · rcases spec.counts with ⟨_, clean⟩ | ⟨failed, _⟩
    · exact clean
    · omega
  · rw [sendHeader_eq]
    dsimp only
    rw [if_neg (by omega), if_neg (by omega), restEq]

section SendHeader

variable {conn conn' : Conn} {msg : Message} {net : List WriteResult}

theorem transmit_closed (proper : conn.Sending msg)
    (sent : conn.transmit msg net = .ok (.closed, conn')) :
    ∃ reported, WritesTo conn msg net conn' reported := by
  cases header : conn.sendingHeader with
  | false =>
      simp only [transmit, header, Bool.false_eq_true, if_false] at sent
      obtain ⟨reported, writes, failed | ⟨_, stalls⟩⟩ :=
        sendData_closed (.inl ((sending_data header).mp proper)) sent
      · exact ⟨reported, writes, .inl failed⟩
      · refine ⟨reported, writes, .inr (.inl ?_)⟩
        simp [writesDry, header, sendData_sized sent, stalls]
  | true =>
      have position := (sending_header header).mp proper
      simp only [transmit, header, if_true, sendHeader_eq] at sent
      generalize outEq : writeToFd net
        (msg.header.memory.drop conn.sendLen) = out at sent
      have spec : WriteSpec net (msg.header.memory.drop conn.sendLen) out :=
        outEq ▸ writeToFd_spec _ _
      obtain ⟨size, some⟩ := header_left msg position
      have behind := writeToFd_behind net
        (msg.header.memory.drop conn.sendLen)
      rw [outEq, size] at behind
      by_cases ended : out.res ≤ 0
      · simp only [ended, if_true] at sent
        cases sent
        refine ⟨out.reported, rfl, ?_⟩
        rcases spec.counts with ⟨counted, _⟩ | ⟨_, failed⟩
        · have stalls := spec.silent (by omega) some
          exact .inr (.inl (by simp [writesDry, header, stalls]))
        · exact .inl failed
      · simp only [ended, if_false] at sent
        split at sent
        · cases sent
        · rename_i whole
          cases left : writeBehind net (sizeofHeader - conn.sendLen) with
          | none =>
              simp only [left] at behind
              omega
          | some rest =>
              simp only [left] at behind
              split at sent
              · rename_i last
                cases sent
                exact ⟨out.reported, rfl, .inr (.inr
                  ⟨by simp [headerOut, header, left], last, rfl⟩)⟩
              · rename_i more
                obtain ⟨reported, writes, failed | ⟨payload, stalls⟩⟩ :=
                  sendData_closed (.inr rfl) sent
                · refine ⟨out.reported ++ reported, ?_, .inl ?_⟩
                  · rw [writes, ← List.append_assoc]
                    rfl
                  · rw [List.any_append, failed, Bool.or_true]
                · refine ⟨out.reported ++ reported, ?_, .inr (.inl ?_)⟩
                  · rw [writes, ← List.append_assoc]
                    rfl
                  · rw [behind.2] at stalls
                    have present : msg.data.isEmpty = false := by
                      rw [List.isEmpty_eq_false_iff]
                      exact List.length_pos_iff.mp payload
                    simp [writesDry, header, left, more,
                      sendData_sized sent, present, stalls]

theorem transmit_dry (proper : conn.Sending msg)
    (dry : conn.writesDry msg net = true) :
    ∃ conn' reported, GivesUp conn msg net conn' reported ∧
      (conn'.sendingHeader = conn.sendingHeader ∨
        lastHeader msg.header = false) := by
  cases header : conn.sendingHeader with
  | false =>
      simp only [writesDry, header, Bool.false_eq_true, if_false,
        Bool.and_eq_true] at dry
      have some : msg.data.drop conn.sendLen ≠ [] := by
        have position := (sending_data header).mp proper
        intro none
        have size := congrArg List.length none
        rw [List.length_drop, List.length_nil] at size
        omega
      obtain ⟨conn', reported, closed, writes, clean, same⟩ :=
        sendData_stalls dry.1 some dry.2
      refine ⟨conn', reported, ⟨?_, writes, clean⟩,
        .inl (same.trans header)⟩
      simpa [transmit, header] using closed
  | true =>
      have position := (sending_header header).mp proper
      obtain ⟨size, some⟩ := header_left msg position
      have spec := writeToFd_spec net (msg.header.memory.drop conn.sendLen)
      simp only [writesDry, header, if_true, Bool.or_eq_true] at dry
      rcases dry with stalls | dry
      · have zero := spec.stalls stalls some
        refine ⟨conn.wrote (writeToFd net
          (msg.header.memory.drop conn.sendLen)), _, ⟨?_, rfl, ?_⟩,
          .inl header⟩
        · simp [transmit, header, sendHeader_eq, zero]
        · rcases spec.counts with ⟨_, clean⟩ | ⟨failed, _⟩
          · exact clean
          · omega
      · cases left : writeBehind net (sizeofHeader - conn.sendLen) with
        | none => simp [left] at dry
        | some rest =>
            simp only [left, Bool.and_eq_true, Bool.not_eq_true'] at dry
            obtain ⟨⟨⟨more, sized⟩, present⟩, stalls⟩ := dry
            obtain ⟨out, clean, sent⟩ := @sendHeader_whole _ msg _ _ position left
            obtain ⟨conn', reported, closed, writes, clean', _⟩ :=
              @sendData_stalls (conn.headerSent out) msg rest sized
                (by simpa [headerSent] using present) stalls
            refine ⟨conn', out.reported ++ reported, ⟨?_, ?_, ?_⟩, .inr more⟩
            · simp only [transmit, header, if_true, sent, more,
                Bool.false_eq_true, if_false]
              exact closed
            · rw [writes, ← List.append_assoc]
              rfl
            · rw [List.any_append, clean, clean']
              rfl

theorem transmit_last (proper : conn.Sending msg)
    (out : conn.headerOut net = true)
    (last : lastHeader msg.header = true) :
    ∃ conn' reported, GivesUp conn msg net conn' reported := by
  simp only [headerOut, Bool.and_eq_true] at out
  obtain ⟨header, whole⟩ := out
  have position := (sending_header header).mp proper
  obtain ⟨rest, left⟩ := Option.isSome_iff_exists.mp whole
  obtain ⟨out, clean, sent⟩ := @sendHeader_whole _ msg _ _ position left
  refine ⟨conn.headerSent out, out.reported, ?_, rfl, clean⟩
  simp only [transmit, header, if_true, sent, last]

end SendHeader

end Conn

namespace Connections

/-- The messages after which the server itself means to close. -/
inductive OwnLast : Message → Prop
  | shutdown : OwnLast shutdownMsg
  | unknown (type : UInt8) : OwnLast (unknownMsg type)
  | refused : OwnLast refusedMsg

/-- A file message that has the sub-type of an error. -/
def Impostor (msg : Message) : Prop :=
  msg.header.type ∈ transfileTypes.map Prod.snd ∧
    msg.header.subType = 0xFF ∧ msg.data ≠ []

instance : DecidablePred Impostor := fun msg =>
  inferInstanceAs (Decidable (msg.header.type ∈ transfileTypes.map Prod.snd ∧
    msg.header.subType = 0xFF ∧ msg.data ≠ []))

theorem Forwarded.payload {frame msg : Message}
    (forwarded : Forwarded frame msg) : 4 ≤ msg.data.length := by
  cases forwarded with
  | text srcUid type kind size long =>
      simp only [textMsg]
      rw [Buffer.length_overwrite (by simpa using long)]
      exact long
  | file kind size long => exact long

theorem Forwarded.notOwnLast {frame msg : Message}
    (forwarded : Forwarded frame msg) : ¬ OwnLast msg := by
  intro own
  have long := forwarded.payload
  cases own <;> simp [shutdownMsg, unknownMsg, refusedMsg] at long

theorem OwnLast.notImpostor {msg : Message} (own : OwnLast msg) :
    ¬ Impostor msg := by
  rintro ⟨_, _, payload⟩
  cases own <;> exact payload rfl

theorem Made.last {source : Message → Prop} {msg : Message}
    (made : Made source msg) (last : Conn.lastHeader msg.header = true) :
    OwnLast msg ∨ Impostor msg ∧ ∃ frame, source frame ∧
      frame.header.type ∈ transfileTypes.map Prod.fst ∧
      frame.header.subType = 0xFF := by
  cases made with
  | answer made =>
      cases made with
      | unknown type => exact .inl (.unknown type)
      | refused => exact .inl .refused
      | username name => simp [Conn.lastHeader, usernameMsg] at last
      | absentUser => simp [Conn.lastHeader, absentMsg] at last
      | absentParty => simp [Conn.lastHeader, absentMsg] at last
      | records records => simp [Conn.lastHeader, recordsMsg] at last
      | text exist online =>
          cases exist <;> cases online <;>
            simp [Conn.lastHeader, textAnswer] at last
      | changePwd succeed =>
          cases succeed <;> simp [Conn.lastHeader, changePwdMsg] at last
  | @welcome subType code uid primaryColor =>
      have goesOn : Conn.lastHeader
          ⟨0x90, subType, Message.netLength 8⟩ = false := by
        rcases code with rfl | rfl | rfl <;> decide
      exact absurd last (by rw [loginMsg, goesOn]; exact Bool.false_ne_true)
  | list kind len bytes uids =>
      rcases kind with rfl | rfl <;> simp [Conn.lastHeader, listMsg] at last
  | shutdown => exact .inl .shutdown
  | online uid online =>
      cases online <;> simp [Conn.lastHeader, onlineMsg] at last
  | @forward frame msg origin made =>
      right
      have payload : msg.data ≠ [] :=
        List.length_pos_iff.mp (Nat.lt_of_lt_of_le (by decide) made.payload)
      cases made with
      | text srcUid type kind size long =>
          rcases kind with kind | kind <;>
            simp [Conn.lastHeader, textMsg, kind] at last
      | @file type kind size long =>
          have known : type ≠ 0xA0 ∧ type ≠ 0x90 := by
            simp only [transfileTypes, List.mem_cons, Prod.mk.injEq,
              List.not_mem_nil, or_false] at kind
            rcases kind with ⟨_, rfl⟩ | ⟨_, rfl⟩ | ⟨_, rfl⟩ | ⟨_, rfl⟩ <;>
              decide
          have error : frame.header.subType = 0xFF := by
            simp [Conn.lastHeader, transfileMsg, known] at last
            exact of_decide_eq_true last
          exact ⟨⟨List.mem_map.mpr ⟨_, kind, rfl⟩, error, payload⟩, frame,
            origin, List.mem_map.mpr ⟨_, kind, rfl⟩, error⟩

theorem Impostor.last {msg : Message} (impostor : Impostor msg) :
    Conn.lastHeader msg.header = true := by
  simp [Conn.lastHeader, impostor.2.1]

def newReads (s s' : Connections ω) (fd : Fd) : List ReadResult :=
  (s'.conns fd).history.reads.drop (s.conns fd).history.reads.length

def newWrites (s s' : Connections ω) (fd : Fd) : List WriteResult :=
  (s'.conns fd).history.writes.drop (s.conns fd).history.writes.length

theorem recvMsg_closed {s : Connections ω} {fd : Fd} {net : List ReadResult}
    (inside : fd < s.size)
    (closed : ((s.conns fd).receive net).1 = .closed) :
    s.recvMsg env fd net =
      .ok (false, s.setConn fd ((s.conns fd).receive net).2) := by
  simp only [recvMsg, Exec.require_of inside, Exec.bind_ok, closed]

theorem sendMsg_closed {s : Connections ω} {fd : Fd} {net : List WriteResult}
    {msg : Message} {conn : Conn} (inside : fd < s.size)
    (front : (s.conns fd).sendQue.head? = some msg)
    (watched : s.wfds fd = true)
    (closed : (s.conns fd).transmit msg net = .ok (.closed, conn)) :
    s.sendMsg fd net = .ok (false, s.setConn fd conn) := by
  simp only [sendMsg, Exec.require_of inside, front, Exec.demand_some,
    Exec.require_of watched, Exec.bind_ok, closed]

end Connections

open Connections

section Calls

variable {s : State ω} {fd : Fd}

theorem recvMsg_justified_iff (reached : (machine env).Reachable s)
    (opened : s.clientFds fd = true) (net : List ReadResult) :
    (∀ conns, s.conns.recvMsg env fd net = .ok (false, conns) →
      (newReads s.conns conns fd).any ReadResult.ends = true) ↔
    (s.conns.conns fd).readsDry net = false := by
  have proper := (queues_invariant.holds reached fd).receiving
  obtain ⟨reported, reads⟩ := Conn.receive_reads _ net proper
  have news : newReads s.conns
      (s.conns.setConn fd ((s.conns.conns fd).receive net).2) fd =
        reported := by
    rw [newReads, setConn_conns_self, reads.reads, List.drop_left]
  constructor
  · intro justified
    by_contra dry
    obtain ⟨closed, clean⟩ := reads.forced (by simpa using dry)
    have ended := justified _
      (recvMsg_closed (opened_inside reached fd opened) closed)
    rw [news, clean] at ended
    contradiction
  · intro going conns received
    obtain ⟨_, closed | waiting | tooShort | complete⟩ := recvMsg_ok received
    · obtain ⟨closed, _, rfl⟩ := closed
      rw [news]
      rcases reads.why closed with ended | dry
      · exact ended
      · rw [going] at dry
        contradiction
    · cases waiting.2.1
    · cases tooShort.2.1
    · cases complete.2.1

/-- A false result of `send_msg` is due to a write error or to a last message
of the server itself, whose header the call got out. -/
def SendJustified (s : Connections ω) (fd : Fd) (s' : Connections ω) : Prop :=
  (newWrites s s' fd).any WriteResult.fails = true ∨
    ∃ msg ∈ (s.conns fd).sendQue.head?, OwnLast msg ∧
      (s.conns fd).sendingHeader = true ∧ (s'.conns fd).sendingHeader = false

theorem front_sending (reached : (orderly env).Reachable s)
    (opened : s.clientFds fd = true) (going : s.hung fd = false)
    {msg : Message} (front : (s.conns.conns fd).sendQue.head? = some msg) :
    (s.conns.conns fd).Sending msg := by
  obtain ⟨sent, _, _, _, aligned⟩ :=
    streaming_invariant.holds reached fd opened
  cases aligned going with
  | idle sendQue header start out =>
      rw [sendQue] at front
      cases front
  | busy sendQue proper out =>
      rw [sendQue] at front
      cases front
      exact proper

theorem front_made (reached : (machine env).Reachable s) {msg : Message}
    (front : (s.conns.conns fd).sendQue.head? = some msg) :
    Made (fun _ => True) msg :=
  (made_invariant fun _ => True).holds
    (reached.to_restrict fun _ _ _ _ => trivial) fd msg
    (List.mem_of_mem_head? front)

theorem sendMsg_false (reached : (orderly env).Reachable s)
    (opened : s.clientFds fd = true) (going : s.hung fd = false)
    {net : List WriteResult} {conns : Connections ω}
    (sent : s.conns.sendMsg fd net = .ok (false, conns)) :
    (newWrites s.conns conns fd).any WriteResult.fails = true ∨
      ∃ msg ∈ (s.conns.conns fd).sendQue.head?,
        (s.conns.conns fd).writesDry msg net = true ∨
        (s.conns.conns fd).headerOut net = true ∧
          Conn.lastHeader msg.header = true ∧
          (conns.conns fd).sendingHeader = false := by
  obtain ⟨_, _, msg, outlet, conn, front, transmitted, kept, rfl⟩ :=
    sendMsg_ok sent
  have proper := front_sending reached opened going front
  cases outlet with
  | waiting => cases kept
  | popped => cases kept
  | closed =>
      obtain ⟨reported, writes, why⟩ :=
        Conn.transmit_closed proper transmitted
      have news : newWrites s.conns { s.conns.setConn fd conn with
          wfds := if Outlet.closed = .popped ∧ conn.sendQue = [] then
            Function.update s.conns.wfds fd false else s.conns.wfds } fd =
          reported := by
        simp only [newWrites, setConn_conns_self, writes, List.drop_left]
      rcases why with failed | dry | ⟨out, last, header⟩
      · exact .inl (news ▸ failed)
      · exact .inr ⟨msg, front, .inl dry⟩
      · exact .inr ⟨msg, front, .inr ⟨out, last, by simpa using header⟩⟩

theorem sendMsg_gives_up (reached : (machine env).Reachable s)
    (opened : s.clientFds fd = true) {net : List WriteResult} {msg : Message}
    {conn : Conn} {reported : List WriteResult}
    (front : (s.conns.conns fd).sendQue.head? = some msg)
    (gives : (s.conns.conns fd).GivesUp msg net conn reported) :
    s.conns.sendMsg fd net = .ok (false, s.conns.setConn fd conn) ∧
      (newWrites s.conns (s.conns.setConn fd conn) fd).any
        WriteResult.fails = false := by
  have watched : s.conns.wfds fd = true := by
    rw [(queues_invariant.holds reached fd).watched]
    cases queue : (s.conns.conns fd).sendQue with
    | nil => simp [queue] at front
    | cons first rest => rfl
  refine ⟨sendMsg_closed (opened_inside reached fd opened) front watched
    gives.closed, ?_⟩
  rw [newWrites, setConn_conns_self, gives.writes, List.drop_left]
  exact gives.clean

/-- `send_msg` returns false for a write error or after a last message of the
server only, exactly if it finds room to write and does not get the header of
an impostor out. -/
theorem sendMsg_justified_iff (reached : (orderly env).Reachable s)
    (opened : s.clientFds fd = true) (going : s.hung fd = false)
    (net : List WriteResult) :
    (∀ conns, s.conns.sendMsg fd net = .ok (false, conns) →
      SendJustified s.conns fd conns) ↔
    ∀ msg ∈ (s.conns.conns fd).sendQue.head?,
      (s.conns.conns fd).writesDry msg net = false ∧
      ¬ ((s.conns.conns fd).headerOut net = true ∧ Impostor msg) := by
  have raw := reached.of_restrict
  constructor
  · intro justified msg front
    have proper := front_sending reached opened going front
    refine ⟨?_, ?_⟩
    · by_contra dry
      obtain ⟨conn, reported, gives, same⟩ :=
        Conn.transmit_dry proper (by simpa using dry)
      obtain ⟨result, clean⟩ := sendMsg_gives_up raw opened front gives
      rcases justified _ result with failed | ⟨first, found, own, before, out⟩
      · rw [clean] at failed
        contradiction
      · rw [Option.mem_def, front, Option.some.injEq] at found
        subst found
        rw [setConn_conns_self] at out
        rcases same with same | more
        · rw [same, before] at out
          contradiction
        · cases own <;> simp [Conn.lastHeader, shutdownMsg, unknownMsg,
            refusedMsg] at more
    · rintro ⟨out, impostor⟩
      obtain ⟨conn, reported, gives⟩ :=
        Conn.transmit_last proper out impostor.last
      obtain ⟨result, clean⟩ := sendMsg_gives_up raw opened front gives
      rcases justified _ result with failed | ⟨first, found, own, _, _⟩
      · rw [clean] at failed
        contradiction
      · rw [Option.mem_def, front, Option.some.injEq] at found
        subst found
        exact own.notImpostor impostor
  · intro condition conns sent
    rcases sendMsg_false reached opened going sent with failed |
      ⟨msg, front, dry | ⟨out, last, header⟩⟩
    · exact .inl failed
    · rw [(condition msg front).1] at dry
      contradiction
    · rcases (front_made raw front).last last with own | ⟨impostor, _⟩
      · simp only [Conn.headerOut, Bool.and_eq_true] at out
        exact .inr ⟨msg, front, own, out.1, header⟩
      · exact absurd ⟨out, impostor⟩ (condition msg front).2

end Calls

/-- The steps at which there is something to read or room to write where a call
or a payload starts, and that do not get the header of an impostor out. -/
def State.Gentle (s : State ω) : Step → Prop
  | .recvMsg fd net => (s.conns.conns fd).readsDry net = false
  | .sendMsg fd net => ∀ msg ∈ (s.conns.conns fd).sendQue.head?,
      (s.conns.conns fd).writesDry msg net = false ∧
      ¬ ((s.conns.conns fd).headerOut net = true ∧ Impostor msg)
  | _ => True

instance (s : State ω) : DecidablePred s.Gentle := fun step =>
  match step with
  | .accept _ => inferInstanceAs (Decidable True)
  | .recvMsg _ _ => inferInstanceAs (Decidable (_ = false))
  | .sendMsg fd _ => inferInstanceAs (Decidable
      (∀ msg ∈ (s.conns.conns fd).sendQue.head?, _ = false ∧ ¬ (_ ∧ _)))
  | .closeConn _ => inferInstanceAs (Decidable True)

/-- A connection was given up for an end of stream, an error or a last message
of the server. -/
def Conn.Justified (conn : Conn) : Prop :=
  conn.history.reads.any ReadResult.ends = true ∨
    conn.history.writes.any WriteResult.fails = true ∨
    ∃ msg ∈ conn.sendQue.head?, OwnLast msg ∧ conn.sendingHeader = false

theorem Conn.Justified.pushAll {conn : Conn} (justified : conn.Justified)
    (l : List Message) : (conn.pushAll l).Justified := by
  rcases justified with ended | failed | ⟨msg, front, own, header⟩
  · exact .inl ended
  · exact .inr (.inl failed)
  · refine .inr (.inr ⟨msg, ?_, own, header⟩)
    rw [Conn.pushAll_sendQue, List.head?_append, Option.mem_def.mp front]
    rfl

theorem justified_invariant :
    ((orderly env).restrict State.Gentle).Invariant fun s =>
      ∀ fd, s.clientFds fd = true → s.hung fd = true →
        (s.conns.conns fd).Justified where
  start := by
    rintro _ ⟨db, size, rfl⟩ fd opened
    cases opened
  kept := by
    intro before step after reached justified allowed moved fd opened hanging
    have orderly := reached.of_restrict
    have raw := orderly.of_restrict
    have gentle : before.Gentle step := allowed.2
    have upright : before.Orderly step := allowed.1.2
    have proper := (queues_invariant.holds raw fd).receiving
    cases State.moves (sessions_invariant.holds raw) allowed.1.1 moved fd with
    | accept closed opened conn wfds hung =>
        rw [hung] at hanging
        contradiction
    | @recvMsg net l opened clientFds conn made wfds hung =>
        have going : before.hung fd = false := upright
        rw [hung, going, Bool.false_or, decide_eq_true_eq] at hanging
        obtain ⟨reported, reads⟩ := Conn.receive_reads _ net proper
        rw [conn]
        refine .pushAll (.inl ?_) l
        rw [reads.reads, List.any_append]
        rcases reads.why hanging with ended | dry
        · rw [ended, Bool.or_true]
        · have wet : (before.conns.conns fd).readsDry net = false := gentle
          rw [wet] at dry
          contradiction
    | @sendMsg net msg outlet next opened clientFds front sent conn wfds
        hung =>
        have going : before.hung fd = false := upright
        rw [hung, going, Bool.false_or, decide_eq_true_eq] at hanging
        subst hanging
        have condition := gentle msg front
        obtain ⟨reported, writes, why⟩ := Conn.transmit_closed
          (front_sending orderly opened going front) sent
        obtain ⟨_, _, transmitted⟩ := Conn.transmit_transmitted sent
        rw [conn]
        rcases why with failed | dry | ⟨out, last, header⟩
        · refine .inr (.inl ?_)
          rw [writes, List.any_append, failed, Bool.or_true]
        · rw [condition.1] at dry
          contradiction
        · rcases (front_made raw front).last last with own | ⟨impostor, _⟩
          · refine .inr (.inr ⟨msg, ?_, own, header⟩)
            rw [transmitted.kept (by decide)]
            exact front
          · exact absurd ⟨out, impostor⟩ condition.2
    | closeConn closed conn wfds hung =>
        rw [closed] at opened
        contradiction
    | @other _ l elsewhere clientFds _ conn made wfds hung =>
        rw [conn]
        exact (justified fd (clientFds ▸ opened) (hung ▸ hanging)).pushAll l

/-- In a run whose steps are gentle, a connection is given up for an end of
stream, an error or a last message of the server only; and of one call this
holds exactly if the call is gentle. -/
theorem closings_justified (env : Env ω) (s : State ω) (fd : Fd)
    (opened : s.clientFds fd = true) :
    (((orderly env).restrict State.Gentle).Reachable s →
      s.hung fd = true → (s.conns.conns fd).Justified) ∧
    ((orderly env).Reachable s → s.hung fd = false →
      (∀ net, (∀ conns, s.conns.recvMsg env fd net = .ok (false, conns) →
          (newReads s.conns conns fd).any ReadResult.ends = true) ↔
        s.Gentle (.recvMsg fd net)) ∧
      ∀ net, (∀ conns, s.conns.sendMsg fd net = .ok (false, conns) →
          SendJustified s.conns fd conns) ↔
        s.Gentle (.sendMsg fd net)) := by
  constructor
  · intro reached hanging
    exact justified_invariant.holds reached fd opened hanging
  · intro reached going
    exact ⟨recvMsg_justified_iff reached.of_restrict opened,
      sendMsg_justified_iff reached opened going⟩

theorem closings_justified_end : ∃ s,
    ((orderly Tables.env).restrict State.Gentle).Reachable s ∧
    s.hung 4 = true ∧ (s.conns.conns 4).Justified := by
  have replayed : (((orderly Tables.env).restrict State.Gentle).replay
      threeUsers (arrives 4 [loginFrame "a"] ++
        [.recvMsg 4 [.eintr, .data []]])).any
          (fun s => s.hung 4 && s.clientFds 4) = true := by
    decide +kernel
  obtain ⟨s, reached, ended⟩ :=
    Machine.Reachable.of_replay replayed threeUsers_initial
  rw [Bool.and_eq_true] at ended
  exact ⟨s, reached, ended.1,
    (closings_justified Tables.env s 4 ended.2).1 reached ended.1⟩

/-- A login frame that arrives in two parts, its header first, closes the
connection. -/
theorem header_alone_closes : ∃ s, (orderly Tables.env).Reachable s ∧
    s.clientFds 4 = true ∧ s.hung 4 = true ∧
    delivered (s.conns.conns 4).history.reads =
      (loginFrame "a").wire.take 4 ∧
    ¬ (s.conns.conns 4).Justified := by
  have replayed : ((orderly Tables.env).replay threeUsers
      [.accept 4, .recvMsg 4 [.data ((loginFrame "a").wire.take 4)]]).any
        (fun s => s.clientFds 4 && s.hung 4 &&
          delivered (s.conns.conns 4).history.reads =
            (loginFrame "a").wire.take 4 &&
          !(s.conns.conns 4).history.reads.any ReadResult.ends &&
          !(s.conns.conns 4).history.writes.any WriteResult.fails &&
          (s.conns.conns 4).sendQue.isEmpty) = true := by
    decide +kernel
  obtain ⟨s, reached, ended⟩ :=
    Machine.Reachable.of_replay replayed threeUsers_initial
  simp only [Bool.and_eq_true, decide_eq_true_eq, Bool.not_eq_true',
    List.isEmpty_iff] at ended
  obtain ⟨⟨⟨⟨⟨opened, hanging⟩, part⟩, reads⟩, writes⟩, empty⟩ := ended
  refine ⟨s, reached, opened, hanging, part, ?_⟩
  simp [Conn.Justified, reads, writes, empty]

/-- The steps that hand over no file frame with the sub-type of an error. -/
def State.NoErrorFile (s : State ω) (step : Step) : Prop :=
  ∀ frame, s.Handed step frame →
    frame.header.type ∈ transfileTypes.map Prod.fst →
    frame.header.subType ≠ 0xFF

theorem Connections.Forwarded.last_iff {frame msg : Message}
    (forwarded : Forwarded frame msg) :
    Conn.lastHeader msg.header = true ↔ msg.header.subType = 0xFF := by
  constructor
  · intro last
    have made : Made (fun _ => True) msg := .forward trivial forwarded
    rcases made.last last with own | ⟨impostor, _⟩
    · exact absurd own forwarded.notOwnLast
    · exact impostor.2.1
  · intro error
    simp [Conn.lastHeader, error]

/-- Sending a forwarded message makes `send_msg` return false for a write error
only, exactly if there is room to write and the header does not go out with the
sub-type of an error; where no file frame had it, room to write is enough. -/
theorem forwards_harmless (env : Env ω) (s : State ω) (fd : Fd)
    (opened : s.clientFds fd = true) (going : s.hung fd = false)
    (frame msg : Message) (forwarded : Forwarded frame msg)
    (front : (s.conns.conns fd).sendQue.head? = some msg) :
    ((orderly env).Reachable s → ∀ net,
      (∀ conns, s.conns.sendMsg fd net = .ok (false, conns) →
        (newWrites s.conns conns fd).any WriteResult.fails = true) ↔
      (s.conns.conns fd).writesDry msg net = false ∧
        ¬ ((s.conns.conns fd).headerOut net = true ∧
          msg.header.subType = 0xFF)) ∧
    (((orderly env).restrict State.NoErrorFile).Reachable s →
      ∀ net conns, (s.conns.conns fd).writesDry msg net = false →
        s.conns.sendMsg fd net = .ok (false, conns) →
        (newWrites s.conns conns fd).any WriteResult.fails = true) := by
  have enough : (orderly env).Reachable s → ∀ net conns,
      (s.conns.conns fd).writesDry msg net = false →
      ¬ ((s.conns.conns fd).headerOut net = true ∧
        msg.header.subType = 0xFF) →
      s.conns.sendMsg fd net = .ok (false, conns) →
      (newWrites s.conns conns fd).any WriteResult.fails = true := by
    intro reached net conns wet harmless sent
    rcases sendMsg_false reached opened going sent with failed |
      ⟨first, found, dry | ⟨out, last, _⟩⟩
    · exact failed
    · rw [Option.mem_def, front, Option.some.injEq] at found
      rw [← found, wet] at dry
      contradiction
    · rw [Option.mem_def, front, Option.some.injEq] at found
      rw [← found] at last
      exact absurd ⟨out, forwarded.last_iff.mp last⟩ harmless
  constructor
  · intro reached net
    have proper := front_sending reached opened going front
    have givesUp : ∀ conn reported,
        (s.conns.conns fd).GivesUp msg net conn reported →
        ¬ ∀ conns, s.conns.sendMsg fd net = .ok (false, conns) →
          (newWrites s.conns conns fd).any WriteResult.fails = true := by
      intro conn reported gives justified
      obtain ⟨result, clean⟩ :=
        sendMsg_gives_up reached.of_restrict opened front gives
      rw [justified _ result] at clean
      contradiction
    constructor
    · intro justified
      constructor
      · by_contra dry
        obtain ⟨conn, reported, gives, _⟩ :=
          Conn.transmit_dry proper (by simpa using dry)
        exact givesUp conn reported gives justified
      · rintro ⟨out, error⟩
        obtain ⟨conn, reported, gives⟩ :=
          Conn.transmit_last proper out (forwarded.last_iff.mpr error)
        exact givesUp conn reported gives justified
    · rintro ⟨wet, harmless⟩ conns sent
      exact enough reached net conns wet harmless sent
  · intro reached net conns wet sent
    refine enough reached.of_restrict net conns wet ?_ sent
    rintro ⟨_, error⟩
    have made := (made_invariant fun frame =>
      frame.header.type ∈ transfileTypes.map Prod.fst →
        frame.header.subType ≠ 0xFF).holds reached.of_restrict_restrict fd msg
          (List.mem_of_mem_head? front)
    rcases made.last (forwarded.last_iff.mpr error) with own |
      ⟨_, source, clean, type, impossible⟩
    · exact absurd own forwarded.notOwnLast
    · exact clean type impossible

def fileFrame (subType : UInt8) : Message :=
  .ofData 0x19 subType (Buffer.ofWord 2 ++ Buffer.ofWord 1 ++
    Buffer.ofText "x")

/-- Two users log in, the first one sends file data, and the messages before
it go out to the second one. -/
def forwarding (subType : UInt8) : List Step :=
  arrives 4 [loginFrame "a"] ++ arrives 5 [loginFrame "b"] ++
    [.recvMsg 4 [.data (fileFrame subType).wire],
      .sendMsg 5 [.took 4, .took 8], .sendMsg 5 [.took 4, .took 4],
      .sendMsg 5 [.took 4, .took 4]]

theorem forwards_harmless_data : ∃ s, (orderly Tables.env).Reachable s ∧
    ∀ conns, s.conns.sendMsg 5 [.took 4, .took 9] = .ok (false, conns) →
      (newWrites s.conns conns 5).any WriteResult.fails = true := by
  have replayed : ((orderly Tables.env).replay threeUsers
      (forwarding 0x00)).any (fun s =>
        s.clientFds 5 && !s.hung 5 && (s.conns.conns 5).sendQue.head? =
            some (transfileMsg 0xA9 (fileFrame 0x00)) &&
          !(s.conns.conns 5).writesDry (transfileMsg 0xA9 (fileFrame 0x00))
            [.took 4, .took 9]) = true := by
    decide +kernel
  obtain ⟨s, reached, ended⟩ :=
    Machine.Reachable.of_replay replayed threeUsers_initial
  simp only [Bool.and_eq_true, decide_eq_true_eq, Bool.not_eq_true'] at ended
  obtain ⟨⟨⟨opened, going⟩, front⟩, wet⟩ := ended
  have forwarded : Forwarded (fileFrame 0x00)
      (transfileMsg 0xA9 (fileFrame 0x00)) :=
    .file (by decide) (by decide) (by decide)
  have zero : ¬ (transfileMsg 0xA9 (fileFrame 0x00)).header.subType = 0xFF := by
    decide
  exact ⟨s, reached, ((forwards_harmless Tables.env s 5 opened going _ _
    forwarded front).1 reached _).mpr ⟨wet, fun out => zero out.2⟩⟩

/-- File data with the sub-type of an error closes the connection it is
forwarded to. -/
theorem error_file_closes : ∃ s, (orderly Tables.env).Reachable s ∧
    s.hung 5 = true ∧
    (s.conns.conns 5).sendQue.head? =
      some (transfileMsg 0xA9 (fileFrame 0xFF)) ∧
    (s.conns.conns 5).history.reads.any ReadResult.ends = false ∧
    (s.conns.conns 5).history.writes.any WriteResult.fails = false := by
  have replayed : ((orderly Tables.env).replay threeUsers
      (forwarding 0xFF ++ [.sendMsg 5 [.took 4, .took 9]])).any (fun s =>
        s.hung 5 && (s.conns.conns 5).sendQue.head? =
            some (transfileMsg 0xA9 (fileFrame 0xFF)) &&
          !(s.conns.conns 5).history.reads.any ReadResult.ends &&
          !(s.conns.conns 5).history.writes.any WriteResult.fails) = true := by
    decide +kernel
  obtain ⟨s, reached, ended⟩ :=
    Machine.Reachable.of_replay replayed threeUsers_initial
  simp only [Bool.and_eq_true, decide_eq_true_eq, Bool.not_eq_true'] at ended
  obtain ⟨⟨⟨hanging, front⟩, reads⟩, writes⟩ := ended
  exact ⟨s, reached, hanging, front, reads, writes⟩

end GroupChat.Server
