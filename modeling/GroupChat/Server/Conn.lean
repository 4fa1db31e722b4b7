import GroupChat.Server.Common

namespace GroupChat.Server

/-! One connection: the frame being received, the queue being sent. -/

structure Header where
  type : UInt8 := 0
  subType : UInt8 := 0
  length : UInt16 := 0
  deriving DecidableEq, Repr

def sizeofHeader : Nat := 4

namespace Header

/-- The bytes a header has in memory, the length as a little-endian word. -/
def memory (header : Header) : Buffer :=
  [header.type, header.subType, UInt8.ofNat header.length.toNat,
    UInt8.ofNat (header.length.toNat / 256)]

def ofMemory : Buffer → Header
  | [type, subType, low, high] =>
      ⟨type, subType, UInt16.ofNat (high.toNat * 256 + low.toNat)⟩
  | _ => {}

@[simp] theorem length_memory (header : Header) :
    header.memory.length = 4 := rfl

@[simp] theorem ofMemory_memory (header : Header) :
    ofMemory header.memory = header := by
  have bound := header.length.toNat_lt
  have whole : UInt16.ofNat
      ((UInt8.ofNat (header.length.toNat / 256)).toNat * 256 +
        (UInt8.ofNat header.length.toNat).toNat) = header.length := by
    apply UInt16.toNat.inj
    simp only [UInt16.toNat_ofNat', UInt8.toNat_ofNat']
    omega
  simp only [memory, ofMemory, whole]

theorem memory_ofMemory {bytes : Buffer} (size : bytes.length = 4) :
    (ofMemory bytes).memory = bytes := by
  match bytes, size with
  | [type, subType, low, high], _ =>
      have lowBound := low.toNat_lt
      have highBound := high.toNat_lt
      have word : (UInt16.ofNat (high.toNat * 256 + low.toNat)).toNat =
          high.toNat * 256 + low.toNat := by
        rw [UInt16.toNat_ofNat']
        omega
      have lowByte : UInt8.ofNat (high.toNat * 256 + low.toNat) = low := by
        apply UInt8.toNat.inj
        rw [UInt8.toNat_ofNat']
        omega
      have highByte : UInt8.ofNat ((high.toNat * 256 + low.toNat) / 256) =
          high := by
        apply UInt8.toNat.inj
        rw [UInt8.toNat_ofNat']
        omega
      simp only [ofMemory, memory, word, lowByte, highByte]

end Header

structure Message where
  header : Header := {}
  data : Buffer := []
  deriving DecidableEq, Repr

namespace Message

def bytes (msg : Message) : Buffer :=
  msg.header.memory ++ msg.data

@[simp] theorem length_bytes (msg : Message) :
    msg.bytes.length = sizeofHeader + msg.data.length := by
  simp [bytes, sizeofHeader]

/-- The length field for so many bytes of data, in network order. -/
def netLength (size : Nat) : UInt16 :=
  htons (UInt16.ofNat (sizeofHeader + size))

end Message

def Header.wire (header : Header) : Buffer :=
  { header with length := htons header.length }.memory

@[simp] theorem Header.length_wire (header : Header) :
    header.wire.length = 4 := rfl

def Message.wire (msg : Message) : Buffer :=
  msg.header.wire ++ msg.data

/-- The frame has a payload, and its length tells how much. -/
structure Message.Framed (msg : Message) : Prop where
  announced : msg.header.length.toNat = sizeofHeader + msg.data.length
  payload : msg.data ≠ []

/-- The frame with these data and the length that belongs to them. -/
def Message.ofData (type subType : UInt8) (data : Buffer) : Message where
  header := ⟨type, subType, UInt16.ofNat (sizeofHeader + data.length)⟩
  data := data

theorem Message.ofData_framed {type subType : UInt8} {data : Buffer}
    (payload : data ≠ []) (fits : sizeofHeader + data.length < 65536) :
    (Message.ofData type subType data).Framed where
  announced := by
    simp only [ofData, UInt16.toNat_ofNat']
    exact Nat.mod_eq_of_lt fits
  payload := payload

theorem Header.wire_ntohs (header : Header) :
    Header.wire { header with length := ntohs header.length } =
      header.memory := by
  have twice : htons (ntohs header.length) = header.length :=
    ntohs_htons header.length
  simp only [Header.wire, twice]

theorem Header.memory_injective {first second : Header}
    (same : first.memory = second.memory) : first = second := by
  rw [← Header.ofMemory_memory first, same, Header.ofMemory_memory]

/-- What happened on a connection since it was accepted.  The program neither
keeps nor reads it: what the calls of `read` and `write` reported, the bytes
that were taken, the frames handed to `parse` and the messages queued. -/
structure History where
  reads : List ReadResult := []
  parsed : List Message := []
  writes : List WriteResult := []
  accepted : Buffer := []
  pushed : List Message := []

structure Conn where
  recvingHeader : Bool := true
  recvLen : Nat := 0
  recvMsg : Message := {}
  sendingHeader : Bool := true
  sendLen : Nat := 0
  sendQue : List Message := []
  history : History := {}

/-- How receiving on a connection goes on. -/
inductive Intake where
  | closed
  | waiting
  | tooShort
  | complete
  deriving DecidableEq, Repr

/-- How sending on a connection goes on. -/
inductive Outlet where
  | closed
  | waiting
  | popped
  deriving DecidableEq, Repr

namespace Conn

def push (conn : Conn) (msg : Message) : Conn :=
  { conn with
    sendQue := conn.sendQue ++ [msg]
    history := { conn.history with pushed := conn.history.pushed ++ [msg] } }

def expectLen (conn : Conn) : Int :=
  (conn.recvMsg.header.length.toNat : Int) - sizeofHeader

/-- The frame is there: start over with the next header. -/
def finish (conn : Conn) : Conn :=
  { conn with
    recvingHeader := true
    recvLen := 0
    history := { conn.history with
      parsed := conn.history.parsed ++ [conn.recvMsg] } }

def recvData (conn : Conn) (net : List ReadResult) : Intake × Conn :=
  if conn.expectLen < 0 then
    (.tooShort, conn)
  else if 0 < conn.expectLen then
    let data := conn.recvMsg.data.resize conn.expectLen.toNat
    let out := readFromFd net (conn.expectLen.toNat - conn.recvLen)
    let conn := { conn with
      recvMsg := { conn.recvMsg with
        data := data.overwrite conn.recvLen out.stored }
      history := { conn.history with
        reads := conn.history.reads ++ out.reported } }
    if out.res ≤ 0 then
      (.closed, conn)
    else
      let conn := { conn with recvLen := conn.recvLen + out.res.toNat }
      if (conn.recvLen : Int) < conn.expectLen then
        (.waiting, conn)
      else
        (.complete, conn.finish)
  else
    (.complete, conn.finish)

def recvHeader (conn : Conn) (net : List ReadResult) : Intake × Conn :=
  let out := readFromFd net (sizeofHeader - conn.recvLen)
  let conn := { conn with
    recvMsg := { conn.recvMsg with
      header := .ofMemory
        (conn.recvMsg.header.memory.overwrite conn.recvLen out.stored) }
    history := { conn.history with
      reads := conn.history.reads ++ out.reported } }
  if out.res ≤ 0 then
    (.closed, conn)
  else
    let conn := { conn with recvLen := conn.recvLen + out.res.toNat }
    if conn.recvLen < sizeofHeader then
      (.waiting, conn)
    else
      recvData
        { conn with
          recvingHeader := false
          recvLen := 0
          recvMsg := { conn.recvMsg with
            header := { conn.recvMsg.header with
              length := ntohs conn.recvMsg.header.length } } }
        out.rest

def receive (conn : Conn) (net : List ReadResult) : Intake × Conn :=
  if conn.recvingHeader then conn.recvHeader net else conn.recvData net

/-- The header of a message after which the connection is to be closed. -/
def lastHeader (header : Header) : Bool :=
  header.type = 0xA0 || header.subType = 0xFF ||
    (header.type = 0x90 && header.subType &&& 0xF0 ≠ 0)

def wrote (conn : Conn) (out : WriteOutcome) : Conn :=
  { conn with history := { conn.history with
      writes := conn.history.writes ++ out.reported
      accepted := conn.history.accepted ++ out.accepted } }

def pop (conn : Conn) : Conn :=
  { conn with
    sendingHeader := true
    sendLen := 0
    sendQue := conn.sendQue.tail }

def sendData (conn : Conn) (msg : Message) (net : List WriteResult) :
    Exec (Outlet × Conn) := do
  Exec.require
    (sizeofHeader + msg.data.length = (ntohs msg.header.length).toNat)
    .assertion
  if 0 < msg.data.length then
    let out := writeToFd net (msg.data.drop conn.sendLen)
    let conn := conn.wrote out
    if out.res ≤ 0 then
      .ok (.closed, conn)
    else
      let conn := { conn with sendLen := conn.sendLen + out.res.toNat }
      if conn.sendLen < msg.data.length then
        .ok (.waiting, conn)
      else
        .ok (.popped, conn.pop)
  else
    .ok (.popped, conn.pop)

def sendHeader (conn : Conn) (msg : Message) (net : List WriteResult) :
    Exec (Outlet × Conn) :=
  let out := writeToFd net (msg.header.memory.drop conn.sendLen)
  let conn := conn.wrote out
  if out.res ≤ 0 then
    .ok (.closed, conn)
  else
    let conn := { conn with sendLen := conn.sendLen + out.res.toNat }
    if conn.sendLen < sizeofHeader then
      .ok (.waiting, conn)
    else
      let conn := { conn with sendingHeader := false, sendLen := 0 }
      if lastHeader msg.header then
        .ok (.closed, conn)
      else
        conn.sendData msg out.rest

def transmit (conn : Conn) (msg : Message) (net : List WriteResult) :
    Exec (Outlet × Conn) :=
  if conn.sendingHeader then conn.sendHeader msg net else conn.sendData msg net

/-- What `close_conn` resets: everything but the received message. -/
def reset (conn : Conn) : Conn :=
  { conn with
    recvingHeader := true
    recvLen := 0
    sendingHeader := true
    sendLen := 0
    sendQue := [] }

end Conn

end GroupChat.Server
