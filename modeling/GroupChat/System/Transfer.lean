import GroupChat.Client.Files
import GroupChat.Server.Frames
import GroupChat.System.Senders

namespace GroupChat.System

/-! The frames with files on their way from one client through the server to
another. -/

open Client
open Server hiding Uid machine Record

/-- A queued message as the client that gets it reads it: with its length in
host order. -/
def received (msg : Message) : Message :=
  { msg with header := { msg.header with length := ntohs msg.header.length } }

theorem received_transfileMsg (type : UInt8) (frame : Message) :
    received (Connections.transfileMsg type frame) =
      ⟨⟨type, frame.header.subType, frame.header.length⟩, frame.data⟩ := by
  rw [received, Connections.transfileMsg, ntohs_htons]

theorem wire_injective {first second : Message}
    (same : first.wire = second.wire) : first = second := by
  obtain ⟨header, data⟩ := first
  obtain ⟨header', data'⟩ := second
  simp only [Message.wire] at same
  obtain ⟨headers, rest⟩ := List.append_inj same
    (by rw [Header.length_wire, Header.length_wire])
  rw [Header.wire_injective headers, rest]

inductive Stage where
  | request
  | answer
  | part
  | acknowledgement
  deriving DecidableEq, Repr

namespace Stage

variable {host : Host} {c after : TcpClient}

def compose (host : Host) (c : TcpClient) : Stage → Exec TcpClient
  | .request => c.composeFileRequest host
  | .answer => .ok c.composeFileAccessRespond
  | .part => .ok c.composeFilePartRequest
  | .acknowledgement => .ok c.composeFileSuccessRespond

def send (host : Host) (c : TcpClient) (stage : Stage) : Exec TcpClient := do
  let c ← stage.compose host c
  c.sendWholeFrame

def handler : Stage → TcpClient.Handler
  | .request => .parseFileRequest
  | .answer => .parseFileAccessRespond
  | .part => .parseFilePartRequest
  | .acknowledgement => .parseFileSuccessRespond

def fetch (host : Host) (c : TcpClient) : Stage → Exec TcpClient
  | .request => c.fetchFileRequest host
  | .answer => c.fetchFileAccessRespond
  | .part => c.fetchFilePartRequest
  | .acknowledgement => c.fetchFileSuccessRespond

/-- The fields of the receiver that are to be those of the sender. -/
def Extracted (c r : TcpClient) : Stage → Prop
  | .request => r.fromUid = c.uid ∧ r.toFilesize = c.toFilesize ∧
      r.toFilename = c.toFilename
  | .answer => r.fromUid = c.uid
  | .part => r.fromUid = c.uid ∧ r.toFilepart = c.toFilepart
  | .acknowledgement => r.fromUid = c.uid ∧ r.toFilesize = c.toFilesize

def frame (host : Host) (c : TcpClient) : Stage → Message
  | .request =>
      TcpClient.fileRequest host c.toUid c.uid c.toFilesize c.toFilename
  | .answer => TcpClient.fileFrame ⟨0x18, 0x01, 12⟩ c.toUid c.uid []
  | .part => TcpClient.filePart c.toUid c.uid c.toFilepart
  | .acknowledgement => TcpClient.fileFrame ⟨0x1A, 0x00, 16⟩ c.toUid c.uid
      (Buffer.ofWord c.toFilesize)

theorem send_ok {stage : Stage} (sent : stage.send host c = .ok after) :
    (stage.frame host c).header.length.toNat =
        sizeofHeader + (stage.frame host c).data.length ∧
      after.sent = c.sent ++ [(stage.frame host c).wire] := by
  obtain ⟨middle, composed, rest⟩ := Exec.of_bind_ok sent
  have made : middle = c.compose (stage.frame host c).header
      (stage.frame host c).data := by
    cases stage with
    | request => exact (TcpClient.composeFileRequest_ok composed).2
    | answer =>
        cases composed
        rfl
    | part =>
        cases composed
        exact TcpClient.composeFilePartRequest_eq c
    | acknowledgement =>
        cases composed
        simp only [frame, TcpClient.fileFrame, ← List.append_assoc]
        rfl
  rw [made] at rest
  obtain ⟨whole, _, rfl⟩ := TcpClient.sendWholeFrame_eq.mp rest
  exact ⟨whole, rfl⟩

end Stage

/-- A frame that was sent reaches the handler of its stage at an online
receiver, with the fields the sender composed. -/
def Delivered (env : Env ω) (host : Host) (c : TcpClient) (stage : Stage)
    (s : Connections ω) (fd target : Fd) : Prop :=
  ∃ db msg, s.parse env fd = .ok ({ s with db := db }.push target msg) ∧
    (received msg).header.length.toNat =
      (received msg).data.length + sizeofHeader ∧
    TcpClient.handlerOf msg.header.type = some stage.handler ∧
    ∀ r : TcpClient, r.uid = c.toUid →
      ∃ r', stage.fetch host (r.holding (received msg)) = .ok r' ∧
        stage.Extracted c r'

namespace Stage

variable {host : Host} {c after : TcpClient}

def type : Stage → UInt8
  | .request => 0x17
  | .answer => 0x18
  | .part => 0x19
  | .acknowledgement => 0x1A

def forwardType : Stage → UInt8
  | .request => 0xA7
  | .answer => 0xA8
  | .part => 0xA9
  | .acknowledgement => 0xA9

theorem frame_type (host : Host) (c : TcpClient) (stage : Stage) :
    (stage.frame host c).header.type = stage.type := by
  cases stage <;> rfl

theorem forwardType_mem : ∀ stage : Stage,
    (stage.type, stage.forwardType) ∈ Connections.transfileTypes := by
  intro stage
  cases stage <;> decide

theorem frame_toUid (host : Host) (c : TcpClient) (stage : Stage) :
    (stage.frame host c).data.wordAt 0 = .ok c.toUid := by
  cases stage <;> exact Buffer.wordAt_ofWord _ _

theorem frame_fits {stage : Stage}
    (whole : (stage.frame host c).header.length.toNat =
      sizeofHeader + (stage.frame host c).data.length) :
    Connections.TransfileFits stage.type
      (stage.frame host c).data.length := by
  cases stage with
  | request =>
      have long : 80 = 4 + (request.frame host c).data.length := whole
      exact ⟨fun _ => by omega, fun type => absurd type (by decide),
        fun type => absurd type (by decide)⟩
  | answer =>
      exact ⟨fun type => absurd type (by decide), fun _ => rfl,
        fun type => absurd type (by decide)⟩
  | part =>
      exact ⟨fun type => absurd type (by decide),
        fun type => absurd type (by decide),
        fun type => absurd type (by decide)⟩
  | acknowledgement =>
      exact ⟨fun type => absurd type (by decide),
        fun type => absurd type (by decide), fun _ => rfl⟩

/-- What the server makes of the frame of a stage. -/
theorem parse_forwards {stage : Stage} (env : Env ω) {s : Connections ω}
    {fd target : Fd} {uid : Client.Uid}
    (whole : (stage.frame host c).header.length.toNat =
      sizeofHeader + (stage.frame host c).data.length)
    (arrived : s.frame fd = stage.frame host c)
    (mine : s.myUid fd = .ok uid)
    (online : s.uidToFd.lookup c.toUid = some target) :
    ∃ db, s.parse env fd = .ok ({ s with db := db }.push target
      (Connections.transfileMsg stage.forwardType
        (stage.frame host c))) := by
  rw [← arrived]
  apply Connections.parse_forwards _ _ _ _ mine online
  · rw [arrived, frame_type]
    exact forwardType_mem stage
  · rw [arrived]
    exact whole
  · rw [arrived, frame_type]
    exact frame_fits whole
  · rw [arrived]
    exact frame_toUid host c stage

end Stage

theorem push_injective {s : Connections ω} {db db' : ω} {target : Fd}
    {first second : Message}
    (same : ({ s with db := db } : Connections ω).push target first =
      ({ s with db := db' } : Connections ω).push target second) :
    first = second := by
  have queues := congrArg (fun s => (s.conns target).sendQue) same
  simp only [Connections.push_conns, if_true, Conn.push] at queues
  exact List.singleton_inj.mp (List.append_cancel_left queues)

/-- What a receiver finds in the frame of a stage other than the last. -/
theorem Stage.fetch_extracts {host : Host} {c r : TcpClient} {stage : Stage}
    (data : r.receivedData = (stage.frame host c).data)
    (whole : (stage.frame host c).header.length.toNat =
      sizeofHeader + (stage.frame host c).data.length)
    (mine : r.uid = c.toUid) (other : stage ≠ .acknowledgement) :
    ∃ r', stage.fetch host r = .ok r' ∧
      (stage.Extracted c r' ↔ (stage = .request →
        host.fromLocal8Bit (host.toLocal8Bit c.toFilename) =
          c.toFilename)) := by
  cases stage with
  | request =>
      have long : 80 = 4 + (Stage.request.frame host c).data.length := whole
      have short : (host.toLocal8Bit c.toFilename).length ≤ 64 := by
        simp only [Stage.frame, TcpClient.fileRequest, TcpClient.fileFrame,
          TcpClient.nameField, List.length_append, Buffer.length_ofWord,
          List.length_replicate] at long
        omega
      refine ⟨_, TcpClient.fetchFileRequest_fileFrame data mine short, ?_⟩
      simp [Stage.Extracted]
  | answer =>
      refine ⟨{ r with fromUid := c.uid }, ?_, by simp [Stage.Extracted]⟩
      unfold Stage.fetch TcpClient.fetchFileAccessRespond
      rw [TcpClient.fetchUids_fileFrame data mine]
      rfl
  | part =>
      exact ⟨_, TcpClient.fetchFilePartRequest_fileFrame data mine,
        by simp [Stage.Extracted]⟩
  | acknowledgement => exact absurd rfl other

/-- A frame of a file transfer that was sent is delivered to its counterpart
exactly if it is not an acknowledgement and, where it is a request, the file
name survives the local encoding. -/
theorem transfer_delivered_iff (host : Host) (c after : TcpClient)
    (stage : Stage) (sent : stage.send host c = .ok after) (env : Env ω)
    (s : Connections ω) (fd target : Fd) (uid : Client.Uid)
    (arrived : after.sent = c.sent ++ [(s.frame fd).wire])
    (mine : s.myUid fd = .ok uid)
    (online : s.uidToFd.lookup c.toUid = some target) :
    Delivered env host c stage s fd target ↔
      stage ≠ .acknowledgement ∧ (stage = .request →
        host.fromLocal8Bit (host.toLocal8Bit c.toFilename) =
          c.toFilename) := by
  obtain ⟨whole, written⟩ := Stage.send_ok sent
  have same : s.frame fd = stage.frame host c :=
    wire_injective (List.singleton_inj.mp
      (List.append_cancel_left (arrived.symm.trans written)))
  obtain ⟨db, parsed⟩ := Stage.parse_forwards env whole same mine online
  have data : ∀ r : TcpClient, (r.holding (received (Connections.transfileMsg
      stage.forwardType (stage.frame host c)))).receivedData =
        (stage.frame host c).data := fun r => rfl
  constructor
  · intro delivered
    obtain ⟨db', msg, parsed', _, handler, extracts⟩ := delivered
    have made : Connections.transfileMsg stage.forwardType
        (stage.frame host c) = msg :=
      push_injective (Except.ok.inj (parsed.symm.trans parsed'))
    subst made
    have other : stage ≠ .acknowledgement := by
      intro last
      rw [last] at handler
      cases handler
    refine ⟨other, ?_⟩
    obtain ⟨r', fetched, extracted⟩ := extracts { uid := c.toUid } rfl
    obtain ⟨r'', fetched', exact⟩ :=
      Stage.fetch_extracts (data { uid := c.toUid }) whole rfl other
    rw [fetched] at fetched'
    cases fetched'
    exact exact.mp extracted
  · intro conditions
    obtain ⟨other, survives⟩ := conditions
    refine ⟨db, _, parsed, ?_, ?_, ?_⟩
    · rw [received_transfileMsg]
      exact whole.trans (Nat.add_comm _ _)
    · cases stage with
      | acknowledgement => exact absurd rfl other
      | request | answer | part => rfl
    · intro r mine
      obtain ⟨r', fetched, exact⟩ :=
        @Stage.fetch_extracts host c (r.holding _) stage (data r) whole mine
          other
      exact ⟨r', fetched, exact.mpr survives⟩

def sharer : TcpClient where
  isOpen := true
  uid := 1
  toUid := 2
  toFilename := .ofText "a.txt"
  toFilesize := 3

/-- Whether a frame of the user on connection 4 is the last that was handed
over there, with user 2 on connection 5. -/
def handsToServer (s : State (List Server.Record)) (frame : Message) : Bool :=
  s.conns.frame 4 = frame ∧ s.conns.fdToUid.lookup 4 = some 1 ∧
    s.conns.uidToFd.lookup 1 = some 4 ∧ s.conns.uidToFd.lookup 2 = some 5

theorem transfer_delivered_request : ∃ s : State (List Server.Record),
    (Server.machine (Tables.keptEnv threeAccounts)).Reachable s ∧
    Delivered (Tables.keptEnv threeAccounts) Host.latin1 sharer .request
      s.conns 4 5 := by
  have replayed : ((Server.machine (Tables.keptEnv threeAccounts)).replay
      (.init [] 1024) (usersOneTwo ++ [.recvMsg 4 (whole
        (Stage.request.frame Host.latin1 sharer))])).any
        (fun s => handsToServer s (Stage.request.frame Host.latin1 sharer)) =
        true := by
    decide +kernel
  obtain ⟨s, reached, holds⟩ :=
    Machine.Reachable.of_replay replayed (keptEnv_initial threeAccounts)
  obtain ⟨frame, bound, back, online⟩ := of_decide_eq_true holds
  have composed : sharer.composeFileRequest Host.latin1 = .ok (sharer.compose
      (Stage.request.frame Host.latin1 sharer).header
      (Stage.request.frame Host.latin1 sharer).data) := rfl
  have sent : Stage.request.send Host.latin1 sharer = .ok (sharer.delivered
      (Stage.request.frame Host.latin1 sharer)) := by
    rw [Stage.send, Stage.compose, composed, Exec.bind_ok]
    exact TcpClient.sendWholeFrame_eq.mpr ⟨by decide, rfl, rfl⟩
  exact ⟨s, reached, (transfer_delivered_iff Host.latin1 sharer _ .request sent
    (Tables.keptEnv threeAccounts) s.conns 4 5 1 (by rw [frame]; rfl)
    (Connections.myUid_eq.mpr ⟨bound, back⟩) online).mpr
      ⟨by decide, fun _ => by decide⟩⟩

/-- An acknowledgement is handed to the handler for parts of files. -/
theorem acknowledgement_taken_for_part : ∃ s : State (List Server.Record),
    (Server.machine (Tables.keptEnv threeAccounts)).Reachable s ∧
    Stage.acknowledgement.send Host.latin1 sharer = .ok (sharer.delivered
      (Stage.acknowledgement.frame Host.latin1 sharer)) ∧
    s.conns.frame 4 = Stage.acknowledgement.frame Host.latin1 sharer ∧
    s.conns.myUid 4 = .ok 1 ∧ s.conns.uidToFd.lookup 2 = some 5 ∧
    (∃ db msg, s.conns.parse (Tables.keptEnv threeAccounts) 4 =
        .ok ({ s.conns with db := db }.push 5 msg) ∧
      TcpClient.handlerOf msg.header.type = some .parseFilePartRequest) ∧
    ¬ Delivered (Tables.keptEnv threeAccounts) Host.latin1 sharer
      .acknowledgement s.conns 4 5 := by
  have replayed : ((Server.machine (Tables.keptEnv threeAccounts)).replay
      (.init [] 1024) (usersOneTwo ++ [.recvMsg 4 (whole
        (Stage.acknowledgement.frame Host.latin1 sharer))])).any
        (fun s => handsToServer s
          (Stage.acknowledgement.frame Host.latin1 sharer)) = true := by
    decide +kernel
  obtain ⟨s, reached, holds⟩ :=
    Machine.Reachable.of_replay replayed (keptEnv_initial threeAccounts)
  obtain ⟨frame, bound, back, online⟩ := of_decide_eq_true holds
  have mine := Connections.myUid_eq.mpr ⟨bound, back⟩
  have sent : Stage.acknowledgement.send Host.latin1 sharer =
      .ok (sharer.delivered
        (Stage.acknowledgement.frame Host.latin1 sharer)) := by
    have composed : Stage.acknowledgement.compose Host.latin1 sharer =
        .ok (sharer.compose
          (Stage.acknowledgement.frame Host.latin1 sharer).header
          (Stage.acknowledgement.frame Host.latin1 sharer).data) := rfl
    rw [Stage.send, composed, Exec.bind_ok]
    exact TcpClient.sendWholeFrame_eq.mpr ⟨by decide, rfl, rfl⟩
  obtain ⟨db, parsed⟩ := Stage.parse_forwards (Tables.keptEnv threeAccounts)
    (Stage.send_ok sent).1 frame mine online
  refine ⟨s, reached, sent, frame, mine, online, ⟨db, _, parsed, rfl⟩, ?_⟩
  intro delivered
  obtain ⟨_, msg, parsed', _, handler, _⟩ := delivered
  rw [← push_injective (Except.ok.inj (parsed.symm.trans parsed'))] at handler
  cases handler

end GroupChat.System
