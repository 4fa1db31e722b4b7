import GroupChat.Client.Run
import GroupChat.Server.Forwarding
import GroupChat.Server.Login

namespace GroupChat.System

/-! Who a client takes for the sender of a forwarded frame. -/

open Client
open Server hiding Uid machine

variable {ω : Type} {env : Env ω}

/-- The second word of a payload, as a data stream reads it. -/
def secondWord (data : Buffer) : Uid :=
  (DataStream.readWord (DataStream.readWord data).2).1

/-- The sender that the receiving client reads: in front of a text, and behind
the receiver in a frame with a file. -/
def senderOf (msg : Message) : Uid :=
  if msg.header.type = 0xA3 then (DataStream.readWord msg.data).1
  else secondWord msg.data

def forwardTypes : List UInt8 := [0xA3, 0xA7, 0xA8, 0xA9, 0xAA]

theorem fetchUids_sender {c c' : TcpClient} {rest : Buffer}
    (fetched : c.fetchUids = .ok (rest, c')) :
    c'.fromUid = secondWord c.receivedData := by
  obtain ⟨_, _, made⟩ := Exec.of_bind_ok fetched
  cases made
  rfl

theorem fetchRecvMessageHistory_sender (host : Host) (c : TcpClient)
    (now : Int) : ∃ name txt, (c.fetchRecvMessageHistory host false
      now).recordModel = (c.contactName (DataStream.readWord
        c.receivedData).1).2.recordModel.addRecord host
          (DataStream.readWord c.receivedData).1 false name txt now :=
  ⟨_, _, rfl⟩

theorem senderOf_textMsg (srcUid : Uid) (frame : Message) :
    senderOf (Connections.textMsg srcUid frame) = srcUid := by
  have front : (Connections.textMsg srcUid frame).data =
      Buffer.ofWord srcUid ++ frame.data.drop 4 := by
    simp [Connections.textMsg, Buffer.overwrite]
  have type : (Connections.textMsg srcUid frame).header.type = 0xA3 := rfl
  rw [senderOf, if_pos type, front, DataStream.readWord_ofWord]

theorem senderOf_transfileMsg {frame : Message} {type : UInt8}
    (kind : (frame.header.type, type) ∈ Connections.transfileTypes) :
    senderOf (Connections.transfileMsg type frame) =
      secondWord frame.data := by
  have other : type ≠ 0xA3 := by
    intro same
    rw [same] at kind
    simp [Connections.transfileTypes] at kind
  exact if_neg other

/-- The sender that is read from a frame forwarded to another connection is the
user bound to the sending one exactly if the frame is a text or already carries
that user's id. -/
theorem senders_authenticated_iff (env : Env ω) (s s' : State ω)
    (reached : (Server.machine env).Reachable s) (fd : Fd)
    (opened : s.clientFds fd = true) (net : List ReadResult) (frame : Message)
    (handed : s.conns.Handed fd net frame)
    (moved : s.next env (.recvMsg fd net) = .ok s') (target : Fd)
    (other : target ≠ fd) (new : List Message)
    (queued : (s'.conns.conns target).history.pushed =
      (s.conns.conns target).history.pushed ++ new)
    (msg : Message) (member : msg ∈ new)
    (forwarded : msg.header.type ∈ forwardTypes) :
    s.conns.fdToUid.lookup fd = some (senderOf msg) ↔
      frame.header.type = 0x13 ∨
        s.conns.fdToUid.lookup fd = some (secondWord frame.data) := by
  have inside := opened_inside reached fd opened
  obtain ⟨conns, parsed, rfl⟩ := (State.next_handed inside handed).mp moved
  obtain ⟨l, pushed, relays⟩ := (Connections.parse_handled parsed).relays
  have sent : new = sentTo target l := by
    have grown := congrArg (fun conn => conn.history.pushed)
      (pushed.conns target)
    rw [Connections.setConn_conns, if_neg other] at grown
    exact List.append_cancel_left (queued.symm.trans grown)
  rw [sent] at member
  have same := Connections.frame_handed handed
  rcases relays _ (mem_sentTo.mp member) with own | shutdown | online |
    ⟨uid, bound, relayed⟩
  · exact absurd own other
  · rw [shutdown] at forwarded
    exact absurd forwarded (by decide)
  · rw [online] at forwarded
    exact absurd forwarded (by decide)
  · have bound : s.conns.fdToUid.lookup fd = some uid := bound
    rw [same] at relayed
    rcases relayed with ⟨type, made⟩ | ⟨type, kind, made⟩
    · have made : msg = Connections.textMsg uid frame := made
      rw [made, senderOf_textMsg, bound]
      simp [type]
    · have made : msg = Connections.transfileMsg type frame := made
      have file : frame.header.type ≠ 0x13 := by
        intro text
        rw [text] at kind
        simp [Connections.transfileTypes] at kind
      rw [made, senderOf_transfileMsg kind]
      simp [file]

def forgedPart : Message :=
  .ofData 0x19 0x00 (Buffer.ofWord 2 ++ Buffer.ofWord 3 ++ [0x2A])

def textToTwo : Message :=
  .ofData 0x13 0x00 (Buffer.ofWord 2 ++ [0x68, 0x69])

def usersOneTwo : List Step :=
  arrives 4 [loginFrame "a"] ++ arrives 5 [loginFrame "b"]

/-- Whether a frame that arrives on connection 4 leads to this message on
connection 5. -/
def queuesToFive (s : State (List Server.Record)) (frame msg : Message) :
    Bool :=
  match s.next (Tables.keptEnv threeAccounts) (.recvMsg 4 (whole frame)) with
  | .ok s' => (s'.conns.conns 5).history.pushed =
      (s.conns.conns 5).history.pushed ++ [msg]
  | .error _ => false

theorem queuesToFive_step {s : State (List Server.Record)}
    {frame msg : Message} (queues : queuesToFive s frame msg = true) :
    ∃ s', s.next (Tables.keptEnv threeAccounts) (.recvMsg 4 (whole frame)) =
        .ok s' ∧
      (s'.conns.conns 5).history.pushed =
        (s.conns.conns 5).history.pushed ++ [msg] := by
  unfold queuesToFive at queues
  split at queues
  · exact ⟨_, by assumption, of_decide_eq_true queues⟩
  · cases queues

theorem senders_authenticated_text : ∃ s s' msg,
    (Server.machine (Tables.keptEnv threeAccounts)).Reachable s ∧
    s.next (Tables.keptEnv threeAccounts) (.recvMsg 4 (whole textToTwo)) =
      .ok s' ∧
    (s'.conns.conns 5).history.pushed =
      (s.conns.conns 5).history.pushed ++ [msg] ∧
    s.conns.fdToUid.lookup 4 = some (senderOf msg) := by
  have replayed : ((Server.machine (Tables.keptEnv threeAccounts)).replay
      (.init [] 1024) usersOneTwo).any
        (fun s => handsOver s 4 textToTwo &&
          queuesToFive s textToTwo (Connections.textMsg 1 textToTwo)) =
        true := by
    decide +kernel
  obtain ⟨s, reached, holds⟩ :=
    Machine.Reachable.of_replay replayed (keptEnv_initial threeAccounts)
  simp only [Bool.and_eq_true] at holds
  obtain ⟨opened, handed⟩ := of_decide_eq_true holds.1
  obtain ⟨s', moved, queued⟩ := queuesToFive_step holds.2
  exact ⟨s, s', _, reached, moved, queued,
    (senders_authenticated_iff _ s s' reached 4 opened _ textToTwo handed
      moved 5 (by decide) _ queued _ (List.mem_singleton.mpr rfl)
      (by decide)).mpr (.inl rfl)⟩

/-- A part of a file passes for one that user 3 sends. -/
theorem forged_sender : ∃ s s' msg,
    (Server.machine (Tables.keptEnv threeAccounts)).Reachable s ∧
    s.conns.Handed 4 (whole forgedPart) forgedPart ∧
    s.conns.fdToUid.lookup 4 = some 1 ∧
    s.next (Tables.keptEnv threeAccounts) (.recvMsg 4 (whole forgedPart)) =
      .ok s' ∧
    (s'.conns.conns 5).history.pushed =
      (s.conns.conns 5).history.pushed ++ [msg] ∧
    msg.header.type ∈ forwardTypes ∧ senderOf msg = 3 := by
  have replayed : ((Server.machine (Tables.keptEnv threeAccounts)).replay
      (.init [] 1024) usersOneTwo).any
        (fun s => handsOver s 4 forgedPart &&
          decide (s.conns.fdToUid.lookup 4 = some 1) &&
          queuesToFive s forgedPart
            (Connections.transfileMsg 0xA9 forgedPart)) = true := by
    decide +kernel
  obtain ⟨s, reached, holds⟩ :=
    Machine.Reachable.of_replay replayed (keptEnv_initial threeAccounts)
  simp only [Bool.and_eq_true, decide_eq_true_eq] at holds
  obtain ⟨opened, handed⟩ := of_decide_eq_true holds.1.1
  obtain ⟨s', moved, queued⟩ := queuesToFive_step holds.2
  exact ⟨s, s', _, reached, handed, holds.1.2, moved, queued, by decide,
    by decide⟩

end GroupChat.System
