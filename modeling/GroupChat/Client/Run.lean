import GroupChat.Client.Handling
import GroupChat.Lib.Machine

namespace GroupChat.Client

/-! The client between two events: what its user does, and the frames that
arrive. -/

open Server (Header Message sizeofHeader)

inductive Event where
  | connect2Host
  | connectionSuccess
  | login (name password : QString)
  | sendMessage (txt : QString) (now : Int)
  | changePassword (oldPassword newPassword : QString)
  | sendFile (source : SourceFile)
  | setUid (uid : Uid)
  | closeConnection
  | frame (now : Int) (frame : Message)

namespace TcpClient

variable {host : Host} {c c' : TcpClient}

def start (host : Host) : TcpClient :=
  connect2Host host {}

def next (host : Host) (c : TcpClient) : Event → Exec TcpClient
  | .connect2Host => .ok (c.connect2Host host)
  | .connectionSuccess => .ok c.connectionSuccess
  | .login name password => c.login host name password
  | .sendMessage txt now => c.sendMessage host txt now
  | .changePassword oldPassword newPassword =>
      c.changePassword host oldPassword newPassword
  | .sendFile source => c.sendFile host source
  | .setUid uid => .ok (c.setUid uid)
  | .closeConnection => .ok c.closeConnection
  | .frame now frame => c.parseHeader host now frame

/-- A socket is connected when it is not yet open, and frames arrive on an open
one. -/
def Enabled (c : TcpClient) : Event → Prop
  | .connectionSuccess => c.isOpen = false
  | .frame _ _ => c.isOpen = true
  | _ => True

instance (c : TcpClient) : DecidablePred c.Enabled := fun event =>
  match event with
  | .connectionSuccess => inferInstanceAs (Decidable (c.isOpen = false))
  | .frame _ _ => inferInstanceAs (Decidable (c.isOpen = true))
  | .connect2Host | .login _ _ | .sendMessage _ _ | .changePassword _ _
  | .sendFile _ | .setUid _ | .closeConnection =>
      inferInstanceAs (Decidable True)

/-! What the calls of the user do, one lemma for each. -/

theorem login_eq {name password : QString} :
    c.login host name password = .ok c' ↔
      ((host.toLocal8Bit (name.resize 28)) ++
        host.toLocal8Bit (password.resize 28)).length = 56 ∧
      c.isOpen = true ∧
      c' = ((c.setName name).setPassword password).delivered
        ⟨⟨0x10, 0x00, 60⟩, host.toLocal8Bit (name.resize 28) ++
          host.toLocal8Bit (password.resize 28)⟩ := by
  unfold login composeLogin
  rw [sendWholeFrame_eq]
  have size : (UInt16.ofNat (unameByteLength + unameByteLength +
      sizeofHeader)).toNat = 60 := rfl
  rw [size]
  constructor
  · intro conditions
    obtain ⟨whole, opened, made⟩ := conditions
    exact ⟨(Nat.add_left_cancel whole).symm, opened, made⟩
  · intro conditions
    obtain ⟨whole, opened, made⟩ := conditions
    exact ⟨congrArg (4 + ·) whole.symm, opened, made⟩

theorem changePassword_eq {oldPassword newPassword : QString} :
    c.changePassword host oldPassword newPassword = .ok c' ↔
      ((host.toLocal8Bit (oldPassword.resize 28)) ++
        host.toLocal8Bit (newPassword.resize 28)).length = 56 ∧
      c.isOpen = true ∧
      c' = ((c.setPassword newPassword).setOldPassword oldPassword).delivered
        ⟨⟨0x15, 0x00, 60⟩, host.toLocal8Bit (oldPassword.resize 28) ++
          host.toLocal8Bit (newPassword.resize 28)⟩ := by
  unfold changePassword composeChangePassword
  rw [sendWholeFrame_eq]
  have size : (UInt16.ofNat (passwordByteLength * 2 +
      sizeofHeader)).toNat = 60 := rfl
  rw [size]
  constructor
  · intro conditions
    obtain ⟨whole, opened, made⟩ := conditions
    exact ⟨(Nat.add_left_cancel whole).symm, opened, made⟩
  · intro conditions
    obtain ⟨whole, opened, made⟩ := conditions
    exact ⟨congrArg (4 + ·) whole.symm, opened, made⟩

def textFrame (host : Host) (toUid : Uid) (txt : QString) : Message where
  header := ⟨0x13, conversationType toUid,
    UInt16.ofNat (8 + (host.toLocal8Bit txt).length)⟩
  data := Buffer.ofWord toUid ++ host.toLocal8Bit txt

theorem sendMessage_eq {txt : QString} {now : Int} :
    c.sendMessage host txt now = .ok c' ↔
      8 + (host.toLocal8Bit txt).length < 65536 ∧ c.isOpen = true ∧
      c' = { (c.setToMessage txt).delivered (textFrame host c.toUid txt) with
        recordModel :=
          c.recordModel.addRecord host c.toUid true c.uname txt now } := by
  have announced : (UInt16.ofNat (8 + (host.toLocal8Bit txt).length)).toNat =
      sizeofHeader + (Buffer.ofWord c.toUid ++
        host.toLocal8Bit txt).length ↔
      8 + (host.toLocal8Bit txt).length < 65536 := by
    rw [UInt16.toNat_ofNat', List.length_append, Buffer.length_ofWord,
      sizeofHeader]
    omega
  unfold sendMessage composeSendMessage
  constructor
  · intro completed
    obtain ⟨middle, sent, rest⟩ := Exec.of_bind_ok completed
    obtain ⟨whole, opened, rfl⟩ := sendWholeFrame_eq.mp sent
    cases rest
    exact ⟨announced.mp whole, opened, rfl⟩
  · intro conditions
    obtain ⟨short, opened, rfl⟩ := conditions
    have whole : ((c.setToMessage txt).compose (textFrame host c.toUid
        txt).header (textFrame host c.toUid txt).data).sendWholeFrame =
        .ok ((c.setToMessage txt).delivered (textFrame host c.toUid txt)) :=
      sendWholeFrame_eq.mpr ⟨announced.mpr short, opened, rfl⟩
    exact congrArg (fun run : Exec TcpClient => run >>= fun c =>
      .ok { c with recordModel :=
        c.recordModel.addRecord host c.toUid true c.uname txt now }) whole

/-- A frame about a file, with its two ids in front. -/
def fileFrame (header : Header) (toUid uid : Uid) (rest : Buffer) : Message where
  header := header
  data := Buffer.ofWord toUid ++ (Buffer.ofWord uid ++ rest)

def nameField (host : Host) (filename : QString) : Buffer :=
  host.toLocal8Bit filename ++
    List.replicate (64 - (host.toLocal8Bit filename).length) 0

def fileRequest (host : Host) (toUid uid : Uid) (filesize : UInt32)
    (filename : QString) : Message :=
  fileFrame ⟨0x17, 0x00, 80⟩ toUid uid
    (Buffer.ofWord filesize ++ nameField host filename)

def filePart (toUid uid : Uid) (part : Buffer) : Message :=
  fileFrame ⟨0x19, 0x00, UInt16.ofNat (8 + part.length + 4)⟩ toUid uid part

theorem composeFileRequest_eq (named : c.toFilename ≠ []) :
    c.composeFileRequest host = .ok (c.compose
      (fileRequest host c.toUid c.uid c.toFilesize c.toFilename).header
      (fileRequest host c.toUid c.uid c.toFilesize c.toFilename).data) := by
  unfold composeFileRequest
  rw [Exec.require_of named, Exec.bind_ok]
  simp only [fileRequest, fileFrame, nameField, List.append_assoc]
  rfl

theorem composeFileRequest_ok (composed : c.composeFileRequest host = .ok c') :
    c.toFilename ≠ [] ∧ c' = c.compose
      (fileRequest host c.toUid c.uid c.toFilesize c.toFilename).header
      (fileRequest host c.toUid c.uid c.toFilesize c.toFilename).data := by
  obtain ⟨_, named, made⟩ := Exec.of_bind_ok composed
  rw [Exec.require_eq_ok] at named
  rw [composeFileRequest_eq named] at composed
  cases composed
  exact ⟨named, rfl⟩

theorem composeFilePartRequest_eq (c : TcpClient) :
    c.composeFilePartRequest = c.compose
      (filePart c.toUid c.uid c.toFilepart).header
      (filePart c.toUid c.uid c.toFilepart).data := by
  simp only [composeFilePartRequest, filePart, fileFrame, List.append_assoc]
  rfl

def partsSent (filesize cnt : UInt32) : List Buffer → List Buffer
  | [] => []
  | part :: reads =>
      if cnt < filesize ∧ part ≠ [] then
        part :: partsSent filesize (cnt + UInt32.ofNat part.length) reads
      else
        []

/-- What sending frames of the user's keeps. -/
structure Sends (c c' : TcpClient) (frames : List Message) : Prop
    extends SameFile c c' where
  toUid : c'.toUid = c.toUid
  queueUid : c'.queueUid = c.queueUid
  mapContacts : c'.mapContacts = c.mapContacts
  isOpen : c'.isOpen = c.isOpen
  sent : c'.sent = c.sent ++ frames.map Message.wire
  framed : ∀ frame ∈ frames,
    frame.header.length.toNat = sizeofHeader + frame.data.length

theorem Sends.none (c : TcpClient) : Sends c c [] :=
  ⟨.refl c, rfl, rfl, rfl, rfl, by simp, by simp⟩

theorem Sends.readPart (c : TcpClient) (part : Buffer) :
    Sends c { c with toFilepart := part } [] :=
  ⟨⟨rfl, rfl, rfl, rfl, rfl⟩, rfl, rfl, rfl, rfl, by simp, by simp⟩

theorem Sends.trans {c'' : TcpClient} {first second : List Message}
    (before : Sends c c' first) (after : Sends c' c'' second) :
    Sends c c'' (first ++ second) where
  toSameFile := before.toSameFile.trans after.toSameFile
  toUid := after.toUid.trans before.toUid
  queueUid := after.queueUid.trans before.queueUid
  mapContacts := after.mapContacts.trans before.mapContacts
  isOpen := after.isOpen.trans before.isOpen
  sent := by
    rw [after.sent, before.sent, List.map_append, List.append_assoc]
  framed := by
    intro frame member
    rcases List.mem_append.mp member with early | late
    · exact before.framed frame early
    · exact after.framed frame late

theorem Sends.of_sendWholeFrame {header : Header} {body : Buffer}
    (completed : (c.compose header body).sendWholeFrame = .ok c') :
    Sends c c' [⟨header, body⟩] := by
  obtain ⟨whole, opened, rfl⟩ := sendWholeFrame_eq.mp completed
  exact ⟨⟨rfl, rfl, rfl, rfl, rfl⟩, rfl, rfl, rfl, rfl, rfl,
    by simpa using whole⟩

theorem sendParts_sends {cnt cnt' : UInt32} {reads : List Buffer}
    (completed : sendParts c cnt reads = .ok (cnt', c')) :
    c'.toFilesize = c.toFilesize ∧ Sends c c'
      ((partsSent c.toFilesize cnt reads).map (filePart c.toUid c.uid)) := by
  induction reads generalizing c cnt with
  | nil =>
      unfold sendParts at completed
      split at completed
      · cases completed
        exact ⟨rfl, .readPart c []⟩
      · cases completed
        exact ⟨rfl, .none _⟩
  | cons part reads induction =>
      unfold sendParts at completed
      by_cases more : cnt < c.toFilesize
      · rw [if_pos more] at completed
        dsimp only at completed
        by_cases exhausted : part.length = 0
        · rw [if_pos exhausted] at completed
          cases completed
          have none : part = [] := List.length_eq_zero_iff.mp exhausted
          rw [partsSent, if_neg (fun both => both.2 none)]
          exact ⟨rfl, .readPart c part⟩
        · rw [if_neg exhausted] at completed
          obtain ⟨middle, sent, rest⟩ := Exec.of_bind_ok completed
          have some : part ≠ [] := fun none => exhausted (by rw [none]; rfl)
          rw [composeFilePartRequest_eq] at sent
          have first := Sends.of_sendWholeFrame sent
          obtain ⟨_, _, made⟩ := sendWholeFrame_eq.mp sent
          obtain ⟨same, second⟩ := induction rest
          have size : middle.toFilesize = c.toFilesize := by rw [made]; rfl
          rw [partsSent, if_pos ⟨more, some⟩, List.map_cons]
          rw [size, first.toUid, first.uid] at second
          have whole := first.trans second
          exact ⟨same.trans size, ⟨whole.uid, whole.file, whole.fileSize,
            whole.fileRecvCnt, whole.written⟩, whole.toUid, whole.queueUid,
            whole.mapContacts, whole.isOpen, whole.sent, whole.framed⟩
      · rw [if_neg more] at completed
        cases completed
        rw [partsSent, if_neg (fun both => more both.1)]
        exact ⟨rfl, .none _⟩

theorem sendFileFrames_sends {source : SourceFile} {cnt : UInt32}
    (completed : c.sendFileFrames host source = .ok (cnt, c')) :
    c'.toFilesize = UInt32.ofNat source.size ∧ Sends c c'
      (fileRequest host c.toUid c.uid (UInt32.ofNat source.size)
        source.filename ::
      (partsSent (UInt32.ofNat source.size) 0 source.reads).map
        (filePart c.toUid c.uid)) := by
  obtain ⟨_, _, rest⟩ := Exec.of_bind_ok completed
  obtain ⟨composed, asked, rest⟩ := Exec.of_bind_ok rest
  obtain ⟨_, made⟩ := composeFileRequest_ok asked
  obtain ⟨middle, sent, rest⟩ := Exec.of_bind_ok rest
  rw [made] at sent
  have first := Sends.of_sendWholeFrame sent
  obtain ⟨_, _, middleEq⟩ := sendWholeFrame_eq.mp sent
  obtain ⟨same, second⟩ := sendParts_sends rest
  have size : middle.toFilesize = UInt32.ofNat source.size := by
    rw [middleEq]
    rfl
  rw [size, first.toUid, first.uid] at second
  have whole := first.trans second
  exact ⟨same.trans size, ⟨whole.uid, whole.file, whole.fileSize,
    whole.fileRecvCnt, whole.written⟩, whole.toUid, whole.queueUid,
    whole.mapContacts, whole.isOpen, whole.sent, whole.framed⟩

theorem next_sameFile {event : Event} (moved : c.next host event = .ok c')
    (other : ∀ now frame, event = .frame now frame → c.LeavesFile frame) :
    SameFile c c' := by
  cases event with
  | connect2Host | connectionSuccess | setUid _ | closeConnection =>
      cases moved
      exact ⟨rfl, rfl, rfl, rfl, rfl⟩
  | login name password =>
      obtain ⟨_, _, rfl⟩ := login_eq.mp moved
      exact ⟨rfl, rfl, rfl, rfl, rfl⟩
  | sendMessage txt now =>
      obtain ⟨_, _, rfl⟩ := sendMessage_eq.mp moved
      exact ⟨rfl, rfl, rfl, rfl, rfl⟩
  | changePassword oldPassword newPassword =>
      obtain ⟨_, _, rfl⟩ := changePassword_eq.mp moved
      exact ⟨rfl, rfl, rfl, rfl, rfl⟩
  | sendFile source =>
      obtain ⟨⟨cnt, middle⟩, framed, rest⟩ := Exec.of_bind_ok moved
      obtain ⟨_, _, made⟩ := Exec.of_bind_ok rest
      cases made
      exact (sendFileFrames_sends framed).2.toSameFile
  | frame now frame =>
      exact parseHeader_sameFile moved (other now frame rfl)

end TcpClient

end GroupChat.Client
