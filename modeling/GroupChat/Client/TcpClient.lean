import GroupChat.Client.Models
import GroupChat.Server.Conn

namespace GroupChat.Client

/-! The client: what its user asks for, the frames it composes and the handlers
of the frames it receives.  A failed assertion stops it, and so does sending on
a socket that is not open, where the loop that writes does not end. -/

open Server (Header Message sizeofHeader)

structure UserInfo where
  isOffline : Bool
  name : QString
  deriving DecidableEq, Repr

/-- A file the client has opened for writing, and what it wrote to it. -/
structure WrittenFile where
  name : QString
  bytes : Buffer
  deriving DecidableEq, Repr

/-- A file on the sender's side: its size, and what the calls of `read` on it
return, an exhausted list standing for the end of the file. -/
structure SourceFile where
  filename : QString
  existing : Bool
  size : Nat
  reads : List Buffer

structure QFile where
  fileName : QString := []
  isOpen : Bool := false
  deriving DecidableEq, Repr

/-- `written` and `sent` are for the record: the files that were opened, the
latest first, and the whole frames that were sent on the connection. -/
structure TcpClient where
  mapContacts : FinMap Uid UserInfo := ∅
  uid : Uid := 0
  uname : QString := []
  password : QString := []
  oldPassword : QString := []
  theme1 : UInt32 := 0
  theme2 : UInt32 := 0
  sendHeader : Header := {}
  sendMsg : Buffer := []
  toUid : Uid := uidForAll
  fromUid : Uid := 0
  toMessage : QString := []
  toFilesize : UInt32 := 0
  toFilename : QString := []
  toFilepart : Buffer := []
  file : QFile := {}
  fileSize : UInt32 := 0
  fileRecvCnt : UInt32 := 0
  receivedHeader : Header := {}
  receivedData : Buffer := []
  isOpen : Bool := false
  queueUid : List Uid := []
  contactsModel : ContactsModel := []
  recordModel : RecordModel := {}
  written : List WrittenFile := []
  sent : List Buffer := []

namespace TcpClient

def unameByteLength : Nat := 28
def passwordByteLength : Nat := 28
def uidByteLength : Nat := 4
def filepartMaxSize : Nat := 0xFFFF - 12
def filenameByteLength : Nat := 64
def filesizeByteLength : Nat := 4

/-! Composing frames. -/

def compose (c : TcpClient) (header : Header) (body : Buffer) : TcpClient :=
  { c with
    sendHeader := header
    sendMsg := [header.type, header.subType] ++
      DataStream.ofShort header.length ++ body }

def composeLogin (host : Host) (c : TcpClient) : TcpClient :=
  c.compose ⟨0x10, 0x00, UInt16.ofNat
      (unameByteLength + unameByteLength + sizeofHeader)⟩
    (host.toLocal8Bit c.uname ++ host.toLocal8Bit c.password)

def composeGetUserName (c : TcpClient) : TcpClient :=
  c.compose ⟨0x11, 0x00, UInt16.ofNat (uidByteLength + sizeofHeader)⟩
    (Buffer.ofWord c.toUid)

/-- The sub-type of a request about a conversation. -/
def conversationType (uid : Uid) : UInt8 :=
  if uid = uidForAll then 0x01 else 0x00

def composeGetChatHistory (c : TcpClient) : TcpClient :=
  c.compose ⟨0x12, conversationType c.toUid,
      UInt16.ofNat (uidByteLength + sizeofHeader)⟩
    (Buffer.ofWord c.toUid)

def composeSendMessage (host : Host) (c : TcpClient) : TcpClient :=
  let data := host.toLocal8Bit c.toMessage
  c.compose ⟨0x13, conversationType c.toUid,
      UInt16.ofNat (uidByteLength + sizeofHeader + data.length)⟩
    (Buffer.ofWord c.toUid ++ data)

def composeChangePassword (host : Host) (c : TcpClient) : TcpClient :=
  c.compose ⟨0x15, 0x00, UInt16.ofNat (passwordByteLength * 2 + sizeofHeader)⟩
    (host.toLocal8Bit c.oldPassword ++ host.toLocal8Bit c.password)

/-- No zeros are appended to a name that is too long for its field. -/
def composeFileRequest (host : Host) (c : TcpClient) : Exec TcpClient := do
  Exec.require (c.toFilename ≠ []) .assertion
  let filename := host.toLocal8Bit c.toFilename
  .ok (c.compose ⟨0x17, 0x00, UInt16.ofNat (uidByteLength * 2 +
      filenameByteLength + filesizeByteLength + sizeofHeader)⟩
    (Buffer.ofWord c.toUid ++ Buffer.ofWord c.uid ++
      Buffer.ofWord c.toFilesize ++ filename ++
      List.replicate (filenameByteLength - filename.length) 0))

def composeFileAccessRespond (c : TcpClient) : TcpClient :=
  c.compose ⟨0x18, 0x01, UInt16.ofNat (uidByteLength * 2 + sizeofHeader)⟩
    (Buffer.ofWord c.toUid ++ Buffer.ofWord c.uid)

def composeFilePartRequest (c : TcpClient) : TcpClient :=
  c.compose ⟨0x19, 0x00, UInt16.ofNat
      (uidByteLength * 2 + c.toFilepart.length + sizeofHeader)⟩
    (Buffer.ofWord c.toUid ++ Buffer.ofWord c.uid ++ c.toFilepart)

def composeFileSuccessRespond (c : TcpClient) : TcpClient :=
  c.compose ⟨0x1A, 0x00, UInt16.ofNat
      (uidByteLength * 2 + filesizeByteLength + sizeofHeader)⟩
    (Buffer.ofWord c.toUid ++ Buffer.ofWord c.uid ++
      Buffer.ofWord c.toFilesize)

/-! Sending. -/

def sendWholeFrame (c : TcpClient) : Exec TcpClient := do
  Exec.require (c.sendMsg.length = c.sendHeader.length.toNat) .assertion
  Exec.require (c.isOpen = true) .undefined
  .ok { c with sent := c.sent ++ [c.sendMsg] }

def setName (c : TcpClient) (name : QString) : TcpClient :=
  { c with uname := name.resize unameByteLength }

def setPassword (c : TcpClient) (password : QString) : TcpClient :=
  { c with password := password.resize passwordByteLength }

def setOldPassword (c : TcpClient) (oldPassword : QString) : TcpClient :=
  { c with oldPassword := oldPassword.resize passwordByteLength }

def setToUid (c : TcpClient) (toUid : Uid) : TcpClient :=
  { c with toUid := toUid }

def setToMessage (c : TcpClient) (toMessage : QString) : TcpClient :=
  { c with toMessage := toMessage }

def setToFilename (c : TcpClient) (toFilename : QString) : TcpClient :=
  { c with toFilename := toFilename }

def login (host : Host) (c : TcpClient) (name password : QString) :
    Exec TcpClient :=
  (((c.setName name).setPassword password).composeLogin host).sendWholeFrame

def getUserName (c : TcpClient) (toUid : Uid) : Exec TcpClient :=
  ({ c with queueUid := c.queueUid ++ [toUid] }.setToUid
    toUid).composeGetUserName.sendWholeFrame

def getChatHistory (c : TcpClient) (toUid : Uid) : Exec TcpClient :=
  ({ c with queueUid := c.queueUid ++ [toUid] }.setToUid
    toUid).composeGetChatHistory.sendWholeFrame

def sendMessage (host : Host) (c : TcpClient) (toMessage : QString)
    (now : Int) : Exec TcpClient := do
  let c ← ((c.setToMessage toMessage).composeSendMessage host).sendWholeFrame
  .ok { c with recordModel :=
    c.recordModel.addRecord host c.toUid true c.uname toMessage now }

def changePassword (host : Host) (c : TcpClient)
    (oldPassword newPassword : QString) : Exec TcpClient :=
  (((c.setPassword newPassword).setOldPassword
    oldPassword).composeChangePassword host).sendWholeFrame

def sendParts (c : TcpClient) (cnt : UInt32) :
    List Buffer → Exec (UInt32 × TcpClient)
  | [] => .ok (cnt, if cnt < c.toFilesize then
      { c with toFilepart := [] } else c)
  | part :: reads =>
      if cnt < c.toFilesize then
        let c := { c with toFilepart := part }
        if part.length = 0 then
          .ok (cnt, c)
        else do
          let c ← c.composeFilePartRequest.sendWholeFrame
          sendParts c (cnt + UInt32.ofNat part.length) reads
      else
        .ok (cnt, c)

/-- `sendFile` up to its last assertion: the number of bytes sent. -/
def sendFileFrames (host : Host) (c : TcpClient) (source : SourceFile) :
    Exec (UInt32 × TcpClient) := do
  let c := { c with fromUid := c.uid }.setToFilename source.filename
  Exec.require (source.existing = true) .assertion
  let c ← { c with toFilesize := UInt32.ofNat source.size }.composeFileRequest
    host
  let c ← c.sendWholeFrame
  c.sendParts 0 source.reads

def sendFile (host : Host) (c : TcpClient) (source : SourceFile) :
    Exec TcpClient := do
  let (cnt, c) ← c.sendFileFrames host source
  Exec.require (cnt = c.toFilesize) .assertion
  .ok c

def setUid (c : TcpClient) (uid : Uid) : TcpClient :=
  { c with
    recordModel := c.recordModel.setUid uid
    toUid := uid }

def closeConnection (c : TcpClient) : TcpClient :=
  { c with isOpen := false }

/-- The name of the contact that stands for everybody. -/
def everybody : Buffer := [0xCB, 0xF9, 0xD3, 0xD0, 0xC8, 0xCB]

def connect2Host (host : Host) (c : TcpClient) : TcpClient :=
  { c with
    recordModel := c.recordModel.clear
    contactsModel := ContactsModel.insertContact [] uidForAll false
      (host.fromLocal8Bit everybody)
    mapContacts := ∅
    queueUid := []
    isOpen := false }

/-- The socket is connected; nothing has been sent on it. -/
def connectionSuccess (c : TcpClient) : TcpClient :=
  { c with isOpen := true, sent := [] }

/-! Handlers. -/

def fetchConfigs (c : TcpClient) : Exec TcpClient :=
  let (uid, rest) := DataStream.readWord c.receivedData
  let (theme1, _) := DataStream.readWord rest
  { c with uid := uid, theme1 := theme1, theme2 := theme1 }.getChatHistory
    uidForAll

def parseLoginInfos (c : TcpClient) : Exec TcpClient :=
  match c.receivedHeader.subType with
  | 0x00 => c.fetchConfigs
  | 0x01 => c.fetchConfigs
  | 0x02 => c.fetchConfigs
  | _ => .ok c.closeConnection

def parseLogoutInfos (c : TcpClient) : Exec TcpClient :=
  .ok c.closeConnection

/-- The name a contact is known under; looking it up adds an unknown one. -/
def contactName (c : TcpClient) (uid : Uid) : QString × TcpClient :=
  match c.mapContacts.lookup uid with
  | some info => (info.name, c)
  | none => ([], { c with
      mapContacts := c.mapContacts.insert uid ⟨false, []⟩ })

/-- The state of one user: a user who is not known yet is asked about. -/
def fetchUserState (isOffline : Bool) (c : TcpClient) (uid : Uid) :
    Exec TcpClient :=
  match c.mapContacts.lookup uid with
  | some info => .ok { c with
      contactsModel := c.contactsModel.updateContact uid isOffline info.name }
  | none => do
      let c ← { c with
        mapContacts := c.mapContacts.insert uid ⟨isOffline, []⟩ }.getUserName
          uid
      c.getChatHistory uid

def fetchUserStates (c : TcpClient) (isOffline : Bool) : Exec TcpClient :=
  (DataStream.readWords c.receivedData).foldlM (fetchUserState isOffline) c

def parseUserListState (c : TcpClient) : Exec TcpClient :=
  match c.receivedHeader.subType with
  | 0x00 => c.fetchUserStates false
  | 0x01 => c.fetchUserStates true
  | _ => .ok c.closeConnection

/-- The front of the queue, which is not there in an empty one. -/
def popUid (c : TcpClient) : Exec (Uid × TcpClient) :=
  match c.queueUid with
  | [] => .error .undefined
  | uid :: queue => .ok (uid, { c with queueUid := queue })

def parseGetUserName (host : Host) (c : TcpClient) : Exec TcpClient :=
  if c.receivedHeader.subType = 0x00 then do
    let (uid, c) ← c.popUid
    let name := host.fromLocal8Bit c.receivedData
    let (_, c) := c.contactName uid
    let isOffline :=
      ((c.mapContacts.lookup uid).map UserInfo.isOffline).getD false
    .ok { c with
      mapContacts := c.mapContacts.insert uid ⟨isOffline, name⟩
      contactsModel := c.contactsModel.insertContact uid isOffline name }
  else
    .ok c.closeConnection

def recordName (c : TcpClient) (uid : Uid) : QString × TcpClient :=
  if uid = c.uid then (c.uname, c) else c.contactName uid

def fetchRecord (host : Host) (otherUid : Uid) (bytes : Buffer)
    (c : TcpClient) : Exec (Buffer × TcpClient) := do
  let (uid, rest) := DataStream.readWord bytes
  Exec.require (c.uname.length ≠ 0) .assertion
  Exec.require (c.mapContacts.entries ≠ []) .assertion
  let (name, named) := c.recordName uid
  let (time, rest) := DataStream.readLong rest
  let (msg, rest) := DataStream.readText rest
  .ok (rest, { named with
    recordModel := named.recordModel.addRecord host otherUid
      (decide (uid = c.uid)) name (host.fromLocal8Bit msg) time })

/-- The loop of `fetchUserChatHistory`.  Each pass reads something, so there
are not more passes than bytes. -/
def fetchRecords (host : Host) (otherUid : Uid) :
    Nat → Buffer → TcpClient → Exec TcpClient
  | _, [], c => .ok c
  | 0, _ :: _, c => .ok c
  | fuel + 1, b :: bytes, c => do
      let (rest, c) ← fetchRecord host otherUid (b :: bytes) c
      fetchRecords host otherUid fuel rest c

def fetchUserChatHistory (host : Host) (c : TcpClient) (otherUid : Uid) :
    Exec TcpClient :=
  fetchRecords host otherUid c.receivedData.length c.receivedData c

def parseGetChatHistory (host : Host) (c : TcpClient) : Exec TcpClient :=
  if c.receivedHeader.subType = 0x00 then do
    let (uid, c) ← c.popUid
    c.fetchUserChatHistory host uid
  else
    .ok c.closeConnection

def parseSendMessageInfos (c : TcpClient) : Exec TcpClient :=
  match c.receivedHeader.subType with
  | 0x00 => .ok c
  | 0xF0 => .ok c
  | 0xF1 => .ok c
  | _ => .ok c.closeConnection

def fetchRecvMessageHistory (host : Host) (c : TcpClient) (group : Bool)
    (now : Int) : TcpClient :=
  let (uid, _) := DataStream.readWord c.receivedData
  let msg := right c.receivedData (c.receivedData.length - uidByteLength)
  let (name, c) := c.contactName uid
  { c with
    recordModel := c.recordModel.addRecord host
      (if group then uidForAll else uid) false name (host.fromLocal8Bit msg)
      now }

def parseReceiveMessageInfos (host : Host) (c : TcpClient) (now : Int) :
    Exec TcpClient :=
  match c.receivedHeader.subType with
  | 0x00 => .ok (c.fetchRecvMessageHistory host false now)
  | 0x01 => .ok (c.fetchRecvMessageHistory host true now)
  | _ => .ok c.closeConnection

def parseChangePasswordInfos (c : TcpClient) : Exec TcpClient :=
  match c.receivedHeader.subType with
  | 0x00 => .ok c
  | 0xF0 => .ok c
  | _ => .ok c.closeConnection

/-- The two ids in front of every file frame; the first has to be one's own.
The result is what follows them. -/
def fetchUids (c : TcpClient) : Exec (Buffer × TcpClient) := do
  let (uid, rest) := DataStream.readWord c.receivedData
  let (fromUid, rest) := DataStream.readWord rest
  Exec.require (uid = c.uid) .assertion
  .ok (rest, { c with fromUid := fromUid })

def fetchFileRequest (host : Host) (c : TcpClient) : Exec TcpClient := do
  let (rest, c) ← c.fetchUids
  .ok { c with
    toFilesize := (DataStream.readWord rest).1
    toFilename := host.fromLocal8Bit
      (right c.receivedData filenameByteLength) }

def parseFileRequest (host : Host) (c : TcpClient) : Exec TcpClient := do
  Exec.require (c.receivedHeader.subType = 0x00) .assertion
  let c ← c.fetchFileRequest host
  .ok { c with
    file := ⟨c.toFilename, host.writable c.toFilename⟩
    written := if host.writable c.toFilename then
      ⟨c.toFilename, []⟩ :: c.written else c.written
    fileRecvCnt := 0
    fileSize := c.toFilesize }

def fetchFileAccessRespond (c : TcpClient) : Exec TcpClient := do
  let (_, c) ← c.fetchUids
  .ok c

def parseFileAccessRespond (c : TcpClient) : Exec TcpClient := do
  Exec.require (c.receivedHeader.subType = 0x01 ∨
    c.receivedHeader.subType = 0x02) .assertion
  if c.receivedHeader.subType = 0x01 then
    c.fetchFileAccessRespond
  else
    .ok c

def fetchFilePartRequest (c : TcpClient) : Exec TcpClient := do
  let (_, c) ← c.fetchUids
  .ok { c with
    toFilepart :=
      right c.receivedData (c.receivedData.length - uidByteLength * 2) }

def writePart (c : TcpClient) : TcpClient :=
  match c.written with
  | [] => c
  | file :: files =>
      { c with
        written := { file with bytes := file.bytes ++ c.toFilepart } :: files }

def countPart (c : TcpClient) : Exec TcpClient :=
  let c := { c with
    fileRecvCnt := c.fileRecvCnt + UInt32.ofNat c.toFilepart.length }
  if c.fileSize ≤ c.fileRecvCnt then do
    Exec.require (c.fileRecvCnt = c.fileSize) .assertion
    .ok { c with file := { c.file with isOpen := false } }
  else
    .ok c

def parseFilePartRequest (c : TcpClient) : Exec TcpClient := do
  Exec.require (c.receivedHeader.subType = 0x00) .assertion
  let c ← c.fetchFilePartRequest
  Exec.require (c.file.isOpen = true) .assertion
  c.writePart.countPart

def fetchFileSuccessRespond (c : TcpClient) : Exec TcpClient := do
  let (rest, c) ← c.fetchUids
  .ok { c with toFilesize := (DataStream.readWord rest).1 }

def parseFileSuccessRespond (c : TcpClient) : Exec TcpClient := do
  Exec.require (c.receivedHeader.subType = 0x00) .assertion
  c.fetchFileSuccessRespond

inductive Handler where
  | parseLoginInfos
  | parseLogoutInfos
  | parseUserListState
  | parseGetUserName
  | parseGetChatHistory
  | parseSendMessageInfos
  | parseReceiveMessageInfos
  | parseChangePasswordInfos
  | parseFileRequest
  | parseFileAccessRespond
  | parseFilePartRequest
  | parseFileSuccessRespond
  deriving DecidableEq, Repr

/-- The handler for each type; other types are not looked at. -/
def handlerOf : UInt8 → Option Handler
  | 0x90 => some .parseLoginInfos
  | 0xA0 => some .parseLogoutInfos
  | 0xA1 => some .parseUserListState
  | 0x91 => some .parseGetUserName
  | 0x92 => some .parseGetChatHistory
  | 0x93 => some .parseSendMessageInfos
  | 0xA3 => some .parseReceiveMessageInfos
  | 0x95 => some .parseChangePasswordInfos
  | 0xA7 => some .parseFileRequest
  | 0xA8 => some .parseFileAccessRespond
  | 0xA9 => some .parseFilePartRequest
  | 0xAA => some .parseFileSuccessRespond
  | _ => none

def Handler.run (host : Host) (now : Int) (c : TcpClient) :
    Handler → Exec TcpClient
  | .parseLoginInfos => c.parseLoginInfos
  | .parseLogoutInfos => c.parseLogoutInfos
  | .parseUserListState => c.parseUserListState
  | .parseGetUserName => c.parseGetUserName host
  | .parseGetChatHistory => c.parseGetChatHistory host
  | .parseSendMessageInfos => c.parseSendMessageInfos
  | .parseReceiveMessageInfos => c.parseReceiveMessageInfos host now
  | .parseChangePasswordInfos => c.parseChangePasswordInfos
  | .parseFileRequest => c.parseFileRequest host
  | .parseFileAccessRespond => c.parseFileAccessRespond
  | .parseFilePartRequest => c.parseFilePartRequest
  | .parseFileSuccessRespond => c.parseFileSuccessRespond

/-- `parseHeader` on a frame that is there: its length is in host order. -/
def parseHeader (host : Host) (now : Int) (c : TcpClient) (frame : Message) :
    Exec TcpClient := do
  let c := { c with
    receivedHeader := frame.header
    receivedData := frame.data }
  Exec.require (frame.header.length.toNat = frame.data.length + sizeofHeader)
    .assertion
  match handlerOf frame.header.type with
  | some handler => handler.run host now c
  | none => .ok c

end TcpClient

end GroupChat.Client
