import GroupChat.Lib.InverseMaps
import GroupChat.Server.Conn
import GroupChat.Server.Database

namespace GroupChat.Server

/-! The connections of the server: the messages it pushes and the handlers of
the frames it receives. -/

abbrev Fd := Nat

/-- `logins` and `loginMark` are for the record only: for each connection the
ids `login_check` reported as legal on it, and how many messages had been pushed
to it when it was bound. -/
structure Connections (ω : Type) where
  db : ω
  size : Nat
  conns : Fd → Conn
  wfds : Fd → Bool
  uidToFd : FinMap Uid Fd
  fdToUid : FinMap Fd Uid
  logins : Fd → List Uid
  loginMark : Fd → Nat

namespace Connections

variable {ω : Type}

def init (db : ω) (size : Nat) : Connections ω where
  db := db
  size := size
  conns := fun _ => {}
  wfds := fun _ => false
  uidToFd := ∅
  fdToUid := ∅
  logins := fun _ => []
  loginMark := fun _ => 0

def setConn (s : Connections ω) (fd : Fd) (conn : Conn) : Connections ω :=
  { s with conns := Function.update s.conns fd conn }

def push (s : Connections ω) (fd : Fd) (msg : Message) : Connections ω :=
  { s with
    conns := Function.update s.conns fd ((s.conns fd).push msg)
    wfds := Function.update s.wfds fd true }

def frame (s : Connections ω) (fd : Fd) : Message := (s.conns fd).recvMsg

/-- The user bound to a connection; every handler that needs one looks it up
in both maps. -/
def myUid (s : Connections ω) (fd : Fd) : Exec Uid := do
  let uid ← Exec.demand (s.fdToUid.lookup fd) .exception
  let back ← Exec.demand (s.uidToFd.lookup uid) .exception
  Exec.require (back = fd) .assertion
  .ok uid

/-! Messages the server makes. -/

def unknownMsg (type : UInt8) : Message where
  header := ⟨type ||| 0x80, 0xFF, Message.netLength 0⟩

def shutdownMsg : Message where
  header := ⟨0xA0, 0x00, Message.netLength 0⟩

def onlineMsg (uid : Uid) (online : Bool) : Message where
  header := ⟨0xA1, if online then 0x00 else 0x01, Message.netLength 4⟩
  data := Buffer.ofWord uid

def parseUnknown (s : Connections ω) (fd : Fd) : Connections ω :=
  s.push fd (unknownMsg (s.frame fd).header.type)

def pushShutdown (s : Connections ω) (fd : Fd) : Connections ω :=
  s.push fd shutdownMsg

def sizeSub (minuend subtrahend : Nat) : Nat :=
  (minuend + 18446744073709551616 - subtrahend) % 18446744073709551616

/-- The bytes of a list of ids; a vector cannot get longer than its limit. -/
def idBytes (len : Nat) : Exec Nat := do
  let bytes := 4 * len % 18446744073709551616
  Exec.require (bytes ≤ 9223372036854775807) .exception
  .ok bytes

/-- Sort the users other than oneself into the online and the offline list,
each with the room that is left in it. -/
def fillLists (bound : Uid → Bool) (myUid : Uid) :
    List Uid → Nat → Nat → Exec (List Uid × List Uid)
  | [], _, _ => .ok ([], [])
  | uid :: users, onlineRoom, offlineRoom =>
      if uid = myUid then
        fillLists bound myUid users onlineRoom offlineRoom
      else if bound uid then do
        Exec.require (0 < onlineRoom) .undefined
        let (online, offline) ←
          fillLists bound myUid users (onlineRoom - 1) offlineRoom
        .ok (uid :: online, offline)
      else do
        Exec.require (0 < offlineRoom) .undefined
        let (online, offline) ←
          fillLists bound myUid users onlineRoom (offlineRoom - 1)
        .ok (online, uid :: offline)

/-- A list of ids stored at the front of a buffer of zeros. -/
def listMsg (subType : UInt8) (len bytes : Nat) (uids : List Uid) :
    Message where
  header := ⟨0xA1, subType, Message.netLength (4 * len)⟩
  data := Buffer.overwrite (List.replicate bytes 0) 0
    (uids.flatMap Buffer.ofWord)

def pushUserlist (env : Env ω) (s : Connections ω) (fd : Fd) :
    Exec (Connections ω) := do
  let (_, userList, db) ← Database.getAllUid env s.db
  let s := { s with db := db }
  let lenOnline := sizeSub s.uidToFd.entries.length 1
  let lenOffline := sizeSub userList.length s.uidToFd.entries.length
  let myUid ← Exec.demand (s.fdToUid.lookup fd) .assertion
  let onlineBytes ← idBytes lenOnline
  let offlineBytes ← idBytes lenOffline
  let (online, offline) ← fillLists (fun uid => (s.uidToFd.lookup uid).isSome)
    myUid userList (onlineBytes / 4) (offlineBytes / 4)
  .ok ((s.push fd (listMsg 0x00 lenOnline onlineBytes online)).push fd
    (listMsg 0x01 lenOffline offlineBytes offline))

/-- The loop of `push_online` over the bound connections. -/
def pushOnlineTo (uid : Uid) (msg : Message) :
    List (Sigma fun _ : Fd => Uid) → Connections ω → Exec (Connections ω)
  | [], s => .ok s
  | entry :: entries, s => do
      Exec.require (entry.2 ≠ uid) .assertion
      pushOnlineTo uid msg entries (s.push entry.1 msg)

def pushOnline (s : Connections ω) (uid : Uid) (online : Bool) :
    Exec (Connections ω) :=
  pushOnlineTo uid (onlineMsg uid online) s.fdToUid.entries s

def textMsg (srcUid : Uid) (msg : Message) : Message where
  header := ⟨0xA3, msg.header.subType, htons msg.header.length⟩
  data := msg.data.overwrite 0 (Buffer.ofWord srcUid)

/-- The loop of `push_textmsg` over the bound connections. -/
def pushTextmsgTo (srcUid : Uid) (msg : Message) :
    List (Sigma fun _ : Fd => Uid) → Connections ω → Connections ω
  | [], s => s
  | entry :: entries, s =>
      if entry.2 = srcUid then pushTextmsgTo srcUid msg entries s
      else pushTextmsgTo srcUid msg entries (s.push entry.1 msg)

def pushTextmsg (s : Connections ω) (srcUid dstUid : Uid) (msg : Message) :
    Exec (Connections ω) :=
  if dstUid = 0xFFFF then
    .ok (pushTextmsgTo srcUid (textMsg srcUid msg) s.fdToUid.entries s)
  else do
    let dstFd ← Exec.demand (s.uidToFd.lookup dstUid) .assertion
    .ok (s.push dstFd (textMsg srcUid msg))

def transfileMsg (type : UInt8) (msg : Message) : Message where
  header := ⟨type, msg.header.subType, htons msg.header.length⟩
  data := msg.data

def pushTransfile (type : UInt8) (s : Connections ω) (dstUid : Uid)
    (msg : Message) : Exec (Connections ω) := do
  let dstFd ← Exec.demand (s.uidToFd.lookup dstUid) .assertion
  .ok (s.push dstFd (transfileMsg type msg))

def pushTransfileAskRc (s : Connections ω) (dstUid : Uid) (msg : Message) :
    Exec (Connections ω) :=
  pushTransfile 0xA7 s dstUid msg

def pushTransfileRepSc (s : Connections ω) (dstUid : Uid) (msg : Message) :
    Exec (Connections ω) :=
  pushTransfile 0xA8 s dstUid msg

def pushTransfileData (s : Connections ω) (dstUid : Uid) (msg : Message) :
    Exec (Connections ω) :=
  pushTransfile 0xA9 s dstUid msg

def pushTransfileAck (s : Connections ω) (dstUid : Uid) (msg : Message) :
    Exec (Connections ω) :=
  pushTransfile 0xAA s dstUid msg

/-! Handlers. -/

/-- A text in a field of fixed width, filled up with zeros. -/
def fixedField (data : Buffer) (offset width : Nat) : Buffer :=
  let field := (data.drop offset).take width
  if field.getLastD 0 ≠ 0 then field else Buffer.cString field

def loginMsg (subType : UInt8) (uid : Uid) (primaryColor : Int) :
    Message where
  header := ⟨0x90, subType, Message.netLength 8⟩
  data := Buffer.ofWord uid ++ Buffer.ofWord (UInt32.ofInt primaryColor)

def refusedMsg : Message where
  header := ⟨0x90, 0xF0, Message.netLength 0⟩

/-- Shut down the session a user has on another connection.  The result is the
response code. -/
def takeover (s : Connections ω) (uid : Uid) (first : Bool) :
    Exec (UInt8 × Connections ω) :=
  if first then
    .ok (0x01, s)
  else
    match s.uidToFd.lookup uid with
    | none => .ok (0x00, s)
    | some otherFd => do
        let back ← Exec.demand (s.fdToUid.lookup otherFd) .exception
        Exec.require (back = uid) .assertion
        let s := s.pushShutdown otherFd
        .ok (0x02, { s with
          fdToUid := s.fdToUid.erase otherFd
          uidToFd := s.uidToFd.erase uid })

def bind (s : Connections ω) (uid : Uid) (fd : Fd) : Connections ω :=
  { s with
    uidToFd := s.uidToFd.insert uid fd
    fdToUid := s.fdToUid.insert fd uid
    loginMark := Function.update s.loginMark fd
      (s.conns fd).history.pushed.length }

/-- `parse_login` once the credentials have been checked. -/
def loginChecked (env : Env ω) (s : Connections ω) (fd : Fd)
    (legal first : Bool) (uid : Uid) : Exec (Connections ω) := do
  let (primaryColor, db) ← Database.getLoginColor env s.db (toSigned uid)
  let s := { s with db := db }
  if legal then
    let (subType, s) ← takeover s uid first
    let s := s.push fd (loginMsg subType uid primaryColor)
    Exec.require (s.fdToUid.lookup fd = none) .assertion
    let s ← s.pushOnline uid true
    (s.bind uid fd).pushUserlist env fd
  else
    let s := s.push fd refusedMsg
    Exec.require (s.fdToUid.lookup fd = none) .assertion
    .ok s

/-- Remember the id of a legal login. -/
def noteLogin (s : Connections ω) (fd : Fd) (legal : Bool) (uid : Uid) :
    Connections ω :=
  if legal then
    { s with logins := Function.update s.logins fd (s.logins fd ++ [uid]) }
  else s

def parseLogin (env : Env ω) (s : Connections ω) (fd : Fd) :
    Exec (Connections ω) :=
  let header := (s.frame fd).header
  if header.subType ≠ 0x00 ∨ header.length.toNat ≠ sizeofHeader + 56 then
    .ok (s.parseUnknown fd)
  else do
    let data := (s.frame fd).data
    Exec.require (data.length = 56) .assertion
    let username := fixedField data 0 28
    let password := fixedField data 28 28
    let checked ←
      Database.loginCheck env s.db username password false true 0
    let s := { s with db := checked.world }
    if checked.ret < 0 then
      .ok (s.parseUnknown fd)
    else
      loginChecked env (s.noteLogin fd checked.legal checked.uid) fd
        checked.legal checked.first checked.uid

def usernameMsg (username : Buffer) : Message where
  header := ⟨0x91, 0x00, Message.netLength username.length⟩
  data := username

/-- The response that a user does not exist. -/
def absentMsg (type : UInt8) : Message where
  header := ⟨type, 0xF0, Message.netLength 0⟩

def parseUsername (env : Env ω) (s : Connections ω) (fd : Fd) :
    Exec (Connections ω) :=
  let header := (s.frame fd).header
  if header.subType ≠ 0x00 ∨ header.length.toNat ≠ sizeofHeader + 4 then
    .ok (s.parseUnknown fd)
  else do
    let data := (s.frame fd).data
    Exec.require (data.length = 4) .assertion
    let uid ← data.wordAt 0
    let checked ← Database.checkUid env s.db (toSigned uid) false []
    let s := { s with db := checked.world }
    if checked.ret < 0 then
      .ok (s.parseUnknown fd)
    else if checked.exist then
      .ok (s.push fd (usernameMsg checked.username))
    else
      .ok (s.push fd (absentMsg 0x91))

def recordsMsg (records : Buffer) : Message where
  header := ⟨0x92, 0x00, Message.netLength records.length⟩
  data := records

/-- Whether the other party of a conversation exists, which for a public one is
decided without a query. -/
def partyExists (env : Env ω) (world : ω) (isPrivate : Bool) (uid : Uid)
    (exist publicExist : Bool) : Exec (Database.CheckUid ω) :=
  if isPrivate then
    Database.checkUid env world (toSigned uid) exist []
  else
    .ok ⟨0, publicExist, [], world⟩

def parseChatrecord (env : Env ω) (s : Connections ω) (fd : Fd) :
    Exec (Connections ω) :=
  let header := (s.frame fd).header
  let isPrivate := header.subType = 0x00
  let isPublic := header.subType = 0x01
  if (¬ isPrivate ∧ ¬ isPublic) ∨
      header.length.toNat ≠ sizeofHeader + 4 then
    .ok (s.parseUnknown fd)
  else do
    let data := (s.frame fd).data
    Exec.require (data.length = 4) .assertion
    let uid ← data.wordAt 0
    let myUid ← s.myUid fd
    let checked ← partyExists env s.db isPrivate uid true true
    let s := { s with db := checked.world }
    if checked.ret < 0 then
      .ok (s.parseUnknown fd)
    else if checked.exist then do
      let found ← Database.serhMessage env s.db (toSigned myUid) (toSigned uid)
      let s := { s with db := found.world }
      if found.ret < 0 then
        .ok (s.parseUnknown fd)
      else
        .ok (s.push fd (recordsMsg found.records))
    else
      .ok (s.push fd (absentMsg 0x92))

def textAnswer (exist online : Bool) : Message where
  header :=
    ⟨0x93, if ¬ exist then 0xF0 else if ¬ online then 0xF1 else 0x00,
      Message.netLength 0⟩

def parseTextmsg (env : Env ω) (s : Connections ω) (fd : Fd) :
    Exec (Connections ω) :=
  let header := (s.frame fd).header
  let isPrivate := header.subType = 0x00
  let isPublic := header.subType = 0x01
  if (¬ isPrivate ∧ ¬ isPublic) ∨
      sizeofHeader + 4 + 1024 < header.length.toNat then
    .ok (s.parseUnknown fd)
  else do
    let data := (s.frame fd).data
    Exec.require (sizeofHeader + data.length = header.length.toNat) .assertion
    let dstUid ← data.wordAt 0
    let myUid ← s.myUid fd
    let checked ←
      partyExists env s.db isPrivate dstUid false (dstUid = 0xFFFF)
    let s := { s with db := checked.world }
    if checked.ret < 0 then
      .ok (s.parseUnknown fd)
    else
      let online :=
        if isPrivate then (s.uidToFd.lookup dstUid).isSome else true
      let (ret, db) := Database.saveMessage env s.db (toSigned myUid)
        (toSigned dstUid) (data.drop 4)
      let s := { s with db := db }
      if ret < 0 then
        .ok (s.parseUnknown fd)
      else
        let s := s.push fd (textAnswer checked.exist online)
        if online then s.pushTextmsg myUid dstUid (s.frame fd) else .ok s

def changePwdMsg (succeed : Bool) : Message where
  header := ⟨0x95, if succeed then 0x00 else 0xF0, Message.netLength 0⟩

def parseChangePwd (env : Env ω) (s : Connections ω) (fd : Fd) :
    Exec (Connections ω) :=
  let header := (s.frame fd).header
  if header.subType ≠ 0x00 ∨ header.length.toNat ≠ sizeofHeader + 56 then
    .ok (s.parseUnknown fd)
  else do
    let myUid ← s.myUid fd
    let data := (s.frame fd).data
    Exec.require (data.length = 56) .assertion
    let oldPwd := fixedField data 0 28
    let newPwd := fixedField data 28 28
    let (ret, db) ←
      Database.updatePasswd env s.db (toSigned myUid) newPwd oldPwd
    .ok ({ s with db := db }.push fd (changePwdMsg (ret = 0)))

def parseTransfileAskRc (env : Env ω) (s : Connections ω) (fd : Fd) :
    Exec (Connections ω) :=
  let header := (s.frame fd).header
  if header.length.toNat ≠ sizeofHeader + 76 then
    .ok (s.parseUnknown fd)
  else do
    let data := (s.frame fd).data
    Exec.require (data.length = 76) .assertion
    let dstUid ← data.wordAt 0
    let myUid ← s.myUid fd
    let filesize ← data.wordAt 8
    let (_, db) := Database.insertFileRecord env s.db (toSigned myUid)
      (toSigned dstUid) (toSigned filesize) (fixedField data 12 64)
    { s with db := db }.pushTransfileAskRc dstUid (s.frame fd)

def parseTransfileRepSc (env : Env ω) (s : Connections ω) (fd : Fd) :
    Exec (Connections ω) :=
  let header := (s.frame fd).header
  if header.length.toNat ≠ sizeofHeader + 8 then
    .ok (s.parseUnknown fd)
  else do
    let data := (s.frame fd).data
    Exec.require (data.length = 8) .assertion
    let dstUid ← data.wordAt 0
    let myUid ← s.myUid fd
    let (_, db) :=
      if header.subType = 0x01 then
        Database.permitFileRecord env s.db (toSigned dstUid) (toSigned myUid)
      else
        Database.deleteFileRecord env s.db (toSigned dstUid) (toSigned myUid)
    { s with db := db }.pushTransfileRepSc dstUid (s.frame fd)

def parseTransfileData (s : Connections ω) (fd : Fd) :
    Exec (Connections ω) :=
  let header := (s.frame fd).header
  let data := (s.frame fd).data
  if header.length.toNat ≠ sizeofHeader + data.length then
    .ok (s.parseUnknown fd)
  else do
    let dstUid ← data.wordAt 0
    let _ ← s.myUid fd
    s.pushTransfileData dstUid (s.frame fd)

/-- The acknowledgement is forwarded by the function for file data. -/
def parseTransfileAck (env : Env ω) (s : Connections ω) (fd : Fd) :
    Exec (Connections ω) :=
  let header := (s.frame fd).header
  if header.length.toNat ≠ sizeofHeader + 12 then
    .ok (s.parseUnknown fd)
  else do
    let data := (s.frame fd).data
    Exec.require (data.length = 12) .assertion
    let dstUid ← data.wordAt 0
    let myUid ← s.myUid fd
    let ui8cnt ← data.wordAt 8
    let (_, db) := Database.updateFileRecord env s.db (toSigned dstUid)
      (toSigned myUid) (toSigned ui8cnt)
    { s with db := db }.pushTransfileData dstUid (s.frame fd)

def parse (env : Env ω) (s : Connections ω) (fd : Fd) :
    Exec (Connections ω) :=
  match (s.frame fd).header.type with
  | 0x10 => s.parseLogin env fd
  | 0x11 => s.parseUsername env fd
  | 0x12 => s.parseChatrecord env fd
  | 0x13 => s.parseTextmsg env fd
  | 0x15 => s.parseChangePwd env fd
  | 0x17 => s.parseTransfileAskRc env fd
  | 0x18 => s.parseTransfileRepSc env fd
  | 0x19 => s.parseTransfileData fd
  | 0x1A => s.parseTransfileAck env fd
  | _ => .ok (s.parseUnknown fd)

/-! The four entry points. -/

def recvMsg (env : Env ω) (s : Connections ω) (fd : Fd)
    (net : List ReadResult) : Exec (Bool × Connections ω) := do
  Exec.require (fd < s.size) .assertion
  let (intake, conn) := (s.conns fd).receive net
  let s := s.setConn fd conn
  match intake with
  | .closed => .ok (false, s)
  | .waiting => .ok (true, s)
  | .tooShort => .ok (true, s.parseUnknown fd)
  | .complete => do
      let s ← s.parse env fd
      .ok (true, s)

def sendMsg (s : Connections ω) (fd : Fd) (net : List WriteResult) :
    Exec (Bool × Connections ω) := do
  Exec.require (fd < s.size) .assertion
  let msg ← Exec.demand (s.conns fd).sendQue.head? .assertion
  Exec.require (s.wfds fd = true) .assertion
  let (outlet, conn) ← (s.conns fd).transmit msg net
  let s := s.setConn fd conn
  match outlet with
  | .closed => .ok (false, s)
  | .waiting => .ok (true, s)
  | .popped =>
      if conn.sendQue = [] then
        .ok (true, { s with wfds := Function.update s.wfds fd false })
      else
        .ok (true, s)

def closeConn (s : Connections ω) (fd : Fd) : Exec (Connections ω) := do
  Exec.require (fd < s.size) .assertion
  let s ←
    match s.fdToUid.lookup fd with
    | none => .ok s
    | some uid => do
        let back ← Exec.demand (s.uidToFd.lookup uid) .exception
        Exec.require (back = fd) .assertion
        { s with
          fdToUid := s.fdToUid.erase fd
          uidToFd := s.uidToFd.erase uid }.pushOnline uid false
  .ok { s.setConn fd (s.conns fd).reset with
    wfds := Function.update s.wfds fd false }

end Connections

end GroupChat.Server
