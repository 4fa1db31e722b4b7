import GroupChat.Lib.Decimal
import GroupChat.Server.MD5

namespace GroupChat.Server

/-! The queries of the server.  Each function builds the text of its statements
and reads the answers of the database server; what the database server does
with a statement is not decided here. -/

abbrev Uid := UInt32

/-- A row of a result: a text or NULL for each column. -/
abbrev Row := List (Option Buffer)

/-- How a statement is answered: the query fails, or it succeeds without a
result set, or with one. -/
inductive Reply where
  | failed
  | done
  | rows (rows : List Row)
  deriving DecidableEq, Repr

/-- What the program does not decide itself: the answers of the database
server, the clock, and what an uninitialised `bool` holds. -/
structure Env (ω : Type) where
  query : ω → Buffer → Reply × ω
  time : ω → Int
  stray : ω → Bool

def Row.text (row : Row) (column : Nat) : Exec Buffer :=
  match row[column]? with
  | some (some text) => .ok text.cString
  | _ => .error .undefined

/-- An unsigned word passed as a signed one. -/
def toSigned (word : UInt32) : Int := Int.bmod word.toNat 4294967296

namespace Database

open Buffer (ofText)
open Decimal

variable {ω : Type}

/-- A statement reaches the database server as a C string. -/
def mysqlQuery (env : Env ω) (world : ω) (sqlstr : Buffer) : Reply × ω :=
  env.query world sqlstr.cString

def loginCondition (username secuPasswd : Buffer) : Buffer :=
  ofText " from login where username='" ++ username ++
    ofText "' and password='" ++ secuPasswd ++ ofText "'"

def loginCountSql (username secuPasswd : Buffer) : Buffer :=
  ofText "select count(*)" ++ loginCondition username secuPasswd

def loginUidSql (username secuPasswd : Buffer) : Buffer :=
  ofText "select uid,first" ++ loginCondition username secuPasswd

/-- The return value and the reference arguments of `login_check`. -/
structure LoginCheck (ω : Type) where
  ret : Int
  legal : Bool
  first : Bool
  uid : Uid
  world : ω

/-- The second half of `login_check`: fetch the id and the first-login flag. -/
def loginUid (env : Env ω) (world : ω) (username secuPasswd : Buffer)
    (legal first : Bool) (uid : Uid) : Exec (LoginCheck ω) :=
  let (reply, world) := mysqlQuery env world (loginUidSql username secuPasswd)
  match reply with
  | .failed => .ok ⟨-1, legal, first, uid, world⟩
  | .done => .ok ⟨0, legal, first, uid, world⟩
  | .rows rows => do
      let sqlRow ← Exec.demand rows.head? .undefined
      let uidText ← sqlRow.text 0
      let firstText ← sqlRow.text 1
      .ok ⟨0, legal, atoi firstText ≠ 0, UInt32.ofInt (atoi uidText), world⟩

def loginCheck (env : Env ω) (world : ω) (username passwd : Buffer)
    (legal first : Bool) (uid : Uid) : Exec (LoginCheck ω) :=
  let secuPasswd := MD5.hexdigest passwd
  let (reply, world) :=
    mysqlQuery env world (loginCountSql username secuPasswd)
  match reply with
  | .failed => .ok ⟨-1, legal, first, uid, world⟩
  | .rows (sqlRow :: _) => do
      let count ← sqlRow.text 0
      if atoi count = 1 then
        loginUid env world username secuPasswd true first uid
      else
        .ok ⟨0, false, first, uid, world⟩
  | _ => loginUid env world username secuPasswd legal first uid

def checkUidSql (uid : Int) : Buffer :=
  ofText "select username from login where uid='" ++ ofInt uid ++ ofText "'"

/-- The return value and the reference arguments of `check_uid`. -/
structure CheckUid (ω : Type) where
  ret : Int
  exist : Bool
  username : Buffer
  world : ω

def checkUid (env : Env ω) (world : ω) (uid : Int) (exist : Bool)
    (username : Buffer) : Exec (CheckUid ω) :=
  let (reply, world) := mysqlQuery env world (checkUidSql uid)
  match reply with
  | .failed => .ok ⟨-1, exist, username, world⟩
  | .rows (sqlRow :: _) => do
      let username ← sqlRow.text 0
      .ok ⟨0, true, username, world⟩
  | _ => .ok ⟨0, false, username, world⟩

def updatePasswdSql (uid : Int) (secuPasswd : Buffer) : Buffer :=
  ofText "update login set password='" ++ secuPasswd ++
    ofText "',first=0 where uid='" ++ ofInt uid ++ ofText "'"

/-- The one `legal` is filled by the two checks, whose return values are not
looked at. -/
def updatePasswd (env : Env ω) (world : ω) (uid : Int)
    (newpasswd oldpasswd : Buffer) : Exec (Int × ω) := do
  let checked ← checkUid env world uid (env.stray world) []
  let login ← loginCheck env checked.world checked.username oldpasswd
    checked.exist (env.stray world) 0
  if login.legal ∧ newpasswd ≠ oldpasswd then
    let (reply, world) := mysqlQuery env login.world
      (updatePasswdSql uid (MD5.hexdigest newpasswd))
    match reply with
    | .failed => .ok (-1, world)
    | _ => .ok (0, world)
  else
    .ok (1, login.world)

def saveMessageSql (sendid recvid time : Int) (text : Buffer) : Buffer :=
  ofText "insert into record(sendid,recvid,time,message) values('" ++
    ofInt sendid ++ ofText "','" ++ ofInt recvid ++ ofText "','" ++
    ofInt time ++ ofText "','" ++ text ++ ofText "')"

/-- The two outcomes of a statement whose answer is not read. -/
def statement (env : Env ω) (world : ω) (sqlstr : Buffer) : Int × ω :=
  let (reply, world) := mysqlQuery env world sqlstr
  match reply with
  | .failed => (-1, world)
  | _ => (0, world)

def saveMessage (env : Env ω) (world : ω) (sendid recvid : Int)
    (text : Buffer) : Int × ω :=
  statement env world (saveMessageSql sendid recvid (env.time world) text)

def recordCntSql (uid : Int) : Buffer :=
  ofText "select rcnt from login where uid=" ++ ofInt uid ++ ofText ";"

def loginColorSql (uid : Int) : Buffer :=
  ofText "select color from login where uid=" ++ ofInt uid ++ ofText ";"

/-- The number in the only column of a query, or -1. -/
def numberOf (env : Env ω) (world : ω) (sqlstr : Buffer) : Exec (Int × ω) :=
  let (reply, world) := mysqlQuery env world sqlstr
  match reply with
  | .rows (sqlRow :: _) => do
      let text ← sqlRow.text 0
      .ok (atoi text, world)
  | _ => .ok (-1, world)

def getRecordCnt (env : Env ω) (world : ω) (uid : Int) : Exec (Int × ω) :=
  numberOf env world (recordCntSql uid)

def getLoginColor (env : Env ω) (world : ω) (uid : Int) : Exec (Int × ω) :=
  numberOf env world (loginColorSql uid)

def serhMessageSql (myid srid : Int) : Buffer :=
  if srid = 0xFFFF then
    ofText "select * from record where recvid=0xFFFF order by rid asc"
  else
    ofText "select * from record where sendid=" ++ ofInt myid ++
      ofText " and recvid=" ++ ofInt srid ++ ofText " or sendid=" ++
      ofInt srid ++ ofText " and recvid=" ++ ofInt myid ++
      ofText " order by rid asc"

/-- A 64-bit number, most significant byte first. -/
def ofLong (number : Int) : Buffer :=
  let value := (number % 18446744073709551616).toNat
  Buffer.ofWord (UInt32.ofNat (value / 4294967296)) ++
    Buffer.ofWord (UInt32.ofNat value)

/-- Store one record behind the `psiz` bytes there are. -/
def storeRecord (records : Buffer) (sendid time : Int) (message : Buffer) :
    Buffer :=
  let psiz := records.length
  let records := records.resize (psiz + 12 + message.length + 1)
  let records := records.overwrite psiz (Buffer.ofWord (UInt32.ofInt sendid))
  let records := records.overwrite (psiz + 4) (ofLong time)
  records.overwrite (psiz + 12) (message ++ [0])

/-- The loop of `serh_message`: the first rows are skipped while more than
`count` of them are left. -/
def serhLoop (count rownum : Int) : List Row → Int → Buffer → Exec Buffer
  | [], _, records => .ok records
  | sqlRow :: rows, tcnt, records =>
      if 2147483647 < tcnt + count then
        .error .undefined
      else if tcnt + count < rownum then
        serhLoop count rownum rows (tcnt + 1) records
      else do
        let message ← sqlRow.text 4
        let sendid ← sqlRow.text 1
        let time ← sqlRow.text 3
        serhLoop count rownum rows (tcnt + 1)
          (storeRecord records (atoi sendid) (atoll time) message)

/-- The return value, the records and the world after `serh_message`. -/
structure SerhMessage (ω : Type) where
  ret : Int
  records : Buffer
  world : ω

def serhMessage (env : Env ω) (world : ω) (myid srid : Int) :
    Exec (SerhMessage ω) := do
  let (count, world) ← getRecordCnt env world myid
  let (reply, world) := mysqlQuery env world (serhMessageSql myid srid)
  match reply with
  | .failed => .ok ⟨-1, [], world⟩
  | .done => .ok ⟨0, [], world⟩
  | .rows rows => do
      let records ← serhLoop count rows.length rows 0 []
      .ok ⟨0, records, world⟩

def insertFileRecordSql (sendid recvid allsiz : Int) (filename : Buffer) :
    Buffer :=
  ofText "insert into filetrans(sendid,recvid,allsiz,filename) values('" ++
    ofInt sendid ++ ofText "','" ++ ofInt recvid ++ ofText "','" ++
    ofInt allsiz ++ ofText "','" ++ filename ++ ofText "')"

def insertFileRecord (env : Env ω) (world : ω) (sendid recvid allsiz : Int)
    (filename : Buffer) : Int × ω :=
  statement env world (insertFileRecordSql sendid recvid allsiz filename)

/-- The rows of a pair of users in one state of `statue`. -/
def filePairSql (sendid recvid : Int) (statue : String) : Buffer :=
  ofText " where sendid = " ++ ofInt sendid ++ ofText " and recvid = " ++
    ofInt recvid ++ ofText " and statue = " ++ ofText statue

def permitFileRecord (env : Env ω) (world : ω) (sendid recvid : Int) :
    Int × ω :=
  statement env world
    (ofText "update filetrans set statue=1" ++ filePairSql sendid recvid "0")

def deleteFileRecord (env : Env ω) (world : ω) (sendid recvid : Int) :
    Int × ω :=
  statement env world
    (ofText "delete from filetrans" ++ filePairSql sendid recvid "0")

def updateFileRecord (env : Env ω) (world : ω) (sendid recvid siz : Int) :
    Int × ω :=
  statement env world
    (ofText "update filetrans set succsiz=" ++ ofInt siz ++
      filePairSql sendid recvid "1")

def allUidSql : Buffer := ofText "select uid from login"

def uidsOf : List Row → Exec (List Uid)
  | [] => .ok []
  | sqlRow :: rows => do
      let text ← sqlRow.text 0
      let uids ← uidsOf rows
      .ok (UInt32.ofInt (atoi text) :: uids)

/-- The list is left empty where the query fails. -/
def getAllUid (env : Env ω) (world : ω) : Exec (Int × List Uid × ω) :=
  let (reply, world) := mysqlQuery env world allUidSql
  match reply with
  | .failed => .ok (-1, [], world)
  | .done => .ok (0, [], world)
  | .rows rows => do
      let uids ← uidsOf rows
      .ok (0, uids, world)

end Database

end GroupChat.Server
