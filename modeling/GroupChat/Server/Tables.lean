import GroupChat.Server.Database

namespace GroupChat.Server

/-! A database server that keeps its tables in memory. -/

structure Account where
  username : Buffer
  password : Buffer
  uid : Uid
  first : Bool := false
  deriving DecidableEq, Repr

/-- A row of the record table, as text. -/
structure Record where
  sendid : Buffer
  recvid : Buffer
  time : Buffer
  message : Buffer
  deriving DecidableEq, Repr

structure Tables where
  accounts : List Account
  records : List Record := []
  deriving DecidableEq, Repr

namespace Tables

open Buffer (ofText)
open Decimal Database

def unquoted (sqlstr : Buffer) : Buffer :=
  sqlstr.takeWhile (· ≠ 0x27)

/-- What stands behind `size` bytes and the next `'`. -/
def behind (sqlstr : Buffer) (size : Nat) : Buffer :=
  (sqlstr.drop size).dropWhile (· ≠ 0x27) |>.drop 1

/-- The record an insert statement describes. -/
def inserted (sqlstr : Buffer) : Record :=
  let sendid := behind sqlstr 0
  let recvid := behind (behind sendid 0) 0
  let time := behind (behind recvid 0) 0
  let message := behind (behind time 0) 0
  ⟨unquoted sendid, unquoted recvid, unquoted time, unquoted message⟩

/-- A record is in the answer to a statement if it belongs to the conversation
the statement asks for. -/
def selects (sqlstr : Buffer) (record : Record) : Bool :=
  let sendid := atoi record.sendid
  let recvid := atoi record.recvid
  sqlstr = serhMessageSql sendid recvid ∨ sqlstr = serhMessageSql recvid sendid

def answer (tables : Tables) (sqlstr : Buffer) : Reply :=
  let asks (text : String) : Bool := (ofText text).isPrefixOf sqlstr
  if asks "select uid from login" then
    .rows (tables.accounts.map fun account =>
      [some (ofNat account.uid.toNat)])
  else if asks "select count(*)" then
    .rows [[some (ofNat (tables.accounts.countP fun account =>
      sqlstr = loginCountSql account.username account.password))]]
  else if asks "select uid,first" then
    .rows ((tables.accounts.filter fun account =>
      sqlstr = loginUidSql account.username account.password).map
        fun account => [some (ofNat account.uid.toNat),
          some (ofNat account.first.toNat)])
  else if asks "select username" then
    .rows ((tables.accounts.filter fun account =>
      sqlstr = checkUidSql (toSigned account.uid)).map
        fun account => [some account.username])
  else if asks "select rcnt" then
    .rows [[some (ofNat 100)]]
  else if asks "select color" then
    .rows [[some (ofNat 0)]]
  else if asks "select *" then
    .rows ((tables.records.filter (selects sqlstr)).map fun record =>
      [some [], some record.sendid, some record.recvid, some record.time,
        some record.message])
  else
    .done

def query (tables : Tables) (sqlstr : Buffer) : Reply × Tables :=
  (tables.answer sqlstr,
    if (ofText "insert into record").isPrefixOf sqlstr then
      { tables with records := tables.records ++ [inserted sqlstr] }
    else
      tables)

def env : Env Tables where
  query := query
  time := fun tables => tables.records.length
  stray := fun _ => false

/-- The environment of a server whose accounts stay as they are. -/
def keptEnv (accounts : List Account) : Env (List Record) where
  query := fun records sqlstr =>
    let (reply, tables) := query ⟨accounts, records⟩ sqlstr
    (reply, tables.records)
  time := fun records => records.length
  stray := fun _ => false

/-! The answers to the statements about the accounts. -/

theorem answer_allUid (tables : Tables) :
    tables.answer allUidSql.cString = .rows (tables.accounts.map
      fun account => [some (ofNat account.uid.toNat)]) := rfl

theorem answer_loginUid (tables : Tables) (username secuPasswd : Buffer) :
    tables.answer (loginUidSql username secuPasswd).cString =
      .rows ((tables.accounts.filter fun account =>
        (loginUidSql username secuPasswd).cString =
          loginUidSql account.username account.password).map
            fun account => [some (ofNat account.uid.toNat),
              some (ofNat account.first.toNat)]) := rfl

theorem answer_loginCount (tables : Tables) (username secuPasswd : Buffer) :
    tables.answer (loginCountSql username secuPasswd).cString =
      .rows [[some (ofNat (tables.accounts.countP fun account =>
        (loginCountSql username secuPasswd).cString =
          loginCountSql account.username account.password))]] := rfl

theorem answer_loginColor (tables : Tables) (uid : Int) :
    tables.answer (loginColorSql uid).cString =
      .rows [[some (ofNat 0)]] := rfl

/-- The accounts of these users, each with its name for a password. -/
def accountsOf (users : List (String × Uid × Bool)) : List Account :=
  users.map fun (name, uid, first) =>
    ⟨ofText name, MD5.hexdigest (ofText name), uid, first⟩

/-- Tables with these users. -/
def ofUsers (users : List (String × Uid × Bool)) : Tables where
  accounts := accountsOf users

end Tables

end GroupChat.Server
