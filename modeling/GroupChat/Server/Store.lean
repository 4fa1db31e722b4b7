import GroupChat.Server.Answering
import GroupChat.Server.Filed
import GroupChat.Server.Login
import GroupChat.Server.Service

namespace GroupChat.Server

/-! The tables of the database server and the sessions, as the service they
make up, and what a frame does to it. -/

open Buffer (ofText)
open Database (mysqlQuery insertRecord Unfiled Asks other_statement)

variable {ω : Type} {env : Env ω}

namespace Database

def updateLogin : Buffer := ofText "update login"

/-- A statement that leaves the accounts alone. -/
def Unlogged (sqlstr : Buffer) : Prop :=
  ¬ updateLogin <+: sqlstr

theorem unlogged_select (sqlstr : Buffer) (select : sqlstr[0]? = some 115) :
    Unlogged sqlstr :=
  other_statement 0 select (by decide) (by decide)

theorem unlogged_saveMessage (sendid recvid time : Int) (text : Buffer) :
    Unlogged (saveMessageSql sendid recvid time text) :=
  @other_statement _ _ 0 105 rfl (by decide) (by decide)

end Database

theorem FileOp.unlogged (op : FileOp) : Database.Unlogged op.sqlstr := by
  cases op with
  | request sendid recvid allsiz filename =>
      exact @other_statement _ _ 0 105 rfl (by decide) (by decide)
  | respond accepted sendid recvid =>
      cases accepted with
      | true => exact @other_statement _ _ 7 102 rfl (by decide) (by decide)
      | false => exact @other_statement _ _ 0 100 rfl (by decide) (by decide)
  | acknowledge sendid recvid siz =>
      exact @other_statement _ _ 7 102 rfl (by decide) (by decide)

/-- The user whose frame it is. -/
def FileOp.actor : FileOp → Uid
  | .request sendid _ _ _ => sendid
  | .respond _ _ recvid => recvid
  | .acknowledge _ recvid _ => recvid

/-- The user the frame is forwarded to. -/
def FileOp.partner : FileOp → Uid
  | .request _ recvid _ _ => recvid
  | .respond _ sendid _ => sendid
  | .acknowledge sendid _ _ => sendid

open Database (Unlogged)

/-- A database server with the tables of the program, and the character set of
the connection to it; only an update of the login table changes the accounts. -/
structure Store (env : Env ω) where
  records : RecordTable env
  files : FileTable env
  accounts : LoginTable env
  kept : ∀ world sqlstr, Unlogged sqlstr →
    accounts.rows (mysqlQuery env world sqlstr).2 = accounts.rows world
  charset : Charset
  recorded : records.Inserts charset
  offered : files.Inserts charset

namespace Store

variable (store : Store env)

/-- The service as it stands. -/
def service (s : Connections ω) : Service where
  online := fun uid => s.uidToFd.lookup uid
  records := store.records.rows s.db
  accounts := store.accounts.rows s.db
  files := store.files.rows s.db

theorem accounts_asks {world world' : ω}
    (asks : Asks env Unlogged world world') :
    store.accounts.rows world' = store.accounts.rows world := by
  induction asks with
  | refl => rfl
  | query _ other induction => exact (store.kept _ _ other).trans induction

end Store

namespace Connections

variable {s s' : Connections ω} {fd : Fd}

/-! What the frames of other types leave alone. -/

/-- A frame about files has its statement sent, if its size is right, and finds
the other user logged in. -/
def RunsFileOp (env : Env ω) (s s' : Connections ω) (fd : Fd) : Prop :=
  s.fileOp fd = none ∧ s'.db = s.db ∨
    ∃ op, s.fileOp fd = some op ∧ s.myUid fd = .ok op.actor ∧
      (s.uidToFd.lookup op.partner).isSome = true ∧
      s'.db = (op.run env s.db).2

theorem parseTransfileAskRc_runs (type : (s.frame fd).header.type = 0x17)
    (parsed : s.parseTransfileAskRc env fd = .ok s') :
    RunsFileOp env s s' fd := by
  unfold parseTransfileAskRc at parsed
  dsimp only at parsed
  split at parsed
  next length =>
    cases parsed
    refine .inl ⟨?_, rfl⟩
    exact fileOp_none (fun _ => length) (by simp [type]) (by simp [type])
  next length =>
    obtain ⟨_, _, rest⟩ := Exec.of_bind_ok parsed
    obtain ⟨dstUid, read, rest⟩ := Exec.of_bind_ok rest
    obtain ⟨uid, mine, rest⟩ := Exec.of_bind_ok rest
    obtain ⟨filesize, size, rest⟩ := Exec.of_bind_ok rest
    obtain ⟨target, found, rfl⟩ := pushTransfile_eq.mp rest
    have asked : s.fileOp fd = some (.request uid dstUid filesize
        (fixedField (s.frame fd).data 12 64)) := by
      simp only [fileOp, read, mine, size, type, not_not.mp length, and_self,
        if_true]
    refine .inr ⟨_, asked, mine, ?_, rfl⟩
    exact Option.isSome_iff_exists.mpr ⟨target, found⟩

theorem parseTransfileRepSc_runs (type : (s.frame fd).header.type = 0x18)
    (parsed : s.parseTransfileRepSc env fd = .ok s') :
    RunsFileOp env s s' fd := by
  unfold parseTransfileRepSc at parsed
  dsimp only at parsed
  split at parsed
  next length =>
    cases parsed
    refine .inl ⟨?_, rfl⟩
    exact fileOp_none (by simp [type]) (fun _ => length) (by simp [type])
  next length =>
    obtain ⟨_, _, rest⟩ := Exec.of_bind_ok parsed
    obtain ⟨dstUid, read, rest⟩ := Exec.of_bind_ok rest
    obtain ⟨uid, mine, rest⟩ := Exec.of_bind_ok rest
    obtain ⟨target, found, rfl⟩ := pushTransfile_eq.mp rest
    have asked : s.fileOp fd = some (.respond
        ((s.frame fd).header.subType = 0x01) dstUid uid) := by
      have other : ¬ (0x18 : UInt8) = 0x17 := by decide
      simp only [fileOp, read, mine, type, not_not.mp length, other,
        false_and, and_self, if_false, if_true]
    refine .inr ⟨_, asked, mine,
      Option.isSome_iff_exists.mpr ⟨target, found⟩, ?_⟩
    rw [push_db]
    dsimp only
    split
    next accepted => rw [decide_eq_true accepted, FileOp.run]
    next refused => rw [decide_eq_false refused, FileOp.run]

theorem parseTransfileAck_runs (type : (s.frame fd).header.type = 0x1A)
    (parsed : s.parseTransfileAck env fd = .ok s') :
    RunsFileOp env s s' fd := by
  unfold parseTransfileAck at parsed
  dsimp only at parsed
  split at parsed
  next length =>
    cases parsed
    refine .inl ⟨?_, rfl⟩
    exact fileOp_none (by simp [type]) (by simp [type]) (fun _ => length)
  next length =>
    obtain ⟨_, _, rest⟩ := Exec.of_bind_ok parsed
    obtain ⟨dstUid, read, rest⟩ := Exec.of_bind_ok rest
    obtain ⟨uid, mine, rest⟩ := Exec.of_bind_ok rest
    obtain ⟨ui8cnt, count, rest⟩ := Exec.of_bind_ok rest
    obtain ⟨target, found, rfl⟩ := pushTransfile_eq.mp rest
    have asked : s.fileOp fd = some (.acknowledge dstUid uid ui8cnt) := by
      have request : ¬ (0x1A : UInt8) = 0x17 := by decide
      have respond : ¬ (0x1A : UInt8) = 0x18 := by decide
      simp only [fileOp, read, mine, count, type, not_not.mp length, request,
        respond, false_and, and_self, if_false, if_true]
    exact .inr ⟨_, asked, mine,
      Option.isSome_iff_exists.mpr ⟨target, found⟩, rfl⟩

theorem RunsFileOp.unlogged (runs : RunsFileOp env s s' fd) :
    Database.Asks env Unlogged s.db s'.db := by
  rcases runs with ⟨_, same⟩ | ⟨op, _, _, _, ran⟩
  · rw [same]
    exact .refl s.db
  · rw [ran, FileOp.run_world]
    exact .one op.unlogged

theorem parse_unlogged (other : (s.frame fd).header.type ≠ 0x15)
    (parsed : s.parse env fd = .ok s') :
    Database.Asks env Unlogged s.db s'.db := by
  have selects := Database.unlogged_select
  unfold parse at parsed
  split at parsed
  · exact parseLogin_asks selects parsed
  · exact parseUsername_asks selects parsed
  · exact parseChatrecord_asks selects parsed
  · exact parseTextmsg_asks selects Database.unlogged_saveMessage parsed
  · contradiction
  · exact (parseTransfileAskRc_runs ‹_› parsed).unlogged
  · exact (parseTransfileRepSc_runs ‹_› parsed).unlogged
  · rw [parseTransfileData_db parsed]
    exact .refl s.db
  · exact (parseTransfileAck_runs ‹_› parsed).unlogged
  · cases parsed
    exact .refl s.db

theorem Served.sameUsers (served : Served env s fd s')
    (other : (s.frame fd).header.type ≠ 0x10) : s'.uidToFd = s.uidToFd := by
  cases served with
  | answer world queried made type failed => rfl
  | history type read mine queried searched => rfl
  | unsaved type read mine queried failed => rfl
  | text exist online type read mine queried saved reach => simp
  | file kind read mine found queried => rfl
  | login db type took listed queried => exact absurd type other

end Connections

namespace Store

variable {store : Store env} {s s' : Connections ω} {fd : Fd}

/-- The deed a statement about files is, where a number is given to a new
transfer. -/
inductive FileDeed : FileOp → Deed → Prop
  | offer {sendid recvid allsiz : UInt32} {filename : Buffer} (tid : Int) :
      FileDeed (.request sendid recvid allsiz filename)
        (.offer sendid recvid tid allsiz filename)
  | answer (accepted : Bool) (sendid recvid : Uid) :
      FileDeed (.respond accepted sendid recvid)
        (.answer recvid sendid accepted)
  | count (sendid recvid : Uid) (siz : UInt32) :
      FileDeed (.acknowledge sendid recvid siz) (.count recvid sendid siz)

/-- The deed that the frame being handled on a connection asks for and that the
database server accepts: of the user whose credentials it brings, or of the user
of the connection. -/
inductive FrameDeed (env : Env ω) (s : Connections ω) (fd : Fd) :
    Deed → Prop
  | login {checked : Database.LoginCheck ω} (login : s.LoginFrame fd)
      (credentials : Database.loginCheck env s.db
        (Connections.fixedField (s.frame fd).data 0 28)
        (Connections.fixedField (s.frame fd).data 28 28) false true 0 =
          .ok checked)
      (answered : 0 ≤ checked.ret) (legal : checked.legal = true) :
      FrameDeed env s fd (.login checked.uid fd)
  | write {uid dstUid : Uid} {checked : Database.CheckUid ω}
      (type : (s.frame fd).header.type = 0x13)
      (shape : Connections.TextShape (s.frame fd))
      (read : (s.frame fd).data.wordAt 0 = .ok dstUid)
      (mine : s.myUid fd = .ok uid)
      (found : s.party env (s.frame fd) dstUid = .ok checked)
      (answered : 0 ≤ checked.ret)
      (saved : 0 ≤ (Connections.saved env checked.world (s.frame fd) uid
        dstUid).1) :
      FrameDeed env s fd (.write uid dstUid (env.time checked.world)
        ((s.frame fd).data.drop 4))
  | change {uid : Uid} (type : (s.frame fd).header.type = 0x15)
      (kind : (s.frame fd).header.subType = 0x00)
      (size : (s.frame fd).header.length.toNat = sizeofHeader + 56)
      (mine : s.myUid fd = .ok uid)
      (passes : Passes env s.db (toSigned uid)
        (Connections.fixedField (s.frame fd).data 0 28))
      (different : Connections.fixedField (s.frame fd).data 28 28 ≠
        Connections.fixedField (s.frame fd).data 0 28)
      (updated : (mysqlQuery env (changing env s.db (toSigned uid)
        (Connections.fixedField (s.frame fd).data 0 28))
          (Database.updatePasswdSql (toSigned uid) (MD5.hexdigest
            (Connections.fixedField (s.frame fd).data 28 28)))).1 ≠
              .failed) :
      FrameDeed env s fd (.change uid
        (MD5.hexdigest (Connections.fixedField (s.frame fd).data 28 28)))
  | file {op : FileOp} {deed : Deed} (asked : s.fileOp fd = some op)
      (mine : s.myUid fd = .ok op.actor) (succeeds : op.Succeeds env s.db)
      (file : FileDeed op deed) : FrameDeed env s fd deed

/-- From one state to the other one deed of the frame is done, which was
possible; or nothing is done, and there is no deed of the frame. -/
def Does (store : Store env) (s s' : Connections ω) (fd : Fd) : Prop :=
  store.service s' = store.service s ∧ (∀ deed, ¬ FrameDeed env s fd deed) ∨
    ∃ deed, FrameDeed env s fd deed ∧ (store.service s).Possible deed ∧
      store.service s' = (store.service s).next deed

/-! Each table, and what changes it. -/

theorem records_kept (store : Store env)
    (served : Connections.Served env s fd s')
    (other : (s.frame fd).header.type ≠ 0x13) :
    store.records.rows s'.db = store.records.rows s.db := by
  have legible : LegibleFrame store.charset (s.frame fd) :=
    fun type => absurd type other
  rcases RecordTable.rows_served store.recorded served legible with same |
    ⟨_, _, _, type, _⟩
  · exact same
  · exact absurd type other

theorem files_kept (store : Store env)
    (parsed : s.parse env fd = .ok s') (idle : s.fileOp fd = none) :
    store.files.rows s'.db = store.files.rows s.db := by
  have filed := Connections.parse_filed parsed
  rw [idle] at filed
  cases filed with
  | none asks => exact store.files.rows_asks asks

theorem accounts_kept (store : Store env)
    (parsed : s.parse env fd = .ok s')
    (other : (s.frame fd).header.type ≠ 0x15) :
    store.accounts.rows s'.db = store.accounts.rows s.db :=
  store.accounts_asks (Connections.parse_unlogged other parsed)

end Store

end GroupChat.Server
