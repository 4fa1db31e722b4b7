import GroupChat.Server.Asking
import GroupChat.Server.Records
import GroupChat.Server.Forwarding
import GroupChat.Server.Streams

namespace GroupChat.Server

/-! What the handlers do to the record table, and what they answer. -/

variable {ω : Type} {env : Env ω}

namespace Database

open Buffer (ofText)

def insertRecord : Buffer := ofText "insert into record"

/-- The world after statements that put nothing into the record table. -/
inductive Queried (env : Env ω) : ω → ω → Prop
  | refl (world : ω) : Queried env world world
  | query {world world' : ω} {sqlstr : Buffer}
      (before : Queried env world world')
      (other : ¬ insertRecord <+: sqlstr) :
      Queried env world (mysqlQuery env world' sqlstr).2

theorem Queried.trans {world world' world'' : ω}
    (before : Queried env world world')
    (after : Queried env world' world'') : Queried env world world'' := by
  induction after with
  | refl => exact before
  | query _ other induction => exact .query induction other

theorem Queried.of_asks {world world' : ω}
    (asks : Asks env (fun sqlstr => ¬ insertRecord <+: sqlstr) world world') :
    Queried env world world' := by
  induction asks with
  | refl => exact .refl world
  | query _ other induction => exact .query induction other

theorem everyday_queried :
    Everyday fun sqlstr => ¬ insertRecord <+: sqlstr where
  select := fun _ select => other_statement 0 select (by decide) (by decide)
  updatePasswd := fun _ _ =>
    @other_statement _ _ 0 117 rfl (by decide) (by decide)

theorem loginCheck_queried {world : ω} {username passwd : Buffer}
    {legal first : Bool} {uid : Uid} {checked : LoginCheck ω}
    (login : loginCheck env world username passwd legal first uid =
      .ok checked) : Queried env world checked.world :=
  .of_asks (loginCheck_asks everyday_queried.select login)

theorem checkUid_queried {world : ω} {uid : Int} {exist : Bool}
    {username : Buffer} {checked : CheckUid ω}
    (found : checkUid env world uid exist username = .ok checked) :
    Queried env world checked.world :=
  .of_asks (checkUid_asks everyday_queried.select found)

theorem partyExists_queried {world : ω} {isPrivate exist publicExist : Bool}
    {uid : Uid} {checked : CheckUid ω}
    (found : Connections.partyExists env world isPrivate uid exist
      publicExist = .ok checked) : Queried env world checked.world :=
  .of_asks (partyExists_asks everyday_queried.select found)

theorem statement_queried {world : ω} {sqlstr : Buffer}
    (other : ¬ insertRecord <+: sqlstr) :
    Queried env world (statement env world sqlstr).2 :=
  .of_asks (statement_asks other)

theorem updatePasswd_queried {world : ω} {uid : Int}
    {newpasswd oldpasswd : Buffer} {result : Int × ω}
    (updated : updatePasswd env world uid newpasswd oldpasswd = .ok result) :
    Queried env world result.2 :=
  .of_asks (updatePasswd_asks everyday_queried updated)

theorem numberOf_queried {world : ω} {sqlstr : Buffer} {result : Int × ω}
    (select : sqlstr[0]? = some 115)
    (found : numberOf env world sqlstr = .ok result) :
    Queried env world result.2 :=
  .of_asks (numberOf_asks everyday_queried.select select found)

theorem getAllUid_queried {world : ω} {result : Int × List Uid × ω}
    (found : getAllUid env world = .ok result) :
    Queried env world result.2.2 :=
  .of_asks (getAllUid_asks everyday_queried.select found)

theorem serhMessage_queried {world : ω} {myid srid : Int}
    {found : SerhMessage ω}
    (searched : serhMessage env world myid srid = .ok found) :
    Queried env world found.world :=
  .of_asks (serhMessage_asks everyday_queried.select searched)

end Database

namespace Connections

open Database (Queried)

/-- A text frame that is not refused for its shape. -/
structure TextShape (frame : Message) : Prop where
  kind : frame.header.subType = 0x00 ∨ frame.header.subType = 0x01
  short : frame.header.length.toNat ≤ sizeofHeader + 4 + 1024

theorem textShape_iff {frame : Message} : TextShape frame ↔
    ¬ ((¬ frame.header.subType = 0x00 ∧ ¬ frame.header.subType = 0x01) ∨
      sizeofHeader + 4 + 1024 < frame.header.length.toNat) := by
  rw [not_or, not_and_or, not_not, not_not, Nat.not_lt]
  exact ⟨fun shape => ⟨shape.kind, shape.short⟩, fun both => ⟨both.1, both.2⟩⟩

instance (frame : Message) : Decidable (TextShape frame) :=
  decidable_of_iff _ textShape_iff.symm

theorem TextShape.text_length {frame : Message} (shape : TextShape frame)
    (size : sizeofHeader + frame.data.length = frame.header.length.toNat) :
    (frame.data.drop 4).length ≤ 1024 := by
  have short := shape.short
  rw [List.length_drop]
  omega

/-- The state after a frame was handled, with what was asked of the database
server. -/
inductive Served (env : Env ω) (s : Connections ω) (fd : Fd) :
    Connections ω → Prop
  | answer (world : ω) (queried : Queried env s.db world) {msg : Message}
      (made : Answer msg)
      (type : msg.header.type = (s.frame fd).header.type ||| 0x80)
      (failed : msg.header.type = 0x92 → msg.header.subType ≠ 0x00) :
      Served env s fd ({ s with db := world }.push fd msg)
  | history {world : ω} {uid myUid : Uid} {found : Database.SerhMessage ω}
      (type : (s.frame fd).header.type = 0x12)
      (read : (s.frame fd).data.wordAt 0 = .ok uid)
      (mine : s.myUid fd = .ok myUid)
      (queried : Queried env s.db world)
      (searched : Database.serhMessage env world (toSigned myUid)
        (toSigned uid) = .ok found) :
      Served env s fd ({ s with db := found.world }.push fd
        (recordsMsg found.records))
  | unsaved {world : ω} {uid dstUid : Uid}
      (type : (s.frame fd).header.type = 0x13)
      (read : (s.frame fd).data.wordAt 0 = .ok dstUid)
      (mine : s.myUid fd = .ok uid)
      (queried : Queried env s.db world)
      (failed : (Database.saveMessage env world (toSigned uid)
        (toSigned dstUid) ((s.frame fd).data.drop 4)).1 < 0)
      (shape : TextShape (s.frame fd))
      (size : sizeofHeader + (s.frame fd).data.length =
        (s.frame fd).header.length.toNat) :
      Served env s fd ({ s with
        db := (Database.saveMessage env world (toSigned uid)
          (toSigned dstUid) ((s.frame fd).data.drop 4)).2 }.parseUnknown fd)
  | text {world : ω} {uid dstUid : Uid} (exist online : Bool)
      (type : (s.frame fd).header.type = 0x13)
      (read : (s.frame fd).data.wordAt 0 = .ok dstUid)
      (mine : s.myUid fd = .ok uid)
      (queried : Queried env s.db world)
      (saved : 0 ≤ (Database.saveMessage env world (toSigned uid)
        (toSigned dstUid) ((s.frame fd).data.drop 4)).1)
      (reach : online = false → (s.frame fd).header.subType = 0x00 ∧
        s.uidToFd.lookup dstUid = none)
      (shape : TextShape (s.frame fd))
      (size : sizeofHeader + (s.frame fd).data.length =
        (s.frame fd).header.length.toNat) :
      Served env s fd (({ s with
        db := (Database.saveMessage env world (toSigned uid)
          (toSigned dstUid) ((s.frame fd).data.drop 4)).2 }.push fd
            (textAnswer exist online)).pushes
        (if online then (s.textTargets uid dstUid).map fun target =>
          (target, textMsg uid (s.frame fd)) else []))
  | file {world : ω} {uid dstUid : Uid} {target : Fd} {type : UInt8}
      (kind : ((s.frame fd).header.type, type) ∈ transfileTypes)
      (read : (s.frame fd).data.wordAt 0 = .ok dstUid)
      (mine : s.myUid fd = .ok uid)
      (found : s.uidToFd.lookup dstUid = some target)
      (queried : Queried env s.db world) :
      Served env s fd ({ s with db := world }.push target
        (transfileMsg type (s.frame fd)))
  | login (db : ω) {uid : Uid} {first : Bool} {subType : UInt8}
      {primaryColor : Int} {taken after : Connections ω}
      (type : (s.frame fd).header.type = 0x10)
      (took : takeover ({ s with db := db }.noteLogin fd true uid) uid first =
        .ok (subType, taken))
      (listed : (taken.welcomed fd uid subType primaryColor).pushUserlist env
        fd = .ok after)
      (queried : Queried env s.db after.db) :
      Served env s fd after

theorem Served.unknown (s : Connections ω) (fd : Fd) {world : ω}
    (queried : Queried env s.db world) :
    Served env s fd ({ s with db := world }.parseUnknown fd) :=
  have failed : (unknownMsg (s.frame fd).header.type).header.subType ≠
      0x00 := by
    change (0xFF : UInt8) ≠ 0x00
    decide
  .answer world queried (.unknown _) rfl fun _ => failed

theorem takeover_db {s s' : Connections ω} {uid : Uid} {first : Bool}
    {subType : UInt8} (took : takeover s uid first = .ok (subType, s')) :
    s'.db = s.db := by
  rcases takeover_eq took with ⟨_, _, rfl⟩ | ⟨_, _, _, rfl⟩ |
    ⟨_, _, _, _, _, rfl⟩ <;> rfl

theorem parseLogin_served {s s' : Connections ω} {fd : Fd}
    (type : (s.frame fd).header.type = 0x10)
    (parsed : s.parseLogin env fd = .ok s') : Served env s fd s' := by
  unfold parseLogin at parsed
  dsimp only at parsed
  split at parsed
  · cases parsed
    exact .unknown s fd (.refl s.db)
  · obtain ⟨_, _, rest⟩ := Exec.of_bind_ok parsed
    obtain ⟨checked, login, rest⟩ := Exec.of_bind_ok rest
    have asked := Database.loginCheck_queried login
    split at rest
    · cases rest
      exact .unknown s fd asked
    · obtain ⟨primaryColor, db, colored, refused | legal⟩ :=
        loginChecked_eq rest
      · obtain ⟨illegal, _, rfl⟩ := refused
        have same : ({ s with db := checked.world }.noteLogin fd
            checked.legal checked.uid).db = checked.world := by
          rw [illegal]
          rfl
        rw [same] at colored
        have queried : Queried env s.db db :=
          asked.trans (Database.numberOf_queried rfl colored)
        have answered : Served env s fd ({ s with db := db }.push fd
            refusedMsg) :=
          .answer db queried .refused (by rw [type]; rfl)
            (fun impossible => by cases impossible)
        simpa [illegal, noteLogin] using answered
      · obtain ⟨legal, subType, taken, took, free, fresh, listed⟩ := legal
        rw [legal] at took colored
        have colors : Queried env checked.world db :=
          Database.numberOf_queried rfl colored
        obtain ⟨_, _, db', _, _, _, _, _, all, _, _, _, _, rfl⟩ :=
          pushUserlist_eq listed
        have lists : Queried env db db' := by
          have before : (taken.welcomed fd checked.uid subType
              primaryColor).db = db := by
            rw [welcomed, bind]
            simp only [pushes_db, push_db]
            exact takeover_db took
          rw [before] at all
          exact Database.getAllUid_queried all
        have queried := (asked.trans colors).trans lists
        exact .login db type took listed (by simpa using queried)

theorem parseUsername_served {s s' : Connections ω} {fd : Fd}
    (type : (s.frame fd).header.type = 0x11)
    (parsed : s.parseUsername env fd = .ok s') : Served env s fd s' := by
  unfold parseUsername at parsed
  dsimp only at parsed
  split at parsed
  · cases parsed
    exact .unknown s fd (.refl s.db)
  · obtain ⟨_, _, rest⟩ := Exec.of_bind_ok parsed
    obtain ⟨uid, _, rest⟩ := Exec.of_bind_ok rest
    obtain ⟨checked, found, rest⟩ := Exec.of_bind_ok rest
    have asked := Database.checkUid_queried found
    split at rest
    · cases rest
      exact .unknown s fd asked
    · split at rest
      · cases rest
        exact .answer _ asked (.username _) (by rw [type]; rfl)
          (fun impossible => by cases impossible)
      · cases rest
        exact .answer _ asked .absentUser (by rw [type]; rfl)
          (fun impossible => by cases impossible)

theorem parseChatrecord_served {s s' : Connections ω} {fd : Fd}
    (type : (s.frame fd).header.type = 0x12)
    (parsed : s.parseChatrecord env fd = .ok s') : Served env s fd s' := by
  unfold parseChatrecord at parsed
  dsimp only at parsed
  split at parsed
  · cases parsed
    exact .unknown s fd (.refl s.db)
  · obtain ⟨_, _, rest⟩ := Exec.of_bind_ok parsed
    obtain ⟨uid, read, rest⟩ := Exec.of_bind_ok rest
    obtain ⟨myUid, mine, rest⟩ := Exec.of_bind_ok rest
    obtain ⟨checked, exists', rest⟩ := Exec.of_bind_ok rest
    have asked := Database.partyExists_queried exists'
    split at rest
    · cases rest
      exact .unknown s fd asked
    · split at rest
      · obtain ⟨found, searched, rest⟩ := Exec.of_bind_ok rest
        split at rest
        · cases rest
          exact .unknown s fd
            (asked.trans (Database.serhMessage_queried searched))
        · cases rest
          exact .history type read mine asked searched
      · cases rest
        exact .answer _ asked .absentParty (by rw [type]; rfl)
          (fun _ => by change (0xF0 : UInt8) ≠ 0x00; decide)

theorem parseTextmsg_served {s s' : Connections ω} {fd : Fd}
    (type : (s.frame fd).header.type = 0x13)
    (parsed : s.parseTextmsg env fd = .ok s') : Served env s fd s' := by
  unfold parseTextmsg at parsed
  dsimp only at parsed
  split at parsed
  · cases parsed
    exact .unknown s fd (.refl s.db)
  · rename_i accepted
    have shape := textShape_iff.mpr accepted
    obtain ⟨_, size, rest⟩ := Exec.of_bind_ok parsed
    have size := Exec.require_eq_ok.mp size
    obtain ⟨dstUid, read, rest⟩ := Exec.of_bind_ok rest
    obtain ⟨uid, mine, rest⟩ := Exec.of_bind_ok rest
    obtain ⟨checked, exists', rest⟩ := Exec.of_bind_ok rest
    have asked := Database.partyExists_queried exists'
    split at rest
    · cases rest
      exact .unknown s fd asked
    · split at rest
      · rename_i failed
        cases rest
        exact .unsaved type read mine asked failed shape size
      · rename_i saved
        have saved := Int.not_lt.mp saved
        have reach : (if (s.frame fd).header.subType = 0x00 then
            (s.uidToFd.lookup dstUid).isSome else true) = false →
            (s.frame fd).header.subType = 0x00 ∧
              s.uidToFd.lookup dstUid = none := by
          intro away
          split at away
          · rename_i isPrivate
            exact ⟨isPrivate, Option.not_isSome_iff_eq_none.mp
              (by rw [away]; exact Bool.false_ne_true)⟩
          · cases away
        generalize (if (s.frame fd).header.subType = 0x00 then
          (s.uidToFd.lookup dstUid).isSome else true) = online at rest reach
        have served := @Served.text ω env s fd checked.world uid dstUid
          checked.exist online type read mine asked saved reach shape size
        cases online with
        | false =>
            cases rest
            exact served
        | true =>
            simp only [if_true, push_frame] at rest
            obtain ⟨_, same⟩ := pushTextmsg_eq.mp rest
            subst same
            exact served

theorem parseChangePwd_served {s s' : Connections ω} {fd : Fd}
    (type : (s.frame fd).header.type = 0x15)
    (parsed : s.parseChangePwd env fd = .ok s') : Served env s fd s' := by
  unfold parseChangePwd at parsed
  dsimp only at parsed
  split at parsed
  · cases parsed
    exact .unknown s fd (.refl s.db)
  · obtain ⟨uid, _, rest⟩ := Exec.of_bind_ok parsed
    obtain ⟨_, _, rest⟩ := Exec.of_bind_ok rest
    obtain ⟨⟨ret, db⟩, updated, rest⟩ := Exec.of_bind_ok rest
    have asked : Queried env s.db db := Database.updatePasswd_queried updated
    cases rest
    exact .answer _ asked (.changePwd _) (by rw [type]; rfl)
      (fun impossible => by cases impossible)

theorem other_file {sqlstr : Buffer}
    (other : sqlstr[0]? = some 117 ∨ sqlstr[0]? = some 100 ∨
      sqlstr[12]? = some 102) : ¬ Database.insertRecord <+: sqlstr := by
  rcases other with update | delete | insert
  · exact Database.other_statement 0 update (by decide) (by decide)
  · exact Database.other_statement 0 delete (by decide) (by decide)
  · exact Database.other_statement 12 insert (by decide) (by decide)

theorem parseTransfileAskRc_served {s s' : Connections ω} {fd : Fd}
    (type : (s.frame fd).header.type = 0x17)
    (parsed : s.parseTransfileAskRc env fd = .ok s') :
    Served env s fd s' := by
  unfold parseTransfileAskRc at parsed
  dsimp only at parsed
  split at parsed
  · cases parsed
    exact .unknown s fd (.refl s.db)
  · obtain ⟨_, _, rest⟩ := Exec.of_bind_ok parsed
    obtain ⟨dstUid, read, rest⟩ := Exec.of_bind_ok rest
    obtain ⟨uid, mine, rest⟩ := Exec.of_bind_ok rest
    obtain ⟨filesize, _, rest⟩ := Exec.of_bind_ok rest
    obtain ⟨target, found, rfl⟩ := pushTransfile_eq.mp rest
    exact .file (by simp [type, transfileTypes]) read mine found
      (Database.statement_queried (other_file (.inr (.inr rfl))))

theorem parseTransfileRepSc_served {s s' : Connections ω} {fd : Fd}
    (type : (s.frame fd).header.type = 0x18)
    (parsed : s.parseTransfileRepSc env fd = .ok s') :
    Served env s fd s' := by
  unfold parseTransfileRepSc at parsed
  dsimp only at parsed
  split at parsed
  · cases parsed
    exact .unknown s fd (.refl s.db)
  · obtain ⟨_, _, rest⟩ := Exec.of_bind_ok parsed
    obtain ⟨dstUid, read, rest⟩ := Exec.of_bind_ok rest
    obtain ⟨uid, mine, rest⟩ := Exec.of_bind_ok rest
    obtain ⟨target, found, rfl⟩ := pushTransfile_eq.mp rest
    refine .file (by simp [type, transfileTypes]) read mine found ?_
    split
    · exact Database.statement_queried (other_file (.inl rfl))
    · exact Database.statement_queried (other_file (.inr (.inl rfl)))

theorem parseTransfileData_served {s s' : Connections ω} {fd : Fd}
    (type : (s.frame fd).header.type = 0x19)
    (parsed : s.parseTransfileData fd = .ok s') :
    Served env s fd s' := by
  unfold parseTransfileData at parsed
  dsimp only at parsed
  split at parsed
  · cases parsed
    exact .unknown s fd (.refl s.db)
  · obtain ⟨dstUid, read, rest⟩ := Exec.of_bind_ok parsed
    obtain ⟨uid, mine, rest⟩ := Exec.of_bind_ok rest
    obtain ⟨target, found, rfl⟩ := pushTransfile_eq.mp rest
    exact @Served.file ω env s fd s.db uid dstUid target 0xA9
      (by simp [type, transfileTypes]) read mine found (.refl s.db)

theorem parseTransfileAck_served {s s' : Connections ω} {fd : Fd}
    (type : (s.frame fd).header.type = 0x1A)
    (parsed : s.parseTransfileAck env fd = .ok s') :
    Served env s fd s' := by
  unfold parseTransfileAck at parsed
  dsimp only at parsed
  split at parsed
  · cases parsed
    exact .unknown s fd (.refl s.db)
  · obtain ⟨_, _, rest⟩ := Exec.of_bind_ok parsed
    obtain ⟨dstUid, read, rest⟩ := Exec.of_bind_ok rest
    obtain ⟨uid, mine, rest⟩ := Exec.of_bind_ok rest
    obtain ⟨ui8cnt, _, rest⟩ := Exec.of_bind_ok rest
    obtain ⟨target, found, rfl⟩ := pushTransfile_eq.mp rest
    exact .file (by simp [type, transfileTypes]) read mine found
      (Database.statement_queried (other_file (.inl rfl)))

theorem parse_served {s s' : Connections ω} {fd : Fd}
    (parsed : s.parse env fd = .ok s') : Served env s fd s' := by
  unfold parse at parsed
  split at parsed
  · exact parseLogin_served ‹_› parsed
  · exact parseUsername_served ‹_› parsed
  · exact parseChatrecord_served ‹_› parsed
  · exact parseTextmsg_served ‹_› parsed
  · exact parseChangePwd_served ‹_› parsed
  · exact parseTransfileAskRc_served ‹_› parsed
  · exact parseTransfileRepSc_served ‹_› parsed
  · exact parseTransfileData_served ‹_› parsed
  · exact parseTransfileAck_served ‹_› parsed
  · cases parsed
    exact .unknown s fd (.refl s.db)

/-- What handling a frame queues is an answer to it, or of a type that no
answer has. -/
theorem Served.queued {s s' : Connections ω} {fd : Fd}
    (served : Served env s fd s') :
    ∃ l, Queued s s' l ∧ ∀ push ∈ l,
      push.1 = fd ∧
          push.2.header.type = (s.frame fd).header.type ||| 0x80 ∨
        push.2.header.type ∈
          ([0xA0, 0xA1, 0xA3, 0xA7, 0xA8, 0xA9, 0xAA] : List UInt8) := by
  cases served with
  | answer world queried made type failed =>
      refine ⟨_, Queued.of_push s world fd _, ?_⟩
      intro push member
      rw [List.mem_singleton.mp member]
      exact .inl ⟨rfl, type⟩
  | @history world uid myUid found type read mine queried searched =>
      refine ⟨_, Queued.of_push s found.world fd _, ?_⟩
      intro push member
      rw [List.mem_singleton.mp member, type]
      exact .inl ⟨rfl, rfl⟩
  | unsaved type read mine queried failed =>
      refine ⟨_, Queued.of_push s _ fd _, ?_⟩
      intro push member
      rw [List.mem_singleton.mp member]
      exact .inl ⟨rfl, rfl⟩
  | @text world uid dstUid exist online type read mine queried saved
      reach =>
      refine ⟨_, Queued.of_pushes s _ ((fd, textAnswer exist online) ::
        if online then (s.textTargets uid dstUid).map fun target =>
          (target, textMsg uid (s.frame fd)) else []), ?_⟩
      intro push member
      rcases List.mem_cons.mp member with rfl | member
      · rw [type]
        exact .inl ⟨rfl, rfl⟩
      · split at member
        · obtain ⟨target, _, rfl⟩ := List.mem_map.mp member
          exact .inr (by simp [textMsg])
        · cases member
  | @file world uid dstUid target type kind read mine found queried =>
      refine ⟨_, Queued.of_push s world target _, ?_⟩
      intro push member
      rw [List.mem_singleton.mp member]
      right
      simp only [transfileTypes, List.mem_cons, Prod.mk.injEq,
        List.not_mem_nil, or_false] at kind
      rcases kind with ⟨_, rfl⟩ | ⟨_, rfl⟩ | ⟨_, rfl⟩ | ⟨_, rfl⟩ <;>
        simp [transfileMsg]
  | login db type took listed queried =>
      obtain ⟨l, queued, told⟩ := login_told took listed
      refine ⟨l, queued, ?_⟩
      intro push member
      rw [type]
      rcases told push member with own | shutdown | online
      · exact .inl own
      · exact .inr (by simp [shutdown])
      · exact .inr (by simp [online])

end Connections

/-- What a step queues to a connection without handling a frame. -/
inductive Notice (s : State ω) : Step → Fd → Message → Prop
  | unknown {fd : Fd} {net : List ReadResult} (type : UInt8)
      (short : ((s.conns.conns fd).receive net).1 = .tooShort) :
      Notice s (.recvMsg fd net) fd (Connections.unknownMsg type)
  | offline {target fd : Fd} (uid : Uid) :
      Notice s (.closeConn target) fd (Connections.onlineMsg uid false)

def Queues (s s' : State ω) (fd : Fd) (msgs : List Message) : Prop :=
  (s'.conns.conns fd).history.pushed =
    (s.conns.conns fd).history.pushed ++ msgs

/-- A step hands over a frame on a connection, in this state. -/
def Handles (s : State ω) (step : Step) (fd : Fd) (conns : Connections ω) :
    Prop :=
  ∃ net, step = .recvMsg fd net ∧
    ((s.conns.conns fd).receive net).1 = .complete ∧
    conns = s.conns.setConn fd ((s.conns.conns fd).receive net).2

open Connections

theorem Queues.eq_nil {s s' : State ω} {fd : Fd} {msgs : List Message}
    (queues : Queues s s' fd msgs)
    (same : (s'.conns.conns fd).history.pushed =
      (s.conns.conns fd).history.pushed) : msgs = [] := by
  rw [Queues, same] at queues
  exact List.self_eq_append_right.mp queues

theorem Queues.eq_sentTo {s s' : State ω} {conns : Connections ω} {fd : Fd}
    {msgs : List Message} {l : List (Fd × Message)}
    (queues : Queues s s' fd msgs)
    (same : (conns.conns fd).history.pushed =
      (s.conns.conns fd).history.pushed)
    (queued : Queued conns s'.conns l) : msgs = sentTo fd l := by
  rw [Queues, queued.conns, Conn.pushAll_pushed, same] at queues
  exact (List.append_cancel_left queues).symm

theorem setConn_pushed {s : State ω} (reached : (machine env).Reachable s)
    (target fd : Fd) (net : List ReadResult) :
    ((s.conns.setConn target ((s.conns.conns target).receive net).2).conns
      fd).history.pushed = (s.conns.conns fd).history.pushed := by
  obtain ⟨reported, received⟩ := Conn.receive_received net
    (queues_invariant.holds reached target).receiving
  rw [setConn_conns]
  split
  · rename_i same
    rw [same, received.same.pushed]
  · rfl

/-- A step handles a frame, or leaves the database alone and queues notices
only. -/
theorem State.next_served {s s' : State ω} {step : Step}
    (reached : (machine env).Reachable s)
    (moved : s.next env step = .ok s') :
    (∃ fd conns, Handles s step fd conns ∧
        Served env conns fd s'.conns) ∨
      s'.conns.db = s.conns.db ∧ ∀ fd msgs, Queues s s' fd msgs →
        ∀ msg ∈ msgs, Notice s step fd msg := by
  cases step with
  | accept target =>
      cases moved
      refine .inr ⟨rfl, ?_⟩
      intro fd msgs queues msg member
      have none : msgs = [] := by
        by_cases same : fd = target
        · subst same
          have empty : [] = (s.conns.conns fd).history.pushed ++ msgs := by
            simpa [Queues, accepted] using queues
          exact (List.append_eq_nil_iff.mp empty.symm).2
        · exact queues.eq_nil (by simp [accepted, setConn_conns, same])
      rw [none] at member
      cases member
  | recvMsg target net =>
      obtain ⟨⟨keep, conns⟩, received, rest⟩ := Exec.of_bind_ok moved
      cases rest
      have same := fun fd => setConn_pushed reached target fd net
      obtain ⟨_, ⟨_, _, rfl⟩ | ⟨_, _, rfl⟩ | ⟨short, _, rfl⟩ | complete⟩ :=
        recvMsg_ok received
      · refine .inr ⟨rfl, ?_⟩
        intro fd msgs queues msg member
        rw [queues.eq_nil (same fd)] at member
        cases member
      · refine .inr ⟨rfl, ?_⟩
        intro fd msgs queues msg member
        rw [queues.eq_nil (same fd)] at member
        cases member
      · refine .inr ⟨rfl, ?_⟩
        intro fd msgs queues msg member
        rw [queues.eq_sentTo (same fd) (Queued.of_push _ s.conns.db target _),
          mem_sentTo, List.mem_singleton] at member
        cases member
        exact .unknown _ short
      · exact .inl ⟨target, _, ⟨net, rfl, complete.1, rfl⟩,
          parse_served complete.2.2⟩
  | sendMsg target net =>
      obtain ⟨⟨keep, conns⟩, sent, rest⟩ := Exec.of_bind_ok moved
      cases rest
      obtain ⟨_, _, _, outlet, conn, _, wrote, _, rfl⟩ := sendMsg_ok sent
      obtain ⟨reported, chunk, transmitted⟩ := Conn.transmit_transmitted wrote
      refine .inr ⟨rfl, ?_⟩
      intro fd msgs queues msg member
      have same : ((s.conns.setConn target conn).conns fd).history.pushed =
          (s.conns.conns fd).history.pushed := by
        rw [setConn_conns]
        split
        · rename_i here
          rw [here, transmitted.pushed]
        · rfl
      rw [queues.eq_nil same] at member
      cases member
  | closeConn target =>
      obtain ⟨conns, ended, rest⟩ := Exec.of_bind_ok moved
      cases rest
      have reset (after : Connections ω) (fd : Fd) :
          ((after.closed target).conns fd).history =
            (after.conns fd).history := by
        rw [closed, setConn_conns]
        split
        · rename_i here
          rw [here]
          rfl
        · rfl
      obtain ⟨_, ⟨_, rfl⟩ | ⟨uid, _, _, _, rfl⟩⟩ := closeConn_ok ended
      · refine .inr ⟨rfl, ?_⟩
        intro fd msgs queues msg member
        rw [queues.eq_nil (by rw [reset])] at member
        cases member
      · refine .inr ⟨by simp [closed, setConn, unbind], ?_⟩
        intro fd msgs queues msg member
        rw [Queues, reset, pushes_conns, Conn.pushAll_pushed] at queues
        rw [← List.append_cancel_left queues] at member
        rw [(mem_farewell member).1]
        exact .offline uid

theorem Handles.db {s : State ω} {step : Step} {fd : Fd}
    {conns : Connections ω} (handles : Handles s step fd conns) :
    conns.db = s.conns.db := by
  obtain ⟨net, _, _, rfl⟩ := handles
  rfl

theorem Handles.bindings {s : State ω} {step : Step} {fd : Fd}
    {conns : Connections ω} (handles : Handles s step fd conns) :
    conns.fdToUid = s.conns.fdToUid ∧ conns.uidToFd = s.conns.uidToFd := by
  obtain ⟨net, _, _, rfl⟩ := handles
  exact ⟨rfl, rfl⟩

theorem Handles.served {s s' : State ω} {step : Step} {fd : Fd}
    {conns : Connections ω} (handles : Handles s step fd conns)
    (moved : s.next env step = .ok s') : Served env conns fd s'.conns := by
  obtain ⟨net, rfl, complete, rfl⟩ := handles
  obtain ⟨⟨keep, after⟩, received, rest⟩ := Exec.of_bind_ok moved
  cases rest
  obtain ⟨_, closed | waiting | tooShort | parsed⟩ := recvMsg_ok received
  · rw [closed.1] at complete
    cases complete
  · rw [waiting.1] at complete
    cases complete
  · rw [tooShort.1] at complete
    cases complete
  · exact parse_served parsed.2.2

theorem Handles.pushed {s : State ω} {step : Step} {fd : Fd}
    {conns : Connections ω} (reached : (machine env).Reachable s)
    (handles : Handles s step fd conns) (other : Fd) :
    (conns.conns other).history.pushed =
      (s.conns.conns other).history.pushed := by
  obtain ⟨net, _, _, rfl⟩ := handles
  exact setConn_pushed reached fd other net

end GroupChat.Server
