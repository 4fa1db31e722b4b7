import GroupChat.Server.FileTable

namespace GroupChat.Server

/-! What a step asks of the table of transfers. -/

open Database (Everyday Unfiled everyday_unfiled)

variable {ω : Type} {env : Env ω} {among : Buffer → Prop}

namespace Connections

/-! The handlers that have nothing to do with files. -/

theorem parseLogin_asks {s s' : Connections ω} {fd : Fd}
    (selects : ∀ sqlstr : Buffer, sqlstr[0]? = some 115 → among sqlstr)
    (parsed : s.parseLogin env fd = .ok s') :
    Database.Asks env among s.db s'.db := by
  unfold parseLogin at parsed
  dsimp only at parsed
  split at parsed
  · cases parsed
    exact .refl s.db
  · obtain ⟨_, _, rest⟩ := Exec.of_bind_ok parsed
    obtain ⟨checked, login, rest⟩ := Exec.of_bind_ok rest
    have asked := Database.loginCheck_asks selects login
    split at rest
    · cases rest
      exact asked
    · obtain ⟨primaryColor, db, colored, decision⟩ := loginChecked_eq rest
      have same : ({ s with db := checked.world }.noteLogin fd checked.legal
          checked.uid).db = checked.world := by
        unfold noteLogin
        split <;> rfl
      rw [same] at colored
      have colors : Database.Asks env among checked.world db :=
        Database.numberOf_asks selects rfl colored
      rcases decision with refused | legal
      · obtain ⟨_, _, rfl⟩ := refused
        exact asked.trans colors
      · obtain ⟨_, subType, taken, took, _, _, listed⟩ := legal
        obtain ⟨_, _, db', _, _, _, _, _, all, _, _, _, _, rfl⟩ :=
          pushUserlist_eq listed
        have before : (taken.welcomed fd checked.uid subType
            primaryColor).db = db := by
          rw [welcomed, bind]
          simp only [pushes_db, push_db]
          exact takeover_db took
        rw [before] at all
        have lists : Database.Asks env among db db' :=
          Database.getAllUid_asks selects all
        have queried := (asked.trans colors).trans lists
        simpa using queried

theorem parseUsername_asks {s s' : Connections ω} {fd : Fd}
    (selects : ∀ sqlstr : Buffer, sqlstr[0]? = some 115 → among sqlstr)
    (parsed : s.parseUsername env fd = .ok s') :
    Database.Asks env among s.db s'.db := by
  unfold parseUsername at parsed
  dsimp only at parsed
  split at parsed
  · cases parsed
    exact .refl s.db
  · obtain ⟨_, _, rest⟩ := Exec.of_bind_ok parsed
    obtain ⟨uid, _, rest⟩ := Exec.of_bind_ok rest
    obtain ⟨checked, found, rest⟩ := Exec.of_bind_ok rest
    have asked := Database.checkUid_asks selects found
    split at rest
    · cases rest
      exact asked
    · split at rest
      · cases rest
        exact asked
      · cases rest
        exact asked

theorem parseChatrecord_asks {s s' : Connections ω} {fd : Fd}
    (selects : ∀ sqlstr : Buffer, sqlstr[0]? = some 115 → among sqlstr)
    (parsed : s.parseChatrecord env fd = .ok s') :
    Database.Asks env among s.db s'.db := by
  unfold parseChatrecord at parsed
  dsimp only at parsed
  split at parsed
  · cases parsed
    exact .refl s.db
  · obtain ⟨_, _, rest⟩ := Exec.of_bind_ok parsed
    obtain ⟨uid, _, rest⟩ := Exec.of_bind_ok rest
    obtain ⟨myUid, _, rest⟩ := Exec.of_bind_ok rest
    obtain ⟨checked, exists', rest⟩ := Exec.of_bind_ok rest
    have asked := Database.partyExists_asks selects exists'
    split at rest
    · cases rest
      exact asked
    · split at rest
      · obtain ⟨found, searched, rest⟩ := Exec.of_bind_ok rest
        have queried :=
          asked.trans (Database.serhMessage_asks selects searched)
        split at rest
        · cases rest
          exact queried
        · cases rest
          exact queried
      · cases rest
        exact asked

theorem parseTextmsg_asks {s s' : Connections ω} {fd : Fd}
    (selects : ∀ sqlstr : Buffer, sqlstr[0]? = some 115 → among sqlstr)
    (saves : ∀ sendid recvid time text,
      among (Database.saveMessageSql sendid recvid time text))
    (parsed : s.parseTextmsg env fd = .ok s') :
    Database.Asks env among s.db s'.db := by
  unfold parseTextmsg at parsed
  dsimp only at parsed
  split at parsed
  · cases parsed
    exact .refl s.db
  · obtain ⟨_, _, rest⟩ := Exec.of_bind_ok parsed
    obtain ⟨dstUid, _, rest⟩ := Exec.of_bind_ok rest
    obtain ⟨uid, _, rest⟩ := Exec.of_bind_ok rest
    obtain ⟨checked, exists', rest⟩ := Exec.of_bind_ok rest
    have asked := Database.partyExists_asks selects exists'
    split at rest
    · cases rest
      exact asked
    · have saved : Database.Asks env among checked.world
          (Database.saveMessage env checked.world (toSigned uid)
            (toSigned dstUid) ((s.frame fd).data.drop 4)).2 :=
        Database.statement_asks (saves _ _ _ _)
      have queried := asked.trans saved
      split at rest
      · cases rest
        exact queried
      · generalize (if (s.frame fd).header.subType = 0x00 then
          (s.uidToFd.lookup dstUid).isSome else true) = online at rest
        cases online with
        | false =>
            cases rest
            exact queried
        | true =>
            simp only [if_true, push_frame] at rest
            obtain ⟨_, rfl⟩ := pushTextmsg_eq.mp rest
            rw [pushes_db]
            exact queried

theorem parseChangePwd_asks {s s' : Connections ω} {fd : Fd}
    (everyday : Everyday among) (parsed : s.parseChangePwd env fd = .ok s') :
    Database.Asks env among s.db s'.db := by
  unfold parseChangePwd at parsed
  dsimp only at parsed
  split at parsed
  · cases parsed
    exact .refl s.db
  · obtain ⟨uid, _, rest⟩ := Exec.of_bind_ok parsed
    obtain ⟨_, _, rest⟩ := Exec.of_bind_ok rest
    obtain ⟨⟨ret, db⟩, updated, rest⟩ := Exec.of_bind_ok rest
    have asked : Database.Asks env among s.db db :=
      Database.updatePasswd_asks everyday updated
    cases rest
    exact asked

theorem parseTransfileData_db {s s' : Connections ω} {fd : Fd}
    (parsed : s.parseTransfileData fd = .ok s') : s'.db = s.db := by
  unfold parseTransfileData at parsed
  dsimp only at parsed
  split at parsed
  · cases parsed
    rfl
  · obtain ⟨dstUid, _, rest⟩ := Exec.of_bind_ok parsed
    obtain ⟨uid, _, rest⟩ := Exec.of_bind_ok rest
    obtain ⟨target, _, rfl⟩ := pushTransfile_eq.mp rest
    rfl

def fileOp (s : Connections ω) (fd : Fd) : Option FileOp :=
  let header := (s.frame fd).header
  let data := (s.frame fd).data
  match data.wordAt 0, s.myUid fd with
  | .ok dstUid, .ok myUid =>
      if header.type = 0x17 ∧ header.length.toNat = sizeofHeader + 76 then
        match data.wordAt 8 with
        | .ok filesize =>
            some (.request myUid dstUid filesize (fixedField data 12 64))
        | .error _ => none
      else if header.type = 0x18 ∧
          header.length.toNat = sizeofHeader + 8 then
        some (.respond (header.subType = 0x01) dstUid myUid)
      else if header.type = 0x1A ∧
          header.length.toNat = sizeofHeader + 12 then
        match data.wordAt 8 with
        | .ok ui8cnt => some (.acknowledge dstUid myUid ui8cnt)
        | .error _ => none
      else
        none
  | _, _ => none

theorem length_fixedField (data : Buffer) (offset width : Nat) :
    (fixedField data offset width).length ≤ width := by
  have field : ((data.drop offset).take width).length ≤ width :=
    List.length_take_le _ _
  unfold fixedField
  dsimp only
  split
  · exact field
  · exact (List.takeWhile_prefix _).length_le.trans field

theorem fileOp_fits {s : Connections ω} {fd : Fd} {op : FileOp}
    (asked : s.fileOp fd = some op) : op.Fits := by
  cases op with
  | request sendid recvid allsiz filename =>
      have name : filename = fixedField (s.frame fd).data 12 64 := by
        unfold fileOp at asked
        dsimp only at asked
        split at asked
        · split at asked
          · split at asked
            · cases asked
              rfl
            · cases asked
          · split at asked
            · cases asked
            · split at asked
              · split at asked <;> cases asked
              · cases asked
        · cases asked
      rw [name]
      exact (length_fixedField _ _ _).trans (by decide)
  | respond | acknowledge => trivial

theorem fileOp_none {s : Connections ω} {fd : Fd}
    (request : (s.frame fd).header.type = 0x17 →
      (s.frame fd).header.length.toNat ≠ sizeofHeader + 76)
    (respond : (s.frame fd).header.type = 0x18 →
      (s.frame fd).header.length.toNat ≠ sizeofHeader + 8)
    (acknowledge : (s.frame fd).header.type = 0x1A →
      (s.frame fd).header.length.toNat ≠ sizeofHeader + 12) :
    s.fileOp fd = none := by
  unfold fileOp
  dsimp only
  split
  · rw [if_neg fun both => request both.1 both.2,
      if_neg fun both => respond both.1 both.2,
      if_neg fun both => acknowledge both.1 both.2]
  · rfl

end Connections

/-- The world of the database server after a step: the statement about files
was sent to it, or others were. -/
inductive Filed (env : Env ω) (world : ω) : Option FileOp → ω → Prop
  | op (op : FileOp) : Filed env world (some op) (op.run env world).2
  | none {world' : ω} (asks : Database.Asks env Unfiled world world') :
      Filed env world none world'

namespace Connections

theorem parseTransfileAskRc_filed {s s' : Connections ω} {fd : Fd}
    (type : (s.frame fd).header.type = 0x17)
    (parsed : s.parseTransfileAskRc env fd = .ok s') :
    Filed env s.db (s.fileOp fd) s'.db := by
  unfold parseTransfileAskRc at parsed
  dsimp only at parsed
  split at parsed
  · rename_i length
    cases parsed
    rw [fileOp_none (fun _ => length) (by simp [type]) (by simp [type])]
    exact .none (.refl s.db)
  · rename_i length
    obtain ⟨_, _, rest⟩ := Exec.of_bind_ok parsed
    obtain ⟨dstUid, read, rest⟩ := Exec.of_bind_ok rest
    obtain ⟨uid, mine, rest⟩ := Exec.of_bind_ok rest
    obtain ⟨filesize, size, rest⟩ := Exec.of_bind_ok rest
    obtain ⟨target, _, rfl⟩ := pushTransfile_eq.mp rest
    have asked : s.fileOp fd = some (.request uid dstUid filesize
        (fixedField (s.frame fd).data 12 64)) := by
      simp only [fileOp, read, mine, size, type, not_not.mp length, and_self,
        if_true]
    rw [asked]
    exact .op _

theorem parseTransfileRepSc_filed {s s' : Connections ω} {fd : Fd}
    (type : (s.frame fd).header.type = 0x18)
    (parsed : s.parseTransfileRepSc env fd = .ok s') :
    Filed env s.db (s.fileOp fd) s'.db := by
  unfold parseTransfileRepSc at parsed
  dsimp only at parsed
  split at parsed
  · rename_i length
    cases parsed
    rw [fileOp_none (by simp [type]) (fun _ => length) (by simp [type])]
    exact .none (.refl s.db)
  · rename_i length
    obtain ⟨_, _, rest⟩ := Exec.of_bind_ok parsed
    obtain ⟨dstUid, read, rest⟩ := Exec.of_bind_ok rest
    obtain ⟨uid, mine, rest⟩ := Exec.of_bind_ok rest
    obtain ⟨target, _, rfl⟩ := pushTransfile_eq.mp rest
    have asked : s.fileOp fd = some (.respond
        ((s.frame fd).header.subType = 0x01) dstUid uid) := by
      have other : ¬ (0x18 : UInt8) = 0x17 := by decide
      simp only [fileOp, read, mine, type, not_not.mp length, other,
        false_and, and_self, if_false, if_true]
    rw [asked, push_db]
    dsimp only
    split
    · rename_i accepted
      rw [decide_eq_true accepted]
      exact .op _
    · rename_i refused
      rw [decide_eq_false refused]
      exact .op _

theorem parseTransfileAck_filed {s s' : Connections ω} {fd : Fd}
    (type : (s.frame fd).header.type = 0x1A)
    (parsed : s.parseTransfileAck env fd = .ok s') :
    Filed env s.db (s.fileOp fd) s'.db := by
  unfold parseTransfileAck at parsed
  dsimp only at parsed
  split at parsed
  · rename_i length
    cases parsed
    rw [fileOp_none (by simp [type]) (by simp [type]) (fun _ => length)]
    exact .none (.refl s.db)
  · rename_i length
    obtain ⟨_, _, rest⟩ := Exec.of_bind_ok parsed
    obtain ⟨dstUid, read, rest⟩ := Exec.of_bind_ok rest
    obtain ⟨uid, mine, rest⟩ := Exec.of_bind_ok rest
    obtain ⟨ui8cnt, count, rest⟩ := Exec.of_bind_ok rest
    obtain ⟨target, _, rfl⟩ := pushTransfile_eq.mp rest
    have asked : s.fileOp fd = some (.acknowledge dstUid uid ui8cnt) := by
      have request : ¬ (0x1A : UInt8) = 0x17 := by decide
      have respond : ¬ (0x1A : UInt8) = 0x18 := by decide
      simp only [fileOp, read, mine, count, type, not_not.mp length, request,
        respond, false_and, and_self, if_false, if_true]
    rw [asked]
    exact .op _

theorem parse_filed {s s' : Connections ω} {fd : Fd}
    (parsed : s.parse env fd = .ok s') :
    Filed env s.db (s.fileOp fd) s'.db := by
  have other (asks : Database.Asks env Unfiled s.db s'.db)
      (request : (s.frame fd).header.type ≠ 0x17)
      (respond : (s.frame fd).header.type ≠ 0x18)
      (acknowledge : (s.frame fd).header.type ≠ 0x1A) :
      Filed env s.db (s.fileOp fd) s'.db := by
    rw [fileOp_none (fun type => absurd type request)
      (fun type => absurd type respond)
      (fun type => absurd type acknowledge)]
    exact .none asks
  unfold parse at parsed
  split at parsed
  · rename_i type
    exact other (parseLogin_asks everyday_unfiled.select parsed)
      (by simp [type]) (by simp [type]) (by simp [type])
  · rename_i type
    exact other (parseUsername_asks everyday_unfiled.select parsed)
      (by simp [type]) (by simp [type]) (by simp [type])
  · rename_i type
    exact other (parseChatrecord_asks everyday_unfiled.select parsed)
      (by simp [type]) (by simp [type]) (by simp [type])
  · rename_i type
    exact other (parseTextmsg_asks everyday_unfiled.select
      Database.saveMessage_unfiled parsed) (by simp [type]) (by simp [type])
      (by simp [type])
  · rename_i type
    exact other (parseChangePwd_asks everyday_unfiled parsed)
      (by simp [type]) (by simp [type]) (by simp [type])
  · exact parseTransfileAskRc_filed ‹_› parsed
  · exact parseTransfileRepSc_filed ‹_› parsed
  · rename_i type
    refine other ?_ (by simp [type]) (by simp [type]) (by simp [type])
    rw [parseTransfileData_db parsed]
    exact .refl s.db
  · exact parseTransfileAck_filed ‹_› parsed
  · rename_i request respond _ acknowledge
    cases parsed
    exact other (.refl s.db) request respond acknowledge

end Connections

namespace State

def fileOp (s : State ω) : Step → Option FileOp
  | .recvMsg fd net =>
      if ((s.conns.conns fd).receive net).1 = .complete then
        (s.conns.setConn fd ((s.conns.conns fd).receive net).2).fileOp fd
      else
        none
  | .accept _ | .sendMsg _ _ | .closeConn _ => none

theorem fileOp_fits {s : State ω} {step : Step} {op : FileOp}
    (asked : s.fileOp step = some op) : op.Fits := by
  cases step with
  | recvMsg fd net =>
      rw [fileOp] at asked
      split at asked
      · exact Connections.fileOp_fits asked
      · cases asked
  | accept | sendMsg | closeConn => cases asked

theorem next_filed {s s' : State ω} {step : Step}
    (moved : s.next env step = .ok s') :
    Filed env s.conns.db (s.fileOp step) s'.conns.db := by
  cases step with
  | accept target =>
      cases moved
      exact .none (.refl _)
  | recvMsg target net =>
      obtain ⟨⟨keep, conns⟩, received, rest⟩ := Exec.of_bind_ok moved
      cases rest
      obtain ⟨_, ⟨closed, _, rfl⟩ | ⟨waiting, _, rfl⟩ | ⟨short, _, rfl⟩ |
        ⟨complete, _, parsed⟩⟩ := Connections.recvMsg_ok received
      · rw [fileOp, closed]
        exact .none (.refl _)
      · rw [fileOp, waiting]
        exact .none (.refl _)
      · rw [fileOp, short]
        exact .none (.refl _)
      · rw [fileOp, if_pos complete]
        exact Connections.parse_filed parsed
  | sendMsg target net =>
      obtain ⟨⟨keep, conns⟩, sent, rest⟩ := Exec.of_bind_ok moved
      cases rest
      obtain ⟨_, _, _, outlet, conn, _, wrote, _, rfl⟩ :=
        Connections.sendMsg_ok sent
      exact .none (.refl _)
  | closeConn target =>
      obtain ⟨conns, ended, rest⟩ := Exec.of_bind_ok moved
      cases rest
      obtain ⟨_, ⟨_, rfl⟩ | ⟨uid, _, _, _, rfl⟩⟩ :=
        Connections.closeConn_ok ended
      · exact .none (.refl _)
      · simp only [Connections.closed, Connections.setConn,
          Connections.pushes_db]
        exact .none (.refl _)

theorem next_op {s s' : State ω} {step : Step} {op : FileOp}
    (moved : s.next env step = .ok s') (asked : s.fileOp step = some op) :
    s'.conns.db = (op.run env s.conns.db).2 := by
  have filed := next_filed moved
  rw [asked] at filed
  generalize s'.conns.db = world at filed ⊢
  cases filed with
  | op => rfl

end State

namespace FileTable

abbrev rowsOf (table : FileTable env) (s : State ω) : List FileRow :=
  table.rows s.conns.db

theorem rows_idle (table : FileTable env) {s s' : State ω} {step : Step}
    (moved : s.next env step = .ok s') (idle : s.fileOp step = none) :
    table.rowsOf s' = table.rowsOf s := by
  have filed := State.next_filed moved
  rw [idle] at filed
  cases filed with
  | none asks => exact table.rows_asks asks

/-- A step that asks something of it changes it as the statement says, if the
statement succeeds. -/
theorem rows_changed (table : FileTable env) {s s' : State ω} {step : Step}
    {op : FileOp} (moved : s.next env step = .ok s')
    (asked : s.fileOp step = some op) :
    (op.Succeeds env s.conns.db →
      op.Changes (table.rowsOf s) (table.rowsOf s')) ∧
    (¬ op.Succeeds env s.conns.db →
      table.rowsOf s' = table.rowsOf s) := by
  rw [rowsOf, rowsOf, State.next_op moved asked]
  exact table.rows_run s.conns.db op

end FileTable

end GroupChat.Server
