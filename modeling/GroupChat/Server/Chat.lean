import GroupChat.Lib.Refinement
import GroupChat.Server.WholeStore

namespace GroupChat.Server

/-! The server with its database is the service it is for. -/

open Connections
open Database (mysqlQuery updatePasswdSql)

variable {ω : Type} {env : Env ω} {store : Store env}

namespace Connections

variable {s s' : Connections ω} {fd : Fd}

theorem fileOp_type {op : FileOp} (asked : s.fileOp fd = some op) :
    (s.frame fd).header.type = 0x17 ∨ (s.frame fd).header.type = 0x18 ∨
      (s.frame fd).header.type = 0x1A := by
  apply Decidable.byContradiction
  intro other
  have none : s.fileOp fd = none :=
    fileOp_none (fun type => absurd (.inl type) other)
      (fun type => absurd (.inr (.inl type)) other)
      (fun type => absurd (.inr (.inr type)) other)
  rw [none] at asked
  cases asked

theorem parse_runs {op : FileOp} (asked : s.fileOp fd = some op)
    (parsed : s.parse env fd = .ok s') :
    s.myUid fd = .ok op.actor ∧
      (s.uidToFd.lookup op.partner).isSome = true ∧
      s'.db = (op.run env s.db).2 := by
  have runs : RunsFileOp env s s' fd := by
    rcases fileOp_type asked with type | type | type
    · simp only [parse, type] at parsed
      exact parseTransfileAskRc_runs type parsed
    · simp only [parse, type] at parsed
      exact parseTransfileRepSc_runs type parsed
    · simp only [parse, type] at parsed
      exact parseTransfileAck_runs type parsed
  rcases runs with ⟨idle, _⟩ | ⟨op', asked', mine, there, ran⟩
  · rw [asked] at idle
    cases idle
  · rw [asked] at asked'
    cases asked'
    exact ⟨mine, there, ran⟩

theorem parse_text_saved {uid dstUid : Uid} {checked : Database.CheckUid ω}
    (type : (s.frame fd).header.type = 0x13) (shape : TextShape (s.frame fd))
    (read : (s.frame fd).data.wordAt 0 = .ok dstUid)
    (mine : s.myUid fd = .ok uid)
    (found : s.party env (s.frame fd) dstUid = .ok checked)
    (answered : 0 ≤ checked.ret)
    (done : 0 ≤ (saved env checked.world (s.frame fd) uid dstUid).1)
    (parsed : s.parse env fd = .ok s') :
    s' = ({ s with
        db := (saved env checked.world (s.frame fd) uid dstUid).2 }.push fd
          (textAnswer checked.exist (s.reaches (s.frame fd) dstUid))).pushes
      (if s.reaches (s.frame fd) dstUid then
        (s.textTargets uid dstUid).map fun target =>
          (target, textMsg uid (s.frame fd))
      else []) := by
  obtain ⟨size, _⟩ := parse_text_reads type shape parsed
  have handled := parsed.symm.trans
    (parse_text type shape size read mine found)
  rw [if_neg (Int.not_lt.mpr answered)] at handled
  dsimp only at handled
  rw [if_neg (Int.not_lt.mpr done)] at handled
  split at handled
  next there =>
    rw [if_pos there]
    exact (pushTextmsg_eq.mp handled.symm).2
  next away =>
    rw [if_neg away]
    exact Except.ok.inj handled

/-- The ids noted on a connection once a login frame was handled: that of a
legal login is new. -/
theorem parseLogin_logins (type : (s.frame fd).header.type = 0x10)
    (parsed : s.parseLogin env fd = .ok s') :
    s'.logins = s.logins ∧ (∀ checked, s.LoginFrame fd →
        Database.loginCheck env s.db (fixedField (s.frame fd).data 0 28)
          (fixedField (s.frame fd).data 28 28) false true 0 = .ok checked →
        0 ≤ checked.ret → checked.legal = false) ∨
      ∃ checked, s.LoginFrame fd ∧
        Database.loginCheck env s.db (fixedField (s.frame fd).data 0 28)
          (fixedField (s.frame fd).data 28 28) false true 0 = .ok checked ∧
        0 ≤ checked.ret ∧ checked.legal = true ∧
        s'.logins fd = s.logins fd ++ [checked.uid] := by
  unfold parseLogin at parsed
  dsimp only at parsed
  split at parsed
  next refused =>
    cases parsed
    refine .inl ⟨rfl, ?_⟩
    intro checked login
    exact absurd refused (not_or.mpr
      ⟨not_not.mpr login.kind, not_not.mpr login.size⟩)
  next accepted =>
    obtain ⟨kind, size⟩ := not_or.mp accepted
    obtain ⟨_, data, rest⟩ := Exec.of_bind_ok parsed
    obtain ⟨checked, credentials, rest⟩ := Exec.of_bind_ok rest
    have login : s.LoginFrame fd := ⟨type, not_not.mp kind, not_not.mp size,
      Exec.require_eq_ok.mp data⟩
    split at rest
    next failed =>
      cases rest
      refine .inl ⟨rfl, ?_⟩
      intro checked' _ credentials' answered
      cases credentials.symm.trans credentials'
      omega
    next answered =>
      have answered : 0 ≤ checked.ret := Int.not_lt.mp answered
      obtain ⟨primaryColor, db, _, refused | welcomed⟩ := loginChecked_eq rest
      · obtain ⟨illegal, _, rfl⟩ := refused
        refine .inl ⟨?_, ?_⟩
        · simp [noteLogin, illegal]
        · intro checked' _ credentials' _
          cases credentials.symm.trans credentials'
          exact illegal
      · obtain ⟨legal, subType, taken, took, _, _, listed⟩ := welcomed
        refine .inr ⟨checked, login, credentials, answered, legal, ?_⟩
        rw [(pushUserlist_bindings listed).logins]
        simp only [Connections.welcomed, Connections.bind, pushes_logins,
          push_logins, (takeover_vacated took).2, noteLogin, legal, if_true,
          Function.update_self]

theorem Binds.users {uid : Uid} (inverse : FinMap.Inverse s.fdToUid s.uidToFd)
    (binds : Binds env s s' fd uid) :
    (∀ other, s.uidToFd.lookup other = some fd → other = uid) ∧
      ∀ other, s'.uidToFd.lookup other =
        if other = uid then some fd else s.uidToFd.lookup other := by
  obtain ⟨_, ⟨forward, backward, vacated, free, _, _, after⟩, _⟩ := binds
  constructor
  · intro other there
    have bound := (inverse fd other).mpr there
    cases vacated with
    | already =>
        rw [bound] at free
        cases free
    | @taken owner found back =>
        rw [FinMap.lookup_erase_eq] at free
        split at free
        next same =>
          rw [same, back] at bound
          exact (Option.some.inj bound).symm
        next =>
          rw [bound] at free
          cases free
  · intro other
    rw [after, FinMap.lookup_insert_eq]
    cases same : decide (other = uid) with
    | true =>
        have here := of_decide_eq_true same
        rw [if_pos here, if_pos here]
    | false =>
        have away := of_decide_eq_false same
        rw [if_neg away, if_neg away]
        cases vacated with
        | already => rfl
        | taken found back => rw [FinMap.lookup_erase_eq, if_neg away]

end Connections

namespace Store

variable {s s' : Connections ω} {fd : Fd}

/-- The texts in a frame are of the character set, unless the frame is refused
for its shape. -/
structure PlainFrame (charset : Charset) (s : Connections ω) (fd : Fd) :
    Prop where
  text : LegibleFrame charset (s.frame fd)
  name : ∀ op ∈ s.fileOp fd, op.Contained charset

instance (charset : Charset) (s : Connections ω) (fd : Fd) :
    Decidable (PlainFrame charset s fd) :=
  decidable_of_iff (LegibleFrame charset (s.frame fd) ∧
    ∀ op ∈ s.fileOp fd, op.Contained charset)
    ⟨fun both => ⟨both.1, both.2⟩, fun plain => ⟨plain.text, plain.name⟩⟩

theorem online_of_mine {uid : Uid} (mine : s.myUid fd = .ok uid) :
    ((store.service s).online uid).isSome = true := by
  obtain ⟨_, back⟩ := myUid_eq.mp mine
  exact Option.isSome_iff_exists.mpr ⟨fd, back⟩

theorem same_users (served : Served env s fd s')
    (other : (s.frame fd).header.type ≠ 0x10) :
    (store.service s').online = (store.service s).online := by
  have users := served.sameUsers other
  simp only [service, users]

/-- What the deed of a frame was given for, by the type of the frame. -/
theorem FrameDeed.of_login {deed : Deed}
    (type : (s.frame fd).header.type = 0x10)
    (asks : FrameDeed env s fd deed) :
    ∃ checked, s.LoginFrame fd ∧
      Database.loginCheck env s.db (fixedField (s.frame fd).data 0 28)
        (fixedField (s.frame fd).data 28 28) false true 0 = .ok checked ∧
      0 ≤ checked.ret ∧ checked.legal = true := by
  cases asks with
  | login login credentials answered legal =>
      exact ⟨_, login, credentials, answered, legal⟩
  | write type' => exact absurd (type.symm.trans type') (by decide)
  | change type' => exact absurd (type.symm.trans type') (by decide)
  | file asked =>
      have types := fileOp_type asked
      rw [type] at types
      exact absurd types (by decide)

theorem FrameDeed.of_write {deed : Deed}
    (type : (s.frame fd).header.type = 0x13)
    (asks : FrameDeed env s fd deed) :
    TextShape (s.frame fd) ∧ ∃ uid dstUid checked,
      (s.frame fd).data.wordAt 0 = .ok dstUid ∧ s.myUid fd = .ok uid ∧
      s.party env (s.frame fd) dstUid = .ok checked ∧ 0 ≤ checked.ret ∧
      0 ≤ (saved env checked.world (s.frame fd) uid dstUid).1 := by
  cases asks with
  | login login => exact absurd (type.symm.trans login.type) (by decide)
  | write type' shape read mine found answered saved =>
      exact ⟨shape, _, _, _, read, mine, found, answered, saved⟩
  | change type' => exact absurd (type.symm.trans type') (by decide)
  | file asked =>
      have types := fileOp_type asked
      rw [type] at types
      exact absurd types (by decide)

theorem FrameDeed.of_change {deed : Deed}
    (type : (s.frame fd).header.type = 0x15)
    (asks : FrameDeed env s fd deed) :
    (s.frame fd).header.subType = 0x00 ∧
      (s.frame fd).header.length.toNat = sizeofHeader + 56 ∧
      fixedField (s.frame fd).data 28 28 ≠
        fixedField (s.frame fd).data 0 28 ∧
      ∃ uid, s.myUid fd = .ok uid ∧
        Passes env s.db (toSigned uid)
          (fixedField (s.frame fd).data 0 28) ∧
        (mysqlQuery env (changing env s.db (toSigned uid)
          (fixedField (s.frame fd).data 0 28)) (updatePasswdSql (toSigned uid)
            (MD5.hexdigest (fixedField (s.frame fd).data 28 28)))).1 ≠
              .failed := by
  cases asks with
  | login login => exact absurd (type.symm.trans login.type) (by decide)
  | write type' => exact absurd (type.symm.trans type') (by decide)
  | change type' kind size mine passes different updated =>
      exact ⟨kind, size, different, _, mine, passes, updated⟩
  | file asked =>
      have types := fileOp_type asked
      rw [type] at types
      exact absurd types (by decide)

theorem FrameDeed.of_file {op : FileOp} {deed : Deed}
    (asked : s.fileOp fd = some op) (asks : FrameDeed env s fd deed) :
    op.Succeeds env s.db := by
  have types := fileOp_type asked
  cases asks with
  | login login =>
      rw [login.type] at types
      exact absurd types (by decide)
  | write type =>
      rw [type] at types
      exact absurd types (by decide)
  | change type =>
      rw [type] at types
      exact absurd types (by decide)
  | file asked' mine succeeds =>
      cases asked.symm.trans asked'
      exact succeeds

theorem login_does (inverse : FinMap.Inverse s.fdToUid s.uidToFd)
    (type : (s.frame fd).header.type = 0x10)
    (parsed : s.parse env fd = .ok s') : store.Does s s' fd := by
  have idle : s.fileOp fd = none :=
    fileOp_none (by simp [type]) (by simp [type]) (by simp [type])
  have records := store.records_kept (parse_served parsed) (by simp [type])
  have accounts := store.accounts_kept parsed (by simp [type])
  have files := store.files_kept parsed idle
  have login : s.parse env fd = s.parseLogin env fd := by
    simp only [parse, type]
  have noted := parseLogin_logins type (login.symm.trans parsed)
  rcases (parse_handled parsed).bindings with same | ⟨uid, binds⟩
  · rcases noted with ⟨_, illegal⟩ | ⟨checked, _, _, _, _, added⟩
    · refine .inl ⟨Service.ext ?_ records accounts files, ?_⟩
      · simp only [service, same.uidToFd]
      · intro deed asks
        obtain ⟨_, login, credentials, answered, legal⟩ := asks.of_login type
        rw [illegal _ login credentials answered] at legal
        cases legal
    · rw [same.logins] at added
      exact absurd added (by simp)
  · have logins := binds.logins
    rcases noted with ⟨kept, _⟩ |
      ⟨checked, login, credentials, answered, legal, added⟩
    · have same := congrFun (kept.symm.trans logins) fd
      rw [Function.update_self] at same
      exact absurd same (by simp)
    · rw [logins, Function.update_self] at added
      have own := List.singleton_inj.mp (List.append_cancel_left added)
      subst own
      obtain ⟨free, users⟩ := binds.users inverse
      refine .inr ⟨.login checked.uid fd,
        .login login credentials answered legal, free,
        Service.ext ?_ records accounts files⟩
      funext other
      simp only [service, Service.next, Function.update_apply]
      exact users other

/-- A text is stored, unless it is refused for its shape, or its other side
cannot be asked for, or the insert fails. -/
theorem write_does (type : (s.frame fd).header.type = 0x13)
    (legible : LegibleFrame store.charset (s.frame fd))
    (parsed : s.parse env fd = .ok s') : store.Does s s' fd := by
  have idle : s.fileOp fd = none :=
    fileOp_none (by simp [type]) (by simp [type]) (by simp [type])
  have users := @same_users ω env store _ _ _ (parse_served parsed)
    (by simp [type])
  have accounts := store.accounts_kept parsed (by simp [type])
  have files := store.files_kept parsed idle
  by_cases shape : TextShape (s.frame fd)
  case neg =>
    cases parsed.symm.trans (parse_misshapenText type shape)
    exact .inl ⟨Service.ext users rfl accounts files,
      fun deed asks => shape (asks.of_write type).1⟩
  case pos =>
    obtain ⟨size, dstUid, read, uid, checked, mine, found⟩ :=
      parse_text_reads type shape parsed
    have handled := parsed.symm.trans
      (parse_text type shape size read mine found)
    have known : store.records.rows checked.world =
        store.records.rows s.db :=
      store.records.rows_queried (Database.partyExists_queried found)
    have rows := RecordTable.rows_saved store.recorded checked.world
      (toSigned_inInt uid) (toSigned_inInt dstUid) (legible type shape)
      (shape.text_length size)
    rw [known] at rows
    split at handled
    next failed =>
      cases handled
      refine .inl ⟨Service.ext users known accounts files, ?_⟩
      intro deed asks
      obtain ⟨_, _, _, _, read', mine', found', answered, _⟩ :=
        asks.of_write type
      cases read.symm.trans read'
      cases mine.symm.trans mine'
      cases found.symm.trans found'
      omega
    next answered =>
      have answered : 0 ≤ checked.ret := Int.not_lt.mp answered
      dsimp only at handled
      split at handled
      next failed =>
        cases handled
        refine .inl ⟨Service.ext users ?_ accounts files, ?_⟩
        · exact rows.trans (if_pos failed)
        · intro deed asks
          obtain ⟨_, _, _, _, read', mine', found', _, saved⟩ :=
            asks.of_write type
          cases read.symm.trans read'
          cases mine.symm.trans mine'
          cases found.symm.trans found'
          omega
      next saved =>
        have written := rows.trans (if_neg saved)
        have saved := Int.not_lt.mp saved
        have after := parse_text_saved type shape read mine found answered
          saved parsed
        refine .inr ⟨_, .write type shape read mine found answered saved,
          ⟨online_of_mine mine, ?_⟩, Service.ext users ?_ accounts files⟩
        · intro partner none
          cases none
        · change store.records.rows s'.db = _
          rw [after, pushes_db, push_db]
          exact written

/-- A password is changed, if the frame has the shape of a change, the old one
is right, the new one is another and the update succeeds. -/
theorem change_does (type : (s.frame fd).header.type = 0x15)
    (parsed : s.parse env fd = .ok s') : store.Does s s' fd := by
  have idle : s.fileOp fd = none :=
    fileOp_none (by simp [type]) (by simp [type]) (by simp [type])
  have served := parse_served parsed
  have users := @same_users ω env store _ _ _ served (by simp [type])
  have records := store.records_kept served (by simp [type])
  have files := store.files_kept parsed idle
  simp only [parse, type] at parsed
  unfold parseChangePwd at parsed
  dsimp only at parsed
  split at parsed
  next refused =>
    cases parsed
    refine .inl ⟨Service.ext users records rfl files, ?_⟩
    intro deed asks
    obtain ⟨kind, size, _⟩ := asks.of_change type
    exact absurd refused (not_or.mpr ⟨not_not.mpr kind, not_not.mpr size⟩)
  next accepted =>
    obtain ⟨kind, size⟩ := not_or.mp accepted
    obtain ⟨uid, mine, rest⟩ := Exec.of_bind_ok parsed
    obtain ⟨_, _, rest⟩ := Exec.of_bind_ok rest
    obtain ⟨⟨ret, db⟩, updated, rest⟩ := Exec.of_bind_ok rest
    cases rest
    obtain ⟨found, login, named, checked, ended⟩ := updatePasswd_ok updated
    have before : store.accounts.rows login.world =
        store.accounts.rows s.db :=
      (store.accounts.rows_loginCheck checked).trans
        (store.accounts.rows_checkUid named)
    obtain ⟨passes, asked⟩ := passes_iff named checked
    -- The deed would be that of this user, with this verdict.
    have own {deed : Deed} (asks : FrameDeed env s fd deed) :
        login.legal = true ∧ fixedField (s.frame fd).data 28 28 ≠
          fixedField (s.frame fd).data 0 28 ∧
        (mysqlQuery env login.world (updatePasswdSql (toSigned uid)
          (MD5.hexdigest (fixedField (s.frame fd).data 28 28)))).1 ≠
            .failed := by
      obtain ⟨_, _, different, _, mine', passed, done⟩ := asks.of_change type
      cases mine.symm.trans mine'
      have legal := passes.mp passed
      rw [← asked legal] at done
      exact ⟨legal, different, done⟩
    split at ended
    next goes =>
      have wrote := store.accounts.updated login.world uid
        (fixedField (s.frame fd).data 28 28)
      rw [writing_eq, ← ended.1, before] at wrote
      split at wrote
      next failed =>
        exact .inl ⟨Service.ext users records wrote files,
          fun deed asks => (own asks).2.2 failed⟩
      next done =>
        rw [asked goes.1] at done
        refine .inr ⟨_, .change type (not_not.mp kind) (not_not.mp size) mine
          (passes.mpr goes.1) goes.2 done, ⟨online_of_mine mine, ?_⟩,
            Service.ext users records wrote files⟩
        intro partner none
        cases none
    next stays =>
      have same : store.accounts.rows db = store.accounts.rows s.db := by
        rw [ended.1, before]
      exact .inl ⟨Service.ext users records same files,
        fun deed asks => stays ⟨(own asks).1, (own asks).2.1⟩⟩

theorem file_does {op : FileOp} (asked : s.fileOp fd = some op)
    (contained : op.Contained store.charset)
    (parsed : s.parse env fd = .ok s') : store.Does s s' fd := by
  have types := fileOp_type asked
  have served := parse_served parsed
  have users := @same_users ω env store _ _ _ served
    (by rcases types with type | type | type <;> simp [type])
  have records := store.records_kept served
    (by rcases types with type | type | type <;> simp [type])
  have accounts := store.accounts_kept parsed
    (by rcases types with type | type | type <;> simp [type])
  obtain ⟨mine, there, ran⟩ := parse_runs asked parsed
  obtain ⟨done, failed⟩ := store.files.rows_run s.db op
  rw [← ran] at done failed
  cases succeeds : decide (op.Succeeds env s.db) with
  | false =>
      have fails := of_decide_eq_false succeeds
      exact .inl ⟨Service.ext users records accounts (failed fails),
        fun deed asks => fails (asks.of_file asked)⟩
  | true =>
      have succeeded := of_decide_eq_true succeeds
      have online := @online_of_mine ω env store _ _ _ mine
      cases op with
      | request sendid recvid allsiz filename =>
          obtain ⟨tid, rows⟩ := FileTable.rows_requested store.offered s.db
            contained (fileOp_fits asked) succeeded
          refine .inr ⟨_, .file asked mine succeeded (.offer tid),
            ⟨online, ?_⟩, Service.ext users records accounts ?_⟩
          · intro partner same
            cases same
            exact there
          · change store.files.rows s'.db = _
            rw [ran]
            exact rows
      | respond accepted sendid recvid =>
          have possible : (store.service s).Possible
              (.answer recvid sendid accepted) := by
            refine ⟨online, ?_⟩
            intro partner same
            cases same
            exact there
          refine .inr ⟨_, .file asked mine succeeded
            (.answer accepted sendid recvid),
            possible, ?_⟩
          cases accepted with
          | true =>
              exact Service.ext users records accounts (done succeeded)
          | false =>
              exact Service.ext users records accounts (done succeeded)
      | acknowledge sendid recvid siz =>
          refine .inr ⟨_, .file asked mine succeeded (.count sendid recvid siz),
            ⟨online, ?_⟩, Service.ext users records accounts
              (done succeeded)⟩
          intro partner same
          cases same
          exact there

/-- Handling a frame does at most one deed of the user it came from. -/
theorem parse_does (inverse : FinMap.Inverse s.fdToUid s.uidToFd)
    (plain : PlainFrame store.charset s fd) (parsed : s.parse env fd = .ok s') :
    store.Does s s' fd := by
  cases asked : s.fileOp fd with
  | some op => exact file_does asked (plain.name op asked) parsed
  | none =>
      cases login : decide ((s.frame fd).header.type = 0x10) with
      | true => exact login_does inverse (of_decide_eq_true login) parsed
      | false =>
          cases text : decide ((s.frame fd).header.type = 0x13) with
          | true =>
              exact write_does (of_decide_eq_true text) plain.text parsed
          | false =>
              cases passwd : decide ((s.frame fd).header.type = 0x15) with
              | true => exact change_does (of_decide_eq_true passwd) parsed
              | false =>
                  have served := parse_served parsed
                  refine .inl ⟨Service.ext
                    (same_users served (of_decide_eq_false login))
                    (store.records_kept served (of_decide_eq_false text))
                    (store.accounts_kept parsed (of_decide_eq_false passwd))
                    (store.files_kept parsed asked), ?_⟩
                  intro deed asks
                  cases asks with
                  | login login' =>
                      exact of_decide_eq_false login login'.type
                  | write type => exact of_decide_eq_false text type
                  | change type => exact of_decide_eq_false passwd type
                  | file asked' =>
                      rw [asked] at asked'
                      cases asked'

/-- A step hands over plain frames only. -/
def Plain (charset : Charset) (s : State ω) : Step → Prop
  | .recvMsg fd net => ((s.conns.conns fd).receive net).1 = .complete →
      PlainFrame charset
        (s.conns.setConn fd ((s.conns.conns fd).receive net).2) fd
  | .accept _ | .sendMsg _ _ | .closeConn _ => True

instance (charset : Charset) (s : State ω) :
    DecidablePred (Plain charset s) :=
  fun step =>
    match step with
    | .recvMsg _ _ => inferInstanceAs (Decidable (_ = _ → _))
    | .accept _ | .sendMsg _ _ | .closeConn _ =>
        inferInstanceAs (Decidable True)

/-- The deed that a step does: the one of the frame it hands over, or that the
user of the connection leaves. -/
def Means (env : Env ω) (s : State ω) (step : Step) (deed : Deed) : Prop :=
  (∃ fd conns, Handles s step fd conns ∧ FrameDeed env conns fd deed) ∨
    ∃ fd uid, step = .closeConn fd ∧ s.conns.fdToUid.lookup fd = some uid ∧
      deed = .leave uid

end Store

/-- The runs in which every text that is put into a statement is one of the
character set of the connection. -/
def plainly (store : Store env) : Machine (State ω) Step :=
  (machine env).restrict (Store.Plain store.charset)

instance (store : Store env) (s : State ω) :
    DecidablePred ((plainly store).enabled s) :=
  fun step =>
    inferInstanceAs (Decidable (s.Enabled step ∧ Store.Plain _ s step))

/-- Whatever the server does, over any interleaving of its connections, is the
work of the service: each step does at most one deed, which was possible, of
the user whose frame it handles or whose connection it closes. -/
theorem server_refines (env : Env ω) (store : Store env) :
    (plainly store).Refines service (fun s => store.service s.conns)
      (Store.Means env) where
  start := by
    rintro _ ⟨db, size, rfl⟩ uid
    rfl
  step := by
    intro before step after reached allowed moved
    have kept := sessions_invariant.holds reached.of_restrict
    obtain ⟨opened, plain⟩ := allowed
    cases step with
    | accept target =>
        cases moved
        refine .inl ⟨rfl, fun deed means => ?_⟩
        rcases means with ⟨_, _, ⟨_, other, _⟩, _⟩ | ⟨_, _, other, _⟩
        · cases other
        · cases other
    | recvMsg target net =>
        obtain ⟨⟨keep, conns⟩, received, rest⟩ := Exec.of_bind_ok moved
        cases rest
        have asks {deed : Deed}
            (means : Store.Means env before (.recvMsg target net) deed) :
            ((before.conns.conns target).receive net).1 = .complete ∧
              Store.FrameDeed env (before.conns.setConn target
                ((before.conns.conns target).receive net).2) target deed := by
          rcases means with ⟨_, _, ⟨_, same, complete, rfl⟩, frame⟩ |
            ⟨_, _, other, _⟩
          · cases same
            exact ⟨complete, frame⟩
          · cases other
        obtain ⟨_, ⟨closed, _, rfl⟩ | ⟨waiting, _, rfl⟩ | ⟨short, _, rfl⟩ |
          ⟨complete, _, parsed⟩⟩ := recvMsg_ok received
        · refine .inl ⟨rfl, fun deed means => ?_⟩
          cases closed.symm.trans (asks means).1
        · refine .inl ⟨rfl, fun deed means => ?_⟩
          cases waiting.symm.trans (asks means).1
        · refine .inl ⟨rfl, fun deed means => ?_⟩
          cases short.symm.trans (asks means).1
        · have does : store.Does (before.conns.setConn target
              ((before.conns.conns target).receive net).2) conns target :=
            Store.parse_does kept.inverse (plain complete) parsed
          rcases does with ⟨same, none⟩ | done
          · exact .inl ⟨same, fun deed means => none deed (asks means).2⟩
          · obtain ⟨deed, frame, possible, after⟩ := done
            refine .inr ⟨deed, .inl ⟨target, _, ⟨net, rfl, complete, rfl⟩,
              frame⟩, possible, ?_⟩
            exact congrArg Except.ok after.symm
    | sendMsg target net =>
        obtain ⟨⟨keep, conns⟩, sent, rest⟩ := Exec.of_bind_ok moved
        cases rest
        obtain ⟨_, _, _, outlet, conn, _, wrote, _, rfl⟩ := sendMsg_ok sent
        refine .inl ⟨rfl, fun deed means => ?_⟩
        rcases means with ⟨_, _, ⟨_, other, _⟩, _⟩ | ⟨_, _, other, _⟩
        · cases other
        · cases other
    | closeConn target =>
        obtain ⟨conns, ended, rest⟩ := Exec.of_bind_ok moved
        cases rest
        obtain ⟨_, ⟨free, rfl⟩ | ⟨uid, bound, back, _, rfl⟩⟩ :=
          closeConn_ok ended
        · refine .inl ⟨rfl, fun deed means => ?_⟩
          rcases means with ⟨_, _, ⟨_, other, _⟩, _⟩ | ⟨_, _, same, bound, _⟩
          · cases other
          · cases same
            cases free.symm.trans bound
        · refine .inr ⟨.leave uid, .inr ⟨target, uid, rfl, bound, rfl⟩,
            ⟨Option.isSome_iff_exists.mpr ⟨target, back⟩, ?_⟩, ?_⟩
          · intro partner none
            cases none
          · refine congrArg Except.ok (Service.ext (funext fun other => ?_) ?_
              ?_ ?_)
            · simp [Store.service, Service.next, closed, setConn, unbind,
                FinMap.lookup_erase_eq, Function.update_apply]
            · simp [Store.service, Service.next, closed, setConn, unbind]
            · simp [Store.service, Service.next, closed, setConn, unbind]
            · simp [Store.service, Service.next, closed, setConn, unbind]

/-- Three users, nothing written and no transfer. -/
def wholeStart : State Tables.Whole :=
  .init (.unused threeAccounts) 1024

theorem wholeStart_initial :
    (plainly Tables.wholeStore).initial wholeStart := ⟨_, _, rfl⟩

/-- The second user writes to the third one, who is not there. -/
def writesToAbsent : List Step :=
  [.accept 5, .recvMsg 5 [.data (loginFrame "b").wire],
    .recvMsg 5 [.data (Message.ofData 0x13 0x00
      (Buffer.ofWord 3 ++ Buffer.ofText "hi")).wire]]

theorem server_refines_third : ∃ (s s' : State Tables.Whole)
    (deeds : List Deed),
    Machine.Enacts (plainly Tables.wholeStore) service
      (fun s => Tables.wholeStore.service s.conns)
      (Store.Means Tables.wholeEnv) s writesToAbsent deeds s' ∧
    deeds.filterMap Deed.row = [⟨2, 3, 0, Buffer.ofText "hi"⟩] := by
  have replayed : ((plainly Tables.wholeStore).replay wholeStart
      (arrives 4 [loginFrame "a"])).any (fun s =>
        s.conns.db.records.val = [] ∧
        (((plainly Tables.wholeStore).replay s writesToAbsent).any fun s' =>
          s'.conns.db.records.val = [⟨2, 3, 0, Buffer.ofText "hi"⟩])) =
            true := by
    decide +kernel
  obtain ⟨s, reached, holds⟩ :=
    Machine.Reachable.of_replay replayed wholeStart_initial
  obtain ⟨empty, later⟩ := of_decide_eq_true holds
  obtain ⟨s', taken, ends⟩ := (Option.any_eq_true _ _).mp later
  obtain ⟨deeds, enacts⟩ := (server_refines Tables.wholeEnv
    Tables.wholeStore).enacts_all (.of_replay taken) reached
  have stored : s'.conns.db.records.val =
      s.conns.db.records.val ++ deeds.filterMap Deed.row :=
    Service.records_after enacts.path
  rw [of_decide_eq_true ends, empty] at stored
  exact ⟨s, s', deeds, enacts, stored.symm⟩

def Absent (uid : Uid) (s : State ω) (_ : Step) : Prop :=
  s.conns.uidToFd.lookup uid = none

instance (uid : Uid) (s : State ω) : DecidablePred (Absent uid s) :=
  fun _ => inferInstanceAs (Decidable (_ = _))

/-- The only deed of a user without a session is to log in. -/
theorem Store.Means.logs_in {s : State ω} {step : Step} {deed : Deed}
    (reached : (plainly store).Reachable s)
    (means : Store.Means env s step deed)
    (absent : s.conns.uidToFd.lookup deed.actor = none) :
    ∃ fd, deed = .login deed.actor fd := by
  have away {conns : Connections ω} {fd : Fd} {uid : Uid}
      (handles : Handles s step fd conns) (mine : conns.myUid fd = .ok uid) :
      s.conns.uidToFd.lookup uid ≠ none := by
    obtain ⟨net, _, _, rfl⟩ := handles
    have there : s.conns.uidToFd.lookup uid = some fd := (myUid_eq.mp mine).2
    rw [there]
    exact Option.some_ne_none fd
  rcases means with ⟨fd, conns, handles, frame⟩ | ⟨fd, uid, _, bound, rfl⟩
  · cases frame with
    | login => exact ⟨fd, rfl⟩
    | write type shape read mine => exact absurd absent (away handles mine)
    | change type kind size mine => exact absurd absent (away handles mine)
    | file asked mine succeeds file =>
        cases file with
        | offer tid => exact absurd absent (away handles mine)
        | answer accepted sendid recvid =>
            exact absurd absent (away handles mine)
        | count sendid recvid siz => exact absurd absent (away handles mine)
  · have inverse := (sessions_invariant.holds reached.of_restrict).inverse
    have there : s.conns.uidToFd.lookup uid = some fd :=
      (inverse fd uid).mp bound
    exact absurd absent (there ▸ Option.some_ne_none fd)

/-- In any part of any run in which a user has no session, nothing is done in
the user's name: the account stays as it is, no message of the user's is stored,
no file is offered, and no transfer to the user is answered or counted. -/
theorem absent_untouched (env : Env ω) (store : Store env) (uid : Uid)
    (s s' : State ω) (steps : List Step)
    (reached : (plainly store).Reachable s)
    (path : Machine.Path ((plainly store).restrict (Absent uid)) s steps s') :
    Untouched uid (store.service s.conns) (store.service s'.conns) := by
  obtain ⟨deeds, enacts⟩ := (server_refines env store).enacts path reached
  apply Untouched.of_path enacts.path
  intro deed member own
  obtain ⟨state, step, passed, allowed, means⟩ := enacts.meant reached
    (fun _ _ _ passed allowed moved => .step passed allowed.1 moved)
    deed member
  subst own
  exact means.logs_in passed allowed.2

theorem absent_untouched_third : ∃ s s' : State Tables.Whole,
    (Tables.wholeStore.service s'.conns).records =
      [⟨2, 3, 0, Buffer.ofText "hi"⟩] ∧
    Untouched 3 (Tables.wholeStore.service s.conns)
      (Tables.wholeStore.service s'.conns) := by
  have replayed : (((plainly Tables.wholeStore).restrict (Absent 3)).replay
      wholeStart (arrives 4 [loginFrame "a"])).any (fun s =>
        (((plainly Tables.wholeStore).restrict (Absent 3)).replay s
          writesToAbsent).any fun s' => s'.conns.db.records.val =
            [⟨2, 3, 0, Buffer.ofText "hi"⟩]) = true := by
    decide +kernel
  obtain ⟨s, reached, later⟩ :=
    Machine.Reachable.of_replay replayed wholeStart_initial
  obtain ⟨s', taken, holds⟩ := (Option.any_eq_true _ _).mp later
  refine ⟨s, s', of_decide_eq_true holds, ?_⟩
  exact absent_untouched Tables.wholeEnv Tables.wholeStore 3 s s'
    writesToAbsent reached.of_restrict (.of_replay taken)

end GroupChat.Server
