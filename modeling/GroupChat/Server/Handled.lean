import GroupChat.Server.Pushes

namespace GroupChat.Server.Connections

/-! What a handler can do: one lemma for each function it calls, then one case
for each way a handled frame can end. -/

variable {ω : Type} {env : Env ω}

inductive Answer : Message → Prop
  | unknown (type : UInt8) : Answer (unknownMsg type)
  | refused : Answer refusedMsg
  | username (name : Buffer) : Answer (usernameMsg name)
  | absentUser : Answer (absentMsg 0x91)
  | absentParty : Answer (absentMsg 0x92)
  | records (records : Buffer) : Answer (recordsMsg records)
  | text (exist online : Bool) : Answer (textAnswer exist online)
  | changePwd (succeed : Bool) : Answer (changePwdMsg succeed)

theorem pushOnlineTo_eq {uid : Uid} {msg : Message}
    {entries : List (Sigma fun _ : Fd => Uid)} {s s' : Connections ω} :
    pushOnlineTo uid msg entries s = .ok s' ↔
      (∀ entry ∈ entries, entry.2 ≠ uid) ∧
        s' = s.pushes (entries.map fun entry => (entry.1, msg)) := by
  induction entries generalizing s with
  | nil => simp [pushOnlineTo, eq_comm]
  | cons entry entries induction =>
      by_cases fresh : entry.2 ≠ uid
      · simp only [pushOnlineTo, Exec.require_of fresh, Exec.bind_ok,
          induction, List.forall_mem_cons, List.map_cons, pushes_cons]
        simp [fresh]
      · simp only [pushOnlineTo, Exec.require_of_not fresh, Exec.bind_error,
          List.forall_mem_cons]
        simp [fresh]

theorem pushOnline_eq {s s' : Connections ω} {uid : Uid} {online : Bool} :
    s.pushOnline uid online = .ok s' ↔
      (∀ entry ∈ s.fdToUid.entries, entry.2 ≠ uid) ∧
        s' = s.pushes (s.fdToUid.entries.map fun entry =>
          (entry.1, onlineMsg uid online)) :=
  pushOnlineTo_eq

/-- The connections a text message is forwarded to. -/
def textTargets (s : Connections ω) (srcUid dstUid : Uid) : List Fd :=
  if dstUid = 0xFFFF then
    (s.fdToUid.entries.filter fun entry => entry.2 ≠ srcUid).map Sigma.fst
  else
    (s.uidToFd.lookup dstUid).toList

theorem pushTextmsgTo_eq (srcUid : Uid) (msg : Message)
    (entries : List (Sigma fun _ : Fd => Uid)) (s : Connections ω) :
    pushTextmsgTo srcUid msg entries s =
      s.pushes (((entries.filter fun entry => entry.2 ≠ srcUid).map
        Sigma.fst).map fun fd => (fd, msg)) := by
  induction entries generalizing s with
  | nil => rfl
  | cons entry entries induction =>
      by_cases same : entry.2 = srcUid
      · simp only [pushTextmsgTo, same, if_true, induction]
        simp [same]
      · simp only [pushTextmsgTo, same, if_false, induction]
        simp [same]

theorem pushTextmsg_eq {s s' : Connections ω} {srcUid dstUid : Uid}
    {msg : Message} :
    s.pushTextmsg srcUid dstUid msg = .ok s' ↔
      (dstUid = 0xFFFF ∨ ∃ fd, s.uidToFd.lookup dstUid = some fd) ∧
        s' = s.pushes ((s.textTargets srcUid dstUid).map fun fd =>
          (fd, textMsg srcUid msg)) := by
  unfold pushTextmsg textTargets
  by_cases broadcast : dstUid = 0xFFFF
  · simp only [broadcast, if_true, Except.ok.injEq, pushTextmsgTo_eq,
      true_or, true_and]
    exact eq_comm
  · cases found : s.uidToFd.lookup dstUid with
    | none => simp [broadcast]
    | some fd => simp [broadcast, eq_comm]

theorem pushTransfile_eq {type : UInt8} {s s' : Connections ω} {dstUid : Uid}
    {msg : Message} :
    pushTransfile type s dstUid msg = .ok s' ↔
      ∃ fd, s.uidToFd.lookup dstUid = some fd ∧
        s' = s.push fd (transfileMsg type msg) := by
  unfold pushTransfile
  cases found : s.uidToFd.lookup dstUid with
  | none => simp
  | some fd => simp [eq_comm]

theorem myUid_eq {s : Connections ω} {fd : Fd} {uid : Uid} :
    s.myUid fd = .ok uid ↔
      s.fdToUid.lookup fd = some uid ∧ s.uidToFd.lookup uid = some fd := by
  unfold myUid
  cases forward : s.fdToUid.lookup fd with
  | none => simp
  | some bound =>
      cases backward : s.uidToFd.lookup bound with
      | none =>
          simp only [Exec.demand_some, Exec.bind_ok, backward,
            Exec.demand_none, Exec.bind_error, Option.some.injEq]
          constructor
          · intro impossible
            cases impossible
          · rintro ⟨rfl, found⟩
            rw [backward] at found
            cases found
      | some back =>
          simp only [Exec.demand_some, Exec.bind_ok, backward,
            Option.some.injEq]
          by_cases same : back = fd
          · subst same
            simp only [Exec.require_of, Exec.bind_ok, Except.ok.injEq]
            constructor
            · rintro rfl
              exact ⟨rfl, backward⟩
            · exact fun both => both.1
          · simp only [Exec.require_of_not same, Exec.bind_error]
            constructor
            · intro impossible
              cases impossible
            · rintro ⟨rfl, found⟩
              rw [backward] at found
              exact absurd (Option.some.inj found) same

theorem takeover_eq {s s' : Connections ω} {uid : Uid} {first : Bool}
    {subType : UInt8} (taken : takeover s uid first = .ok (subType, s')) :
    (first = true ∧ subType = 0x01 ∧ s' = s) ∨
    (first = false ∧ s.uidToFd.lookup uid = none ∧ subType = 0x00 ∧
      s' = s) ∨
    (∃ otherFd, first = false ∧ s.uidToFd.lookup uid = some otherFd ∧
      s.fdToUid.lookup otherFd = some uid ∧ subType = 0x02 ∧
      s' = { s.pushShutdown otherFd with
        fdToUid := s.fdToUid.erase otherFd
        uidToFd := s.uidToFd.erase uid }) := by
  cases first with
  | true =>
      left
      simp only [takeover, if_true, Except.ok.injEq, Prod.mk.injEq] at taken
      exact ⟨rfl, taken.1.symm, taken.2.symm⟩
  | false =>
      right
      cases bound : s.uidToFd.lookup uid with
      | none =>
          left
          simp [takeover, bound] at taken
          exact ⟨rfl, rfl, taken.1.symm, taken.2.symm⟩
      | some otherFd =>
          right
          simp only [takeover, bound, Bool.false_eq_true, if_false] at taken
          obtain ⟨back, found, rest⟩ := Exec.of_bind_ok taken
          obtain ⟨_, same, rest⟩ := Exec.of_bind_ok rest
          rw [Exec.demand_eq_ok] at found
          rw [Exec.require_eq_ok] at same
          subst same
          cases rest
          exact ⟨otherFd, rfl, rfl, found, rfl, rfl⟩

theorem pushUserlist_eq {s s' : Connections ω} {fd : Fd}
    (pushed : s.pushUserlist env fd = .ok s') :
    ∃ ret userList db myUid onlineBytes offlineBytes online offline,
      Database.getAllUid env s.db = .ok (ret, userList, db) ∧
      s.fdToUid.lookup fd = some myUid ∧
      idBytes (sizeSub s.uidToFd.entries.length 1) = .ok onlineBytes ∧
      idBytes (sizeSub userList.length s.uidToFd.entries.length) =
        .ok offlineBytes ∧
      fillLists (fun uid => (s.uidToFd.lookup uid).isSome) myUid userList
        (onlineBytes / 4) (offlineBytes / 4) = .ok (online, offline) ∧
      s' = { s with db := db }.pushes
        [(fd, listMsg 0x00 (sizeSub s.uidToFd.entries.length 1) onlineBytes
            online),
          (fd, listMsg 0x01 (sizeSub userList.length
            s.uidToFd.entries.length) offlineBytes offline)] := by
  obtain ⟨⟨ret, userList, db⟩, listed, rest⟩ := Exec.of_bind_ok pushed
  obtain ⟨myUid, found, rest⟩ := Exec.of_bind_ok rest
  obtain ⟨onlineBytes, onlineFits, rest⟩ := Exec.of_bind_ok rest
  obtain ⟨offlineBytes, offlineFits, rest⟩ := Exec.of_bind_ok rest
  obtain ⟨⟨online, offline⟩, filled, rest⟩ := Exec.of_bind_ok rest
  rw [Exec.demand_eq_ok] at found
  cases rest
  exact ⟨ret, userList, db, myUid, onlineBytes, offlineBytes, online, offline,
    listed, found, onlineFits, offlineFits, filled, rfl⟩

/-- The state in which a login goes on to the user list: the response is
queued, the others are told and the user is bound. -/
def welcomed (s : Connections ω) (fd : Fd) (uid : Uid) (subType : UInt8)
    (primaryColor : Int) : Connections ω :=
  ((s.push fd (loginMsg subType uid primaryColor)).pushes
    (s.fdToUid.entries.map fun entry =>
      (entry.1, onlineMsg uid true))).bind uid fd

def transfileTypes : List (UInt8 × UInt8) :=
  [(0x17, 0xA7), (0x18, 0xA8), (0x19, 0xA9), (0x1A, 0xA9)]

/-- The user's id was found with credentials that `login_check` reported as
legal. -/
def Verified (env : Env ω) (uid : Uid) : Prop :=
  ∃ world username passwd checked,
    Database.loginCheck env world username passwd false true 0 =
      .ok checked ∧
    checked.legal = true ∧ 0 ≤ checked.ret ∧ checked.uid = uid

/-- The state after a frame was handled. -/
inductive Handled (env : Env ω) (s : Connections ω) (fd : Fd) :
    Connections ω → Prop
  | answer (db : ω) {msg : Message} (made : Answer msg) :
      Handled env s fd ({ s with db := db }.push fd msg)
  | text (db : ω) (exist : Bool) {uid dstUid : Uid}
      (type : (s.frame fd).header.type = 0x13)
      (kind : (s.frame fd).header.subType = 0x00 ∨
        (s.frame fd).header.subType = 0x01)
      (size : sizeofHeader + (s.frame fd).data.length =
        (s.frame fd).header.length.toNat)
      (read : (s.frame fd).data.wordAt 0 = .ok dstUid)
      (bound : s.fdToUid.lookup fd = some uid) :
      Handled env s fd (({ s with db := db }.push fd
        (textAnswer exist true)).pushes ((s.textTargets uid dstUid).map
          fun target => (target, textMsg uid (s.frame fd))))
  | file (db : ω) {uid dstUid : Uid} {target : Fd} {type : UInt8}
      (kind : ((s.frame fd).header.type, type) ∈ transfileTypes)
      (size : sizeofHeader + (s.frame fd).data.length =
        (s.frame fd).header.length.toNat)
      (read : (s.frame fd).data.wordAt 0 = .ok dstUid)
      (bound : s.fdToUid.lookup fd = some uid)
      (found : s.uidToFd.lookup dstUid = some target) :
      Handled env s fd ({ s with db := db }.push target
        (transfileMsg type (s.frame fd)))
  | login (db : ω) {uid : Uid} {first : Bool} {subType : UInt8}
      {primaryColor : Int} {taken after : Connections ω}
      (verified : Verified env uid)
      (took : takeover ({ s with db := db }.noteLogin fd true uid) uid first =
        .ok (subType, taken))
      (free : taken.fdToUid.lookup fd = none)
      (fresh : ∀ entry ∈ taken.fdToUid.entries, entry.2 ≠ uid)
      (listed : (taken.welcomed fd uid subType primaryColor).pushUserlist env
        fd = .ok after) :
      Handled env s fd after

theorem Handled.unknown (s : Connections ω) (fd : Fd) (db : ω) :
    Handled env s fd ({ s with db := db }.parseUnknown fd) :=
  .answer db (.unknown _)

theorem loginChecked_eq {s s' : Connections ω} {fd : Fd}
    {legal first : Bool} {uid : Uid}
    (checked : loginChecked env s fd legal first uid = .ok s') :
    ∃ primaryColor db,
      Database.getLoginColor env s.db (toSigned uid) =
        .ok (primaryColor, db) ∧
      ((legal = false ∧ s.fdToUid.lookup fd = none ∧
          s' = { s with db := db }.push fd refusedMsg) ∨
        (legal = true ∧ ∃ subType taken,
          takeover { s with db := db } uid first = .ok (subType, taken) ∧
          taken.fdToUid.lookup fd = none ∧
          (∀ entry ∈ taken.fdToUid.entries, entry.2 ≠ uid) ∧
          (taken.welcomed fd uid subType primaryColor).pushUserlist env fd =
            .ok s')) := by
  obtain ⟨⟨primaryColor, db⟩, colored, rest⟩ := Exec.of_bind_ok checked
  refine ⟨primaryColor, db, colored, ?_⟩
  cases legal with
  | false =>
      left
      simp only [Bool.false_eq_true, if_false] at rest
      obtain ⟨_, free, rest⟩ := Exec.of_bind_ok rest
      rw [Exec.require_eq_ok] at free
      cases rest
      exact ⟨rfl, free, rfl⟩
  | true =>
      right
      simp only [if_true] at rest
      obtain ⟨⟨subType, taken⟩, took, rest⟩ := Exec.of_bind_ok rest
      obtain ⟨_, free, rest⟩ := Exec.of_bind_ok rest
      obtain ⟨told, online, rest⟩ := Exec.of_bind_ok rest
      rw [Exec.require_eq_ok] at free
      obtain ⟨fresh, same⟩ := pushOnline_eq.mp online
      subst same
      exact ⟨rfl, subType, taken, took, free, fresh, rest⟩

theorem parseLogin_handled {s s' : Connections ω} {fd : Fd}
    (parsed : s.parseLogin env fd = .ok s') : Handled env s fd s' := by
  unfold parseLogin at parsed
  dsimp only at parsed
  split at parsed
  · cases parsed
    exact .unknown s fd s.db
  · obtain ⟨_, _, rest⟩ := Exec.of_bind_ok parsed
    obtain ⟨checked, login, rest⟩ := Exec.of_bind_ok rest
    split at rest
    · cases rest
      exact .unknown s fd checked.world
    · rename_i answered
      obtain ⟨primaryColor, db, _, refused | legal⟩ := loginChecked_eq rest
      · obtain ⟨illegal, _, rfl⟩ := refused
        have answered : Handled env s fd ({ s with db := db }.push fd
            refusedMsg) :=
          .answer db .refused
        simpa [illegal, noteLogin] using answered
      · obtain ⟨legal, subType, taken, took, free, fresh, listed⟩ := legal
        rw [legal] at took
        exact .login db ⟨_, _, _, checked, login, legal, by omega, rfl⟩ took
          free fresh listed

theorem parseUsername_handled {s s' : Connections ω} {fd : Fd}
    (parsed : s.parseUsername env fd = .ok s') : Handled env s fd s' := by
  unfold parseUsername at parsed
  dsimp only at parsed
  split at parsed
  · cases parsed
    exact .unknown s fd s.db
  · obtain ⟨_, _, rest⟩ := Exec.of_bind_ok parsed
    obtain ⟨uid, _, rest⟩ := Exec.of_bind_ok rest
    obtain ⟨checked, _, rest⟩ := Exec.of_bind_ok rest
    split at rest
    · cases rest
      exact .unknown s fd checked.world
    · split at rest
      · cases rest
        exact .answer checked.world (.username _)
      · cases rest
        exact .answer checked.world .absentUser

theorem parseChatrecord_handled {s s' : Connections ω} {fd : Fd}
    (parsed : s.parseChatrecord env fd = .ok s') : Handled env s fd s' := by
  unfold parseChatrecord at parsed
  dsimp only at parsed
  split at parsed
  · cases parsed
    exact .unknown s fd s.db
  · obtain ⟨_, _, rest⟩ := Exec.of_bind_ok parsed
    obtain ⟨uid, _, rest⟩ := Exec.of_bind_ok rest
    obtain ⟨myUid, _, rest⟩ := Exec.of_bind_ok rest
    obtain ⟨checked, _, rest⟩ := Exec.of_bind_ok rest
    split at rest
    · cases rest
      exact .unknown s fd checked.world
    · split at rest
      · obtain ⟨found, _, rest⟩ := Exec.of_bind_ok rest
        split at rest
        · cases rest
          exact .unknown s fd found.world
        · cases rest
          exact .answer found.world (.records _)
      · cases rest
        exact .answer checked.world .absentParty

theorem parseTextmsg_handled {s s' : Connections ω} {fd : Fd}
    (type : (s.frame fd).header.type = 0x13)
    (parsed : s.parseTextmsg env fd = .ok s') : Handled env s fd s' := by
  unfold parseTextmsg at parsed
  dsimp only at parsed
  split at parsed
  · cases parsed
    exact .unknown s fd s.db
  · rename_i shape
    obtain ⟨_, size, rest⟩ := Exec.of_bind_ok parsed
    obtain ⟨dstUid, read, rest⟩ := Exec.of_bind_ok rest
    obtain ⟨uid, mine, rest⟩ := Exec.of_bind_ok rest
    obtain ⟨checked, _, rest⟩ := Exec.of_bind_ok rest
    rw [Exec.require_eq_ok] at size
    have kind : (s.frame fd).header.subType = 0x00 ∨
        (s.frame fd).header.subType = 0x01 := by
      by_contra neither
      rw [not_or] at neither
      exact shape (.inl neither)
    split at rest
    · cases rest
      exact .unknown s fd checked.world
    · split at rest
      · cases rest
        exact .unknown s fd _
      · generalize (if (s.frame fd).header.subType = 0x00 then
          (s.uidToFd.lookup dstUid).isSome else true) = reached at rest
        cases reached with
        | false =>
            cases rest
            exact .answer _ (.text _ _)
        | true =>
            simp only [if_true, push_frame] at rest
            obtain ⟨_, same⟩ := pushTextmsg_eq.mp rest
            subst same
            exact .text _ checked.exist type kind size read
              (myUid_eq.mp mine).1

theorem parseChangePwd_handled {s s' : Connections ω} {fd : Fd}
    (parsed : s.parseChangePwd env fd = .ok s') : Handled env s fd s' := by
  unfold parseChangePwd at parsed
  dsimp only at parsed
  split at parsed
  · cases parsed
    exact .unknown s fd s.db
  · obtain ⟨uid, _, rest⟩ := Exec.of_bind_ok parsed
    obtain ⟨_, _, rest⟩ := Exec.of_bind_ok rest
    obtain ⟨⟨ret, db⟩, _, rest⟩ := Exec.of_bind_ok rest
    cases rest
    exact .answer db (.changePwd _)

theorem parseTransfileAskRc_handled {s s' : Connections ω} {fd : Fd}
    (type : (s.frame fd).header.type = 0x17)
    (parsed : s.parseTransfileAskRc env fd = .ok s') :
    Handled env s fd s' := by
  unfold parseTransfileAskRc at parsed
  dsimp only at parsed
  split at parsed
  · cases parsed
    exact .unknown s fd s.db
  · rename_i shape
    obtain ⟨_, size, rest⟩ := Exec.of_bind_ok parsed
    obtain ⟨dstUid, read, rest⟩ := Exec.of_bind_ok rest
    obtain ⟨uid, mine, rest⟩ := Exec.of_bind_ok rest
    obtain ⟨filesize, _, rest⟩ := Exec.of_bind_ok rest
    rw [Exec.require_eq_ok] at size
    obtain ⟨target, found, rfl⟩ := pushTransfile_eq.mp rest
    exact .file _ (by simp [type, transfileTypes])
      (by rw [size]; omega) read (myUid_eq.mp mine).1 found

theorem parseTransfileRepSc_handled {s s' : Connections ω} {fd : Fd}
    (type : (s.frame fd).header.type = 0x18)
    (parsed : s.parseTransfileRepSc env fd = .ok s') :
    Handled env s fd s' := by
  unfold parseTransfileRepSc at parsed
  dsimp only at parsed
  split at parsed
  · cases parsed
    exact .unknown s fd s.db
  · rename_i shape
    obtain ⟨_, size, rest⟩ := Exec.of_bind_ok parsed
    obtain ⟨dstUid, read, rest⟩ := Exec.of_bind_ok rest
    obtain ⟨uid, mine, rest⟩ := Exec.of_bind_ok rest
    rw [Exec.require_eq_ok] at size
    obtain ⟨target, found, rfl⟩ := pushTransfile_eq.mp rest
    exact .file _ (by simp [type, transfileTypes])
      (by rw [size]; omega) read (myUid_eq.mp mine).1 found

theorem parseTransfileData_handled {s s' : Connections ω} {fd : Fd}
    (type : (s.frame fd).header.type = 0x19)
    (parsed : s.parseTransfileData fd = .ok s') :
    Handled env s fd s' := by
  unfold parseTransfileData at parsed
  dsimp only at parsed
  split at parsed
  · cases parsed
    exact .unknown s fd s.db
  · rename_i shape
    obtain ⟨dstUid, read, rest⟩ := Exec.of_bind_ok parsed
    obtain ⟨uid, mine, rest⟩ := Exec.of_bind_ok rest
    obtain ⟨target, found, rfl⟩ := pushTransfile_eq.mp rest
    exact .file s.db (by simp [type, transfileTypes])
      (by omega) read (myUid_eq.mp mine).1 found

theorem parseTransfileAck_handled {s s' : Connections ω} {fd : Fd}
    (type : (s.frame fd).header.type = 0x1A)
    (parsed : s.parseTransfileAck env fd = .ok s') :
    Handled env s fd s' := by
  unfold parseTransfileAck at parsed
  dsimp only at parsed
  split at parsed
  · cases parsed
    exact .unknown s fd s.db
  · rename_i shape
    obtain ⟨_, size, rest⟩ := Exec.of_bind_ok parsed
    obtain ⟨dstUid, read, rest⟩ := Exec.of_bind_ok rest
    obtain ⟨uid, mine, rest⟩ := Exec.of_bind_ok rest
    obtain ⟨ui8cnt, _, rest⟩ := Exec.of_bind_ok rest
    rw [Exec.require_eq_ok] at size
    obtain ⟨target, found, rfl⟩ := pushTransfile_eq.mp rest
    exact .file _ (by simp [type, transfileTypes])
      (by rw [size]; omega) read (myUid_eq.mp mine).1 found

theorem parse_handled {s s' : Connections ω} {fd : Fd}
    (parsed : s.parse env fd = .ok s') : Handled env s fd s' := by
  unfold parse at parsed
  split at parsed
  · exact parseLogin_handled parsed
  · exact parseUsername_handled parsed
  · exact parseChatrecord_handled parsed
  · exact parseTextmsg_handled ‹_› parsed
  · exact parseChangePwd_handled parsed
  · exact parseTransfileAskRc_handled ‹_› parsed
  · exact parseTransfileRepSc_handled ‹_› parsed
  · exact parseTransfileData_handled ‹_› parsed
  · exact parseTransfileAck_handled ‹_› parsed
  · cases parsed
    exact .unknown s fd s.db

/-- A message forwarded for a frame. -/
inductive Forwarded (frame : Message) : Message → Prop
  | text (srcUid : Uid) (type : frame.header.type = 0x13)
      (kind : frame.header.subType = 0x00 ∨ frame.header.subType = 0x01)
      (size : sizeofHeader + frame.data.length = frame.header.length.toNat)
      (long : 4 ≤ frame.data.length) :
      Forwarded frame (textMsg srcUid frame)
  | file {type : UInt8} (kind : (frame.header.type, type) ∈ transfileTypes)
      (size : sizeofHeader + frame.data.length = frame.header.length.toNat)
      (long : 4 ≤ frame.data.length) :
      Forwarded frame (transfileMsg type frame)

/-- What handling a frame of connection `fd` can queue, and to whom. -/
inductive Emits (s : Connections ω) (fd : Fd) : Fd → Message → Prop
  | answer {msg : Message} (made : Answer msg) : Emits s fd fd msg
  | welcome {subType : UInt8}
      (code : subType = 0x00 ∨ subType = 0x01 ∨ subType = 0x02) (uid : Uid)
      (primaryColor : Int) : Emits s fd fd (loginMsg subType uid primaryColor)
  | list {subType : UInt8} (kind : subType = 0x00 ∨ subType = 0x01)
      (len bytes : Nat) (uids : List Uid) :
      Emits s fd fd (listMsg subType len bytes uids)
  | shutdown {target : Fd} {uid : Uid}
      (bound : s.fdToUid.lookup target = some uid) :
      Emits s fd target shutdownMsg
  | online {target : Fd} {uid : Uid}
      (bound : s.fdToUid.lookup target = some uid) (other : Uid) :
      Emits s fd target (onlineMsg other true)
  | forward {target : Fd} {uid : Uid} {msg : Message}
      (bound : s.fdToUid.lookup target = some uid)
      (made : Forwarded (s.frame fd) msg) : Emits s fd target msg

theorem textTargets_bound {s : Connections ω} {uid dstUid : Uid}
    (inverse : FinMap.Inverse s.fdToUid s.uidToFd) {target : Fd}
    (member : target ∈ s.textTargets uid dstUid) :
    ∃ bound, s.fdToUid.lookup target = some bound := by
  unfold textTargets at member
  split at member
  · obtain ⟨entry, listed, rfl⟩ := List.mem_map.mp member
    exact ⟨entry.2, FinMap.mem_entries.mp (List.mem_filter.mp listed).1⟩
  · exact ⟨dstUid, (inverse target dstUid).mpr
      (Option.mem_toList.mp member)⟩

theorem Queued.of_pushes (s : Connections ω) (db : ω)
    (l : List (Fd × Message)) : Queued s ({ s with db := db }.pushes l) l :=
  let queued := Queued.pushes { s with db := db } l
  ⟨queued.size, queued.conns, queued.wfds⟩

theorem Queued.of_push (s : Connections ω) (db : ω) (fd : Fd)
    (msg : Message) : Queued s ({ s with db := db }.push fd msg) [(fd, msg)] :=
  Queued.of_pushes s db [(fd, msg)]

theorem takeover_queued {s taken : Connections ω} {uid : Uid} {first : Bool}
    {subType : UInt8} (took : takeover s uid first = .ok (subType, taken)) :
    ∃ l, Queued s taken l ∧ ∀ push ∈ l, push.2 = shutdownMsg ∧
      ∃ bound, s.fdToUid.lookup push.1 = some bound := by
  have unchanged : Queued s s [] := Queued.pushes s []
  rcases takeover_eq took with ⟨_, _, rfl⟩ | ⟨_, _, _, rfl⟩ |
    ⟨otherFd, _, _, found, _, rfl⟩
  · exact ⟨[], unchanged, by simp⟩
  · exact ⟨[], unchanged, by simp⟩
  · have queued := Queued.of_push s s.db otherFd shutdownMsg
    refine ⟨_, ⟨queued.size, queued.conns, queued.wfds⟩, ?_⟩
    intro push member
    rw [List.mem_singleton.mp member]
    exact ⟨rfl, uid, found⟩

theorem takeover_emits {origin s taken : Connections ω} {uid : Uid}
    {first : Bool} {subType : UInt8} (fd : Fd)
    (same : s.fdToUid = origin.fdToUid)
    (took : takeover s uid first = .ok (subType, taken)) :
    (subType = 0x00 ∨ subType = 0x01 ∨ subType = 0x02) ∧
      taken.fdToUid.entries ⊆ origin.fdToUid.entries ∧
      ∃ l, Queued s taken l ∧ ∀ push ∈ l, Emits origin fd push.1 push.2 := by
  obtain ⟨l, queued, shuts⟩ := takeover_queued took
  have emits : ∀ push ∈ l, Emits origin fd push.1 push.2 := by
    intro push member
    obtain ⟨shut, bound, found⟩ := shuts push member
    rw [shut]
    exact .shutdown (same ▸ found)
  rw [← same]
  rcases takeover_eq took with ⟨_, code, rfl⟩ | ⟨_, _, code, rfl⟩ |
    ⟨otherFd, _, _, _, code, rfl⟩
  · exact ⟨.inr (.inl code), fun _ member => member, l, queued, emits⟩
  · exact ⟨.inl code, fun _ member => member, l, queued, emits⟩
  · exact ⟨.inr (.inr code),
      (List.kerase_sublist otherFd s.fdToUid.entries).subset, l, queued,
      emits⟩

theorem pushUserlist_emits {s s' : Connections ω} {fd : Fd}
    (pushed : s.pushUserlist env fd = .ok s') (origin : Connections ω) :
    ∃ l, Queued s s' l ∧ ∀ push ∈ l, Emits origin fd push.1 push.2 := by
  obtain ⟨_, _, db, _, _, _, _, _, _, _, _, _, _, rfl⟩ :=
    pushUserlist_eq pushed
  refine ⟨_, Queued.of_pushes s db _, ?_⟩
  intro push member
  simp only [List.mem_cons, List.not_mem_nil, or_false] at member
  rcases member with rfl | rfl
  · exact .list (.inl rfl) _ _ _
  · exact .list (.inr rfl) _ _ _

/-- The messages a login queues. -/
theorem login_emits {s taken after : Connections ω} {fd : Fd} {db : ω}
    {uid : Uid} {first : Bool} {subType : UInt8} {primaryColor : Int}
    (took : takeover ({ s with db := db }.noteLogin fd true uid) uid first =
      .ok (subType, taken))
    (listed : (taken.welcomed fd uid subType primaryColor).pushUserlist env
      fd = .ok after) :
    ∃ l, Queued s after l ∧ ∀ push ∈ l, Emits s fd push.1 push.2 := by
  have same : ({ s with db := db }.noteLogin fd true uid).fdToUid =
      s.fdToUid := rfl
  obtain ⟨code, fewer, early, taking, earlyEmits⟩ :=
    takeover_emits fd same took
  obtain ⟨late, listing, lateEmits⟩ := pushUserlist_emits listed s
  have noted : Queued s taken early := ⟨taking.size, taking.conns, taking.wfds⟩
  have told := Queued.pushes taken ((fd, loginMsg subType uid
    primaryColor) :: taken.fdToUid.entries.map fun entry =>
      (entry.1, onlineMsg uid true))
  have welcomed : Queued taken (taken.welcomed fd uid subType primaryColor) _ :=
    ⟨told.size, told.conns, told.wfds⟩
  refine ⟨_, (noted.trans welcomed).trans listing, ?_⟩
  intro push member
  simp only [List.mem_append, List.mem_cons, List.mem_map] at member
  rcases member with (taken | rfl | ⟨entry, present, rfl⟩) | listed
  · exact earlyEmits push taken
  · exact .welcome code uid primaryColor
  · exact .online (FinMap.mem_entries.mp (fewer present)) uid
  · exact lateEmits push listed

theorem Handled.emits {s s' : Connections ω} {fd : Fd}
    (handled : Handled env s fd s')
    (inverse : FinMap.Inverse s.fdToUid s.uidToFd) :
    ∃ l, Queued s s' l ∧ ∀ push ∈ l, Emits s fd push.1 push.2 := by
  cases handled with
  | answer db made =>
      refine ⟨_, Queued.of_push s db fd _, ?_⟩
      intro push member
      rw [List.mem_singleton.mp member]
      exact .answer made
  | @text db exist uid dstUid type kind size read bound =>
      refine ⟨_, Queued.of_pushes s db
        ((fd, textAnswer exist true) :: (s.textTargets uid dstUid).map
          fun target => (target, textMsg uid (s.frame fd))), ?_⟩
      intro push member
      rcases List.mem_cons.mp member with rfl | member
      · exact .answer (.text exist true)
      · obtain ⟨target, targeted, rfl⟩ := List.mem_map.mp member
        obtain ⟨other, reached⟩ := textTargets_bound inverse targeted
        exact .forward reached (.text uid type kind size
          (by simpa using Buffer.length_of_wordAt read))
  | file db kind size read bound found =>
      refine ⟨_, Queued.of_push s db _ _, ?_⟩
      intro push member
      rw [List.mem_singleton.mp member]
      exact .forward ((inverse _ _).mpr found) (.file kind size
        (by simpa using Buffer.length_of_wordAt read))
  | login db verified took free fresh listed =>
      exact login_emits took listed

end GroupChat.Server.Connections
