import GroupChat.Server.Delivery
import GroupChat.Server.Displaced
import GroupChat.Server.Roster
import GroupChat.Server.Serving

namespace GroupChat.Server

/-! The lengths that the queued messages tell. -/

variable {ω : Type} {env : Env ω}

namespace Message

theorem sized_iff {type subType : UInt8} {size : Nat} {data : Buffer}
    (congruent : data.length % 65536 = size % 65536) :
    Message.sized ⟨⟨type, subType, netLength size⟩, data⟩ = true ↔
      data.length ≤ 65531 := by
  have length : (ntohs (netLength size)).toNat = (4 + size) % 65536 := by
    rw [netLength, ntohs_htons, UInt16.toNat_ofNat']
    rfl
  change decide (4 + data.length = (ntohs (netLength size)).toNat) = true ↔ _
  rw [decide_eq_true_iff, length]
  omega

theorem sized_own {type subType : UInt8} {data : Buffer} :
    Message.sized ⟨⟨type, subType, netLength data.length⟩, data⟩ = true ↔
      data.length ≤ 65531 :=
  sized_iff rfl

end Message

namespace Connections

variable {s s' w : Connections ω} {fd : Fd} {uid : Uid}

/-- The bytes that the handling of a frame takes from the tables to send them
in one message. -/
inductive Fetches (env : Env ω) (s : Connections ω) (fd : Fd) : Nat → Prop
  | online {uid : Uid} {w : Connections ω} {bytes : Nat}
      (greets : s.Greets env fd uid w)
      (size : idBytes (sizeSub w.uidToFd.entries.length 1) = .ok bytes) :
      Fetches env s fd bytes
  | offline {uid : Uid} {w : Connections ω} {ret : Int} {users : List Uid}
      {db : ω} {bytes : Nat} (greets : s.Greets env fd uid w)
      (listed : Database.getAllUid env w.db = .ok (ret, users, db))
      (size : idBytes (sizeSub users.length w.uidToFd.entries.length) =
        .ok bytes) :
      Fetches env s fd bytes
  | username {uid : Uid} {checked : Database.CheckUid ω}
      (type : (s.frame fd).header.type = 0x11)
      (shape : (s.frame fd).header.subType = 0x00 ∧
        (s.frame fd).header.length.toNat = sizeofHeader + 4)
      (read : (s.frame fd).data.wordAt 0 = .ok uid)
      (found : Database.checkUid env s.db (toSigned uid) false [] =
        .ok checked)
      (answered : 0 ≤ checked.ret) (exist : checked.exist = true) :
      Fetches env s fd checked.username.length
  | records {uid myUid : Uid} {checked : Database.CheckUid ω}
      {found : Database.SerhMessage ω}
      (type : (s.frame fd).header.type = 0x12)
      (shape : ((s.frame fd).header.subType = 0x00 ∨
          (s.frame fd).header.subType = 0x01) ∧
        (s.frame fd).header.length.toNat = sizeofHeader + 4)
      (read : (s.frame fd).data.wordAt 0 = .ok uid)
      (mine : s.myUid fd = .ok myUid)
      (party : partyExists env s.db ((s.frame fd).header.subType = 0x00) uid
        true true = .ok checked)
      (answered : 0 ≤ checked.ret) (exist : checked.exist = true)
      (searched : Database.serhMessage env checked.world (toSigned myUid)
        (toSigned uid) = .ok found)
      (selected : 0 ≤ found.ret) :
      Fetches env s fd found.records.length

/-- All that is fetched fits into a message. -/
def Fits16 (env : Env ω) (s : Connections ω) (fd : Fd) : Prop :=
  ∀ bytes, s.Fetches env fd bytes → bytes ≤ 65531

/-- Where a frame was handled, its messages tell their lengths exactly if what
was fetched fits. -/
def TellsSize (env : Env ω) (s s' : Connections ω) (fd : Fd) : Prop :=
  ∃ l, Queued s s' l ∧
    ((∀ push ∈ l, push.2.sized = true) ↔ s.Fits16 env fd)

theorem sized_unknown (type : UInt8) : (unknownMsg type).sized = true :=
  (OwnLast.unknown type).sized

theorem sized_empty (type subType : UInt8) :
    Message.sized ⟨⟨type, subType, Message.netLength 0⟩, []⟩ = true :=
  (@Message.sized_iff type subType 0 [] rfl).mpr (Nat.zero_le _)

theorem sized_login (subType : UInt8) (uid : Uid) (primaryColor : Int) :
    (loginMsg subType uid primaryColor).sized = true := by
  apply (@Message.sized_iff 0x90 subType 8 _ _).mpr
  · simp
  · simp

theorem sized_online (uid : Uid) (online : Bool) :
    (onlineMsg uid online).sized = true := by
  apply (@Message.sized_iff 0xA1 (if online then 0x00 else 0x01) 4 _ _).mpr
  · simp
  · simp

theorem Greets.login (greets : s.Greets env fd uid w) : s.LoginFrame fd := by
  cases greets with
  | intro login => exact login

theorem Greets.type (greets : s.Greets env fd uid w) :
    (s.frame fd).header.type = 0x10 :=
  greets.login.type

theorem Queued.from {origin : Connections ω} {l : List (Fd × Message)}
    (queued : Queued s s' l) (size : s.size = origin.size)
    (conns : s.conns = origin.conns) (wfds : s.wfds = origin.wfds) :
    Queued origin s' l where
  size := queued.size.trans size
  conns := fun fd => by rw [queued.conns, conns]
  wfds := fun fd => by rw [queued.wfds, wfds]

theorem Greets.queued (greets : s.Greets env fd uid w) :
    ∃ l, Queued s w l ∧ ∀ push ∈ l, push.2.sized = true := by
  cases greets with
  | @intro checked primaryColor db subType taken login credentials answered
      legal colored took free fresh =>
      let greeting : List (Fd × Message) :=
        (fd, loginMsg subType checked.uid primaryColor) ::
          taken.fdToUid.entries.map fun entry =>
            (entry.1, onlineMsg checked.uid true)
      have told : Queued taken (taken.pushes greeting) greeting :=
        Queued.pushes taken greeting
      have welcome : Queued taken
          (taken.welcomed fd checked.uid subType primaryColor) greeting :=
        ⟨told.size, told.conns, told.wfds⟩
      obtain ⟨early, taking, shuts⟩ := takeover_queued took
      have taking : Queued s taken early := taking.from rfl rfl rfl
      refine ⟨_, taking.trans welcome, ?_⟩
      intro push member
      rcases List.mem_append.mp member with before | here
      · rw [(shuts push before).1]
        exact OwnLast.shutdown.sized
      rcases List.mem_cons.mp here with rfl | others
      · exact sized_login subType checked.uid primaryColor
      · obtain ⟨entry, _, rfl⟩ := List.mem_map.mp others
        exact sized_online checked.uid true

theorem Greets.unique {uid' : Uid} {w' : Connections ω}
    (greets : s.Greets env fd uid w) (greets' : s.Greets env fd uid' w') :
    uid' = uid ∧ w' = w := by
  cases greets with
  | intro login credentials answered legal colored took free fresh =>
      cases greets' with
      | intro login' credentials' answered' legal' colored' took' free'
          fresh' =>
          rw [credentials] at credentials'
          cases credentials'
          rw [colored] at colored'
          cases colored'
          rw [took] at took'
          cases took'
          exact ⟨rfl, rfl⟩

theorem length_listMsg {subType : UInt8} {len bytes : Nat} {uids : List Uid}
    (inside : 4 * uids.length ≤ bytes) :
    (listMsg subType len bytes uids).data.length = bytes := by
  have ids : (uids.flatMap Buffer.ofWord).length = 4 * uids.length := by
    rw [List.length_flatMap]
    simp [Nat.mul_comm]
  rw [listMsg, Buffer.length_overwrite, List.length_replicate]
  rw [ids, List.length_replicate]
  omega

theorem fillLists_room {bound : Uid → Bool} {users online offline : List Uid}
    {onlineRoom offlineRoom : Nat}
    (filled : fillLists bound uid users onlineRoom offlineRoom =
      .ok (online, offline)) :
    online.length ≤ onlineRoom ∧ offline.length ≤ offlineRoom := by
  induction users generalizing online offline onlineRoom offlineRoom with
  | nil =>
      cases filled
      simp
  | cons user users induction =>
      simp only [fillLists] at filled
      split at filled
      · exact induction filled
      · split at filled
        · obtain ⟨_, room, rest⟩ := Exec.of_bind_ok filled
          obtain ⟨⟨more, away⟩, sorted, rest⟩ := Exec.of_bind_ok rest
          rw [Exec.require_eq_ok] at room
          obtain ⟨here, there⟩ := induction sorted
          cases rest
          simp only [List.length_cons]
          omega
        · obtain ⟨_, room, rest⟩ := Exec.of_bind_ok filled
          obtain ⟨⟨more, away⟩, sorted, rest⟩ := Exec.of_bind_ok rest
          rw [Exec.require_eq_ok] at room
          obtain ⟨here, there⟩ := induction sorted
          cases rest
          simp only [List.length_cons]
          omega

theorem idBytes_ok {len bytes : Nat} (made : idBytes len = .ok bytes) :
    bytes = 4 * len % 18446744073709551616 := by
  obtain ⟨_, _, rest⟩ := Exec.of_bind_ok made
  cases rest
  rfl

theorem sized_list {subType : UInt8} {len bytes : Nat} {uids : List Uid}
    (made : idBytes len = .ok bytes) (inside : uids.length ≤ bytes / 4) :
    (listMsg subType len bytes uids).sized = true ↔ bytes ≤ 65531 := by
  have size := @length_listMsg subType len bytes uids (by omega)
  have whole := idBytes_ok made
  have told : (listMsg subType len bytes uids).sized = true ↔
      (listMsg subType len bytes uids).data.length ≤ 65531 := by
    apply Message.sized_iff
    change (listMsg subType len bytes uids).data.length % 65536 = _
    rw [size]
    omega
  rw [told, size]

theorem TellsSize.of_plain {msg : Message} (db : ω) (sized : msg.sized = true)
    (nothing : ∀ bytes, ¬ s.Fetches env fd bytes) :
    s.TellsSize env ({ s with db := db }.push fd msg) fd := by
  refine ⟨_, Queued.of_push s db fd msg, ?_⟩
  constructor
  · intro _ bytes fetches
    exact absurd fetches (nothing bytes)
  · intro _ push member
    rw [List.mem_singleton.mp member]
    exact sized

theorem TellsSize.of_fetched {msg : Message} {size : Nat} (db : ω)
    (sized : msg.sized = true ↔ size ≤ 65531)
    (fetches : ∀ bytes, s.Fetches env fd bytes ↔ bytes = size) :
    s.TellsSize env ({ s with db := db }.push fd msg) fd := by
  refine ⟨_, Queued.of_push s db fd msg, ?_⟩
  simp only [List.forall_mem_singleton, sized, Fits16, fetches, forall_eq]

theorem TellsSize.of_unknown (db : ω)
    (nothing : ∀ bytes, ¬ s.Fetches env fd bytes) :
    s.TellsSize env ({ s with db := db }.parseUnknown fd) fd :=
  .of_plain db (sized_unknown _) nothing

theorem Greets.tells (greets : s.Greets env fd uid w)
    (pushed : w.pushUserlist env fd = .ok s') : s.TellsSize env s' fd := by
  obtain ⟨early, greeting, sized⟩ := greets.queued
  obtain ⟨ret, users, db, myUid, onlineBytes, offlineBytes, online, offline,
    listed, mine, onlineSize, offlineSize, filled, rfl⟩ :=
    pushUserlist_eq pushed
  obtain ⟨onlineRoom, offlineRoom⟩ := fillLists_room filled
  refine ⟨_, greeting.trans (Queued.of_pushes w db _), ?_⟩
  have fits : s.Fits16 env fd ↔ onlineBytes ≤ 65531 ∧ offlineBytes ≤ 65531 := by
    constructor
    · intro fits
      exact ⟨fits _ (.online greets onlineSize),
        fits _ (.offline greets listed offlineSize)⟩
    · rintro ⟨onlineFits, offlineFits⟩ bytes fetches
      cases fetches with
      | online greets' size =>
          obtain ⟨rfl, rfl⟩ := greets.unique greets'
          rw [onlineSize] at size
          cases size
          exact onlineFits
      | offline greets' listed' size =>
          obtain ⟨rfl, rfl⟩ := greets.unique greets'
          rw [listed] at listed'
          cases listed'
          rw [offlineSize] at size
          cases size
          exact offlineFits
      | username type => exact absurd (greets.type.symm.trans type) (by decide)
      | records type => exact absurd (greets.type.symm.trans type) (by decide)
  rw [fits, ← sized_list onlineSize onlineRoom, ← sized_list offlineSize
    offlineRoom]
  simp only [List.forall_mem_append, List.forall_mem_cons,
    List.not_mem_nil, false_implies, implies_true, and_true]
  exact and_iff_right sized

theorem Fetches.greets {bytes : Nat} (fetches : s.Fetches env fd bytes)
    (type : (s.frame fd).header.type = 0x10) :
    ∃ uid w, s.Greets env fd uid w := by
  cases fetches with
  | online greets size => exact ⟨_, _, greets⟩
  | offline greets listed size => exact ⟨_, _, greets⟩
  | username type' => exact absurd (type.symm.trans type') (by decide)
  | records type' => exact absurd (type.symm.trans type') (by decide)

theorem parseLogin_tells (type : (s.frame fd).header.type = 0x10)
    (parsed : s.parseLogin env fd = .ok s') : s.TellsSize env s' fd := by
  unfold parseLogin at parsed
  dsimp only at parsed
  split at parsed
  · rename_i shape
    cases parsed
    refine .of_unknown s.db ?_
    intro bytes fetches
    obtain ⟨_, _, greets⟩ := fetches.greets type
    have login := greets.login
    rcases shape with kind | size
    · exact kind login.kind
    · exact size login.size
  · rename_i shape
    rw [not_or, not_not, not_not] at shape
    obtain ⟨_, data, rest⟩ := Exec.of_bind_ok parsed
    obtain ⟨checked, credentials, rest⟩ := Exec.of_bind_ok rest
    rw [Exec.require_eq_ok] at data
    have login : s.LoginFrame fd := ⟨type, shape.1, shape.2, data⟩
    split at rest
    · rename_i failed
      cases rest
      refine .of_unknown checked.world ?_
      intro bytes fetches
      obtain ⟨_, _, greets⟩ := fetches.greets type
      cases greets with
      | intro _ credentials' answered =>
          rw [credentials] at credentials'
          cases credentials'
          omega
    · rename_i answered
      have answered := Int.not_lt.mp answered
      obtain ⟨primaryColor, db, colored, refused | legal⟩ :=
        loginChecked_eq rest
      · obtain ⟨illegal, _, rfl⟩ := refused
        have plain : s.TellsSize env ({ s with db := db }.push fd refusedMsg)
            fd := by
          refine .of_plain db OwnLast.refused.sized ?_
          intro bytes fetches
          obtain ⟨_, _, greets⟩ := fetches.greets type
          cases greets with
          | intro _ credentials' _ legal =>
              rw [credentials] at credentials'
              cases credentials'
              exact absurd (illegal.symm.trans legal) Bool.false_ne_true
        simpa [illegal, noteLogin] using plain
      · obtain ⟨legal, subType, taken, took, free, fresh, listed⟩ := legal
        rw [legal] at took colored
        exact Greets.tells (.intro login credentials answered legal colored
          took free fresh) listed

theorem fetches_username_iff (type : (s.frame fd).header.type = 0x11)
    (shape : (s.frame fd).header.subType = 0x00 ∧
      (s.frame fd).header.length.toNat = sizeofHeader + 4)
    {uid : Uid} {checked : Database.CheckUid ω}
    (read : (s.frame fd).data.wordAt 0 = .ok uid)
    (found : Database.checkUid env s.db (toSigned uid) false [] =
      .ok checked) (bytes : Nat) :
    s.Fetches env fd bytes ↔ 0 ≤ checked.ret ∧ checked.exist = true ∧
      bytes = checked.username.length := by
  constructor
  · intro fetches
    cases fetches with
    | online greets | offline greets =>
        exact absurd (type.symm.trans greets.type) (by decide)
    | records type' => exact absurd (type.symm.trans type') (by decide)
    | username _ _ read' found' answered exist =>
        rw [read] at read'
        cases read'
        rw [found] at found'
        cases found'
        exact ⟨answered, exist, rfl⟩
  · intro conditions
    obtain ⟨answered, exist, rfl⟩ := conditions
    exact .username type shape read found answered exist

theorem parseUsername_tells (type : (s.frame fd).header.type = 0x11)
    (parsed : s.parseUsername env fd = .ok s') : s.TellsSize env s' fd := by
  unfold parseUsername at parsed
  dsimp only at parsed
  split at parsed
  · rename_i shape
    cases parsed
    refine .of_unknown s.db ?_
    intro bytes fetches
    cases fetches with
    | online greets | offline greets =>
        exact absurd (type.symm.trans greets.type) (by decide)
    | records type' => exact absurd (type.symm.trans type') (by decide)
    | username _ shape' =>
        rcases shape with kind | size
        · exact kind shape'.1
        · exact size shape'.2
  · rename_i shape
    rw [not_or, not_not, not_not] at shape
    obtain ⟨_, _, rest⟩ := Exec.of_bind_ok parsed
    obtain ⟨uid, read, rest⟩ := Exec.of_bind_ok rest
    obtain ⟨checked, found, rest⟩ := Exec.of_bind_ok rest
    have fetched := fetches_username_iff type shape read found
    split at rest
    · rename_i failed
      cases rest
      refine .of_unknown checked.world ?_
      intro bytes fetches
      have answered := ((fetched bytes).mp fetches).1
      omega
    · rename_i answered
      split at rest
      · rename_i exist
        cases rest
        apply TellsSize.of_fetched checked.world Message.sized_own
        intro bytes
        rw [fetched]
        simp [exist, Int.not_lt.mp answered]
      · rename_i absent
        cases rest
        refine .of_plain checked.world rfl ?_
        intro bytes fetches
        exact absent ((fetched bytes).mp fetches).2.1

theorem fetches_records_iff (type : (s.frame fd).header.type = 0x12)
    (shape : ((s.frame fd).header.subType = 0x00 ∨
        (s.frame fd).header.subType = 0x01) ∧
      (s.frame fd).header.length.toNat = sizeofHeader + 4)
    {uid myUid : Uid} {checked : Database.CheckUid ω}
    (read : (s.frame fd).data.wordAt 0 = .ok uid)
    (mine : s.myUid fd = .ok myUid)
    (party : partyExists env s.db ((s.frame fd).header.subType = 0x00) uid
      true true = .ok checked) (bytes : Nat) :
    s.Fetches env fd bytes ↔
      0 ≤ checked.ret ∧ checked.exist = true ∧ ∃ found,
        Database.serhMessage env checked.world (toSigned myUid)
          (toSigned uid) = .ok found ∧ 0 ≤ found.ret ∧
        bytes = found.records.length := by
  constructor
  · intro fetches
    cases fetches with
    | online greets | offline greets =>
        exact absurd (type.symm.trans greets.type) (by decide)
    | username type' => exact absurd (type.symm.trans type') (by decide)
    | records _ _ read' mine' party' answered exist searched selected =>
        rw [read] at read'
        cases read'
        rw [mine] at mine'
        cases mine'
        rw [party] at party'
        cases party'
        exact ⟨answered, exist, _, searched, selected, rfl⟩
  · intro conditions
    obtain ⟨answered, exist, found, searched, selected, rfl⟩ := conditions
    exact .records type shape read mine party answered exist searched selected

theorem parseChatrecord_tells (type : (s.frame fd).header.type = 0x12)
    (parsed : s.parseChatrecord env fd = .ok s') : s.TellsSize env s' fd := by
  unfold parseChatrecord at parsed
  dsimp only at parsed
  split at parsed
  · rename_i shape
    cases parsed
    refine .of_unknown s.db ?_
    intro bytes fetches
    cases fetches with
    | online greets | offline greets =>
        exact absurd (type.symm.trans greets.type) (by decide)
    | username type' => exact absurd (type.symm.trans type') (by decide)
    | records _ shape' =>
        rcases shape with kind | size
        · exact shape'.1.elim kind.1 kind.2
        · exact size shape'.2
  · rename_i shape
    have shape : ((s.frame fd).header.subType = 0x00 ∨
          (s.frame fd).header.subType = 0x01) ∧
        (s.frame fd).header.length.toNat = sizeofHeader + 4 := by
      tauto
    obtain ⟨_, _, rest⟩ := Exec.of_bind_ok parsed
    obtain ⟨uid, read, rest⟩ := Exec.of_bind_ok rest
    obtain ⟨myUid, mine, rest⟩ := Exec.of_bind_ok rest
    obtain ⟨checked, party, rest⟩ := Exec.of_bind_ok rest
    have fetched := fetches_records_iff type shape read mine party
    split at rest
    · rename_i failed
      cases rest
      refine .of_unknown checked.world ?_
      intro bytes fetches
      have answered := ((fetched bytes).mp fetches).1
      omega
    · rename_i answered
      split at rest
      · rename_i exist
        obtain ⟨found, searched, rest⟩ := Exec.of_bind_ok rest
        split at rest
        · rename_i failed
          cases rest
          refine .of_unknown found.world ?_
          intro bytes fetches
          obtain ⟨_, _, _, searched', selected, _⟩ :=
            (fetched bytes).mp fetches
          rw [searched] at searched'
          cases searched'
          omega
        · rename_i selected
          cases rest
          apply TellsSize.of_fetched found.world Message.sized_own
          intro bytes
          rw [fetched, searched]
          simp [exist, Int.not_lt.mp answered, Int.not_lt.mp selected]
      · rename_i absent
        cases rest
        refine .of_plain checked.world rfl ?_
        intro bytes fetches
        exact absent ((fetched bytes).mp fetches).2.1

theorem Fetches.type {bytes : Nat} (fetches : s.Fetches env fd bytes) :
    (s.frame fd).header.type = 0x10 ∨ (s.frame fd).header.type = 0x11 ∨
      (s.frame fd).header.type = 0x12 := by
  cases fetches with
  | online greets | offline greets => exact .inl greets.type
  | username type => exact .inr (.inl type)
  | records type => exact .inr (.inr type)

theorem Queued.sentTo_eq {l l' : List (Fd × Message)} (queued : Queued s s' l)
    (queued' : Queued s s' l') (other : Fd) :
    sentTo other l = sentTo other l' := by
  have same := (queued.conns other).symm.trans (queued'.conns other)
  have pushed := congrArg (fun conn => conn.history.pushed) same
  exact List.append_cancel_left pushed

/-- The types of the messages whose data come from the tables. -/
def tableTypes : List UInt8 := [0x91, 0x92, 0xA1]

theorem Emits.sized {target : Fd} {msg : Message}
    (emits : Emits s fd target msg)
    (plain : msg.header.type ∉ tableTypes) : msg.sized = true := by
  simp only [tableTypes, List.mem_cons, List.not_mem_nil, or_false, not_or]
    at plain
  cases emits with
  | answer made =>
      cases made with
      | unknown type => exact sized_unknown type
      | refused => exact OwnLast.refused.sized
      | username name => exact absurd rfl plain.1
      | absentUser => exact absurd rfl plain.1
      | absentParty => exact absurd rfl plain.2.1
      | records records => exact absurd rfl plain.2.1
      | text exist online => exact sized_empty 0x93 _
      | changePwd succeed => exact sized_empty 0x95 _
  | welcome code uid primaryColor => exact sized_login _ uid primaryColor
  | list kind len bytes uids => exact absurd rfl plain.2.2
  | shutdown bound => exact OwnLast.shutdown.sized
  | online bound other => exact sized_online other true
  | forward bound made => exact made.sized

/-- The frames that are answered or forwarded with no data of the tables. -/
def plainTypes : List UInt8 := [0x13, 0x15, 0x17, 0x18, 0x19, 0x1A]

theorem plainTypes_answered {type : UInt8} (plain : type ∈ plainTypes) :
    type ||| 0x80 ∉ tableTypes := by
  simp only [plainTypes, List.mem_cons, List.not_mem_nil, or_false] at plain
  rcases plain with rfl | rfl | rfl | rfl | rfl | rfl <;> decide

theorem transfileTypes_plain {type answer : UInt8}
    (kind : (type, answer) ∈ transfileTypes) : answer ∉ tableTypes := by
  simp only [transfileTypes, List.mem_cons, List.not_mem_nil, or_false,
    Prod.mk.injEq] at kind
  rcases kind with ⟨_, rfl⟩ | ⟨_, rfl⟩ | ⟨_, rfl⟩ | ⟨_, rfl⟩ <;> decide

theorem Served.plain (served : Served env s fd s')
    (type : (s.frame fd).header.type ∈ plainTypes) :
    ∃ l, Queued s s' l ∧ ∀ push ∈ l, push.2.header.type ∉ tableTypes := by
  have own := plainTypes_answered type
  cases served with
  | answer world queried made kind =>
      refine ⟨_, Queued.of_push s world fd _, ?_⟩
      intro push member
      rw [List.mem_singleton.mp member, kind]
      exact own
  | history type' =>
      rw [type'] at type
      exact absurd type (by decide)
  | unsaved =>
      refine ⟨_, Queued.of_push s _ fd _, ?_⟩
      intro push member
      rw [List.mem_singleton.mp member]
      exact own
  | @text world uid dstUid exist online =>
      refine ⟨_, Queued.of_pushes s _ ((fd, textAnswer exist online) ::
        if online then (s.textTargets uid dstUid).map fun target =>
          (target, textMsg uid (s.frame fd)) else []), ?_⟩
      intro push member
      rcases List.mem_cons.mp member with rfl | member
      · simp [tableTypes, textAnswer]
      · split at member
        · obtain ⟨target, _, rfl⟩ := List.mem_map.mp member
          simp [tableTypes, textMsg]
        · cases member
  | @file world uid dstUid target type' kind =>
      refine ⟨_, Queued.of_push s world target _, ?_⟩
      intro push member
      rw [List.mem_singleton.mp member]
      exact transfileTypes_plain kind
  | login db type' =>
      rw [type'] at type
      exact absurd type (by decide)

theorem plain_tells (inverse : FinMap.Inverse s.fdToUid s.uidToFd)
    (type : (s.frame fd).header.type ∈ plainTypes)
    (parsed : s.parse env fd = .ok s') : s.TellsSize env s' fd := by
  obtain ⟨l, queued, kinds⟩ := (parse_served parsed).plain type
  obtain ⟨l', queued', emits⟩ := (parse_handled parsed).emits inverse
  refine ⟨l, queued, ?_⟩
  constructor
  · intro _ bytes fetches
    rcases fetches.type with same | same | same <;>
      · rw [same] at type
        exact absurd type (by decide)
  · intro _ push member
    have sent : (push.1, push.2) ∈ l' := by
      rw [← mem_sentTo, ← queued.sentTo_eq queued', mem_sentTo]
      exact member
    exact (emits _ sent).sized (kinds push member)

theorem parse_tells (inverse : FinMap.Inverse s.fdToUid s.uidToFd)
    (parsed : s.parse env fd = .ok s') : s.TellsSize env s' fd := by
  by_cases plain : (s.frame fd).header.type ∈ plainTypes
  · exact plain_tells inverse plain parsed
  · unfold parse at parsed
    simp only [plainTypes, List.mem_cons, List.not_mem_nil, or_false, not_or]
      at plain
    split at parsed
    · exact parseLogin_tells ‹_› parsed
    · exact parseUsername_tells ‹_› parsed
    · exact parseChatrecord_tells ‹_› parsed
    · simp_all
    · simp_all
    · simp_all
    · simp_all
    · simp_all
    · simp_all
    · rename_i login username records _ _ _ _ _ _
      cases parsed
      refine .of_unknown s.db ?_
      intro bytes fetches
      exact fetches.type.elim login (Or.rec username records)

def Told (s : Connections ω) : Prop :=
  ∀ fd, ∀ msg ∈ (s.conns fd).history.pushed, msg.sized = true

theorem Queued.told_iff {l : List (Fd × Message)} (queued : Queued s s' l)
    (told : s.Told) : s'.Told ↔ ∀ push ∈ l, push.2.sized = true := by
  have pushed (fd : Fd) : (s'.conns fd).history.pushed =
      (s.conns fd).history.pushed ++ sentTo fd l := by
    rw [queued.conns, Conn.pushAll_pushed]
  constructor
  · intro after push member
    apply after push.1
    rw [pushed]
    exact List.mem_append_right _ (mem_sentTo.mpr member)
  · intro sized fd msg member
    rw [pushed] at member
    rcases List.mem_append.mp member with before | here
    · exact told fd msg before
    · exact sized _ (mem_sentTo.mp here)

theorem TellsSize.told_iff (tells : s.TellsSize env s' fd) (told : s.Told) :
    s'.Told ↔ s.Fits16 env fd := by
  obtain ⟨l, queued, sized⟩ := tells
  exact (queued.told_iff told).trans sized

theorem Told.congr (told : s.Told) (same : ∀ fd,
    (s'.conns fd).history.pushed = (s.conns fd).history.pushed ∨
      (s'.conns fd).history.pushed = []) : s'.Told := by
  intro fd msg member
  rcases same fd with same | none
  · exact told fd msg (same ▸ member)
  · rw [none] at member
    cases member

end Connections

open Connections

/-- What the frame that a step hands over fetches fits into a message. -/
def State.Fits (env : Env ω) (s : State ω) (step : Step) : Prop :=
  ∀ fd conns, Handles s step fd conns → conns.Fits16 env fd

theorem State.fits_of_unhandled {s : State ω} {step : Step}
    (none : ∀ fd conns, ¬ Handles s step fd conns) : s.Fits env step :=
  fun fd conns handles => absurd handles (none fd conns)

section Steps

variable {s s' : State ω} {target : Fd}

theorem recvMsg_told (reached : (machine env).Reachable s) (told : s.conns.Told)
    {net : List ReadResult}
    (moved : s.next env (.recvMsg target net) = .ok s') :
    s'.conns.Told ↔ s.Fits env (.recvMsg target net) := by
  obtain ⟨⟨keep, conns⟩, received, rest⟩ := Exec.of_bind_ok moved
  cases rest
  have before : (s.conns.setConn target
      ((s.conns.conns target).receive net).2).Told :=
    told.congr fun fd => .inl (setConn_pushed reached target fd net)
  have handled {intake : Intake} (other : intake ≠ .complete)
      (here : ((s.conns.conns target).receive net).1 = intake) :
      s.Fits env (.recvMsg target net) := by
    apply State.fits_of_unhandled
    rintro fd conns ⟨net', same, complete, _⟩
    cases same
    exact other (here.symm.trans complete)
  obtain ⟨_, ⟨intake, _, rfl⟩ | ⟨intake, _, rfl⟩ | ⟨intake, _, rfl⟩ |
    ⟨intake, _, parsed⟩⟩ := recvMsg_ok received
  · exact iff_of_true before (handled (by decide) intake)
  · exact iff_of_true before (handled (by decide) intake)
  · refine iff_of_true ?_ (handled (by decide) intake)
    apply ((Queued.of_push _ s.conns.db target _).told_iff before).mpr
    intro push member
    rw [List.mem_singleton.mp member]
    exact sized_unknown _
  · have inverse := (sessions_invariant.holds reached).inverse
    have tells : (s.conns.setConn target
        ((s.conns.conns target).receive net).2).TellsSize env conns target :=
      parse_tells inverse parsed
    refine (tells.told_iff before).trans ?_
    constructor
    · rintro fits fd conns ⟨net', same, _, rfl⟩
      cases same
      exact fits
    · intro fits
      exact fits target _ ⟨net, rfl, intake, rfl⟩

theorem closeConn_told (told : s.conns.Told)
    (moved : s.next env (.closeConn target) = .ok s') : s'.conns.Told := by
  obtain ⟨conns, ended, rest⟩ := Exec.of_bind_ok moved
  cases rest
  have reset (after : Connections ω) (kept : after.Told) :
      (after.closed target).Told := by
    apply kept.congr
    intro fd
    left
    rw [closed, setConn_conns]
    split
    · rename_i here
      rw [here]
      rfl
    · rfl
  obtain ⟨_, ⟨_, rfl⟩ | ⟨uid, _, _, _, rfl⟩⟩ := closeConn_ok ended
  · exact reset _ told
  · apply reset
    apply ((Queued.pushes (s.conns.unbind target uid) _).told_iff told).mpr
    intro push member
    obtain ⟨entry, _, rfl⟩ := List.mem_map.mp member
    exact sized_online uid false

theorem State.next_told {step : Step} (reached : (machine env).Reachable s)
    (told : s.conns.Told) (moved : s.next env step = .ok s') :
    s'.conns.Told ↔ s.Fits env step := by
  cases step with
  | recvMsg target net => exact recvMsg_told reached told moved
  | accept target =>
      cases moved
      refine iff_of_true (told.congr ?_) (State.fits_of_unhandled ?_)
      · intro fd
        by_cases same : fd = target
        · exact .inr (by simp [accepted, same])
        · exact .inl (by simp [accepted, setConn_conns, same])
      · rintro fd conns ⟨net, impossible, _⟩
        cases impossible
  | sendMsg target net =>
      obtain ⟨⟨keep, conns⟩, sent, rest⟩ := Exec.of_bind_ok moved
      cases rest
      obtain ⟨_, _, _, outlet, conn, _, wrote, _, rfl⟩ := sendMsg_ok sent
      obtain ⟨reported, chunk, transmitted⟩ := Conn.transmit_transmitted wrote
      refine iff_of_true (told.congr ?_) (State.fits_of_unhandled ?_)
      · intro fd
        left
        change ((s.conns.setConn target conn).conns fd).history.pushed = _
        rw [setConn_conns]
        split
        · rename_i here
          rw [here, transmitted.pushed]
        · rfl
      · rintro fd conns ⟨net, impossible, _⟩
        cases impossible
  | closeConn target =>
      refine iff_of_true (closeConn_told told moved)
        (State.fits_of_unhandled ?_)
      rintro fd conns ⟨net, impossible, _⟩
      cases impossible

end Steps

theorem told_invariant : ((machine env).restrict (State.Fits env)).Invariant
    fun s => s.conns.Told where
  start := by
    rintro _ ⟨db, size, rfl⟩ fd msg member
    cases member
  kept := by
    intro before step after reached told allowed moved
    exact (State.next_told reached.of_restrict told moved).mpr allowed.2

/-- What is in a queue was pushed since the connection was accepted. -/
theorem queue_invariant : (machine env).Invariant fun s =>
    ∀ fd, (s.conns.conns fd).sendQue ⊆ (s.conns.conns fd).history.pushed where
  start := by
    rintro _ ⟨db, size, rfl⟩ fd msg member
    cases member
  kept := by
    intro before step after reached queued allowed moved fd
    have kept := sessions_invariant.holds reached
    have queues := queues_invariant.holds reached fd
    cases State.moves kept allowed moved fd with
    | accept closed opened conn wfds hung =>
        rw [conn, (queues.resting closed).sendQue]
        exact List.nil_subset _
    | @recvMsg net l opened clientFds conn fresh wfds hung =>
        obtain ⟨reported, received⟩ :=
          Conn.receive_received net queues.receiving
        rw [conn, Conn.pushAll_sendQue, Conn.pushAll_pushed,
          received.same.sendQue, received.same.pushed]
        exact List.append_subset.mpr
          ⟨List.Subset.trans (queued fd) (List.subset_append_left _ _),
            List.subset_append_right _ _⟩
    | @sendMsg net front outlet next opened clientFds found sent conn wfds
        hung =>
        obtain ⟨reported, chunk, transmitted⟩ := Conn.transmit_transmitted sent
        rw [conn, transmitted.pushed]
        by_cases done : outlet = .popped
        · rw [(transmitted.popped done).2.2.2]
          exact List.Subset.trans (List.tail_sublist _).subset (queued fd)
        · rw [transmitted.kept done]
          exact queued fd
    | closeConn closed conn wfds hung =>
        rw [conn]
        exact List.nil_subset _
    | @other _ l elsewhere clientFds opened conn fresh wfds hung =>
        rw [conn, Conn.pushAll_sendQue, Conn.pushAll_pushed]
        exact List.append_subset.mpr
          ⟨List.Subset.trans (queued fd) (List.subset_append_left _ _),
            List.subset_append_right _ _⟩

theorem Conn.sendData_completes {msg : Message} (sized : msg.sized = true)
    (conn : Conn) (net : List WriteResult) :
    (conn.sendData msg net).completes = true := by
  simp only [sendData, Exec.require_of (of_decide_eq_true sized),
    Exec.bind_ok]
  split
  · split
    · rfl
    · split <;> rfl
  · rfl

/-- In every run in which what is fetched for a message fits into one, every
message that was pushed tells its length, and the assertion of `send_data`
holds of every message in a queue; and the first time it does not fit, a
message is pushed that does not tell its length. -/
theorem lengths_told (env : Env ω) (s : State ω)
    (reached : ((machine env).restrict (State.Fits env)).Reachable s) :
    s.conns.Told ∧
      (∀ fd, ∀ msg ∈ (s.conns.conns fd).sendQue,
        msg.sized = true ∧ ∀ (conn : Conn) net,
          (conn.sendData msg net).completes = true) ∧
      ∀ step s', (machine env).enabled s step →
        (machine env).next s step = .ok s' →
          (s'.conns.Told ↔ s.Fits env step) := by
  have told := told_invariant.holds reached
  have raw := reached.of_restrict
  refine ⟨told, ?_, ?_⟩
  · intro fd msg member
    have sized := told fd msg (queue_invariant.holds raw fd member)
    exact ⟨sized, Conn.sendData_completes sized⟩
  · intro step s' _ moved
    exact State.next_told raw told moved

def usernameFrame (uid : Uid) : Message :=
  .ofData 0x11 0x00 (Buffer.ofWord uid)

def oneStranger : State (List Record) where
  conns := (Connections.init [] 1024).accepted 4
  clientFds := Function.update (fun _ => false) 4 true
  hung := Function.update (fun _ => false) 4 false

theorem oneStranger_fits : oneStranger.Fits (Tables.keptEnv threeAccounts)
    (.recvMsg 4 (whole (usernameFrame 2))) := by
  have handed : oneStranger.conns.Handed 4 (whole (usernameFrame 2))
      (usernameFrame 2) := by
    constructor <;> decide +kernel
  rintro fd conns ⟨net, same, _, rfl⟩ bytes fetches
  cases same
  have frame := frame_handed handed
  have type := congrArg (fun msg => msg.header.type) frame
  cases fetches with
  | online greets | offline greets =>
      exact absurd (greets.type.symm.trans type) (by decide)
  | records type' => exact absurd (type'.symm.trans type) (by decide)
  | @username uid checked _ _ read found =>
      rw [frame] at read
      have user : uid = 2 := by
        have word : (usernameFrame 2).data.wordAt 0 = .ok 2 := by decide
        rw [word] at read
        exact (Except.ok.inj read).symm
      have short : (Database.checkUid (Tables.keptEnv threeAccounts) []
          (toSigned 2) false []).any
            (fun checked => checked.username.length ≤ 65531) = true := by
        decide +kernel
      rw [user] at found
      obtain ⟨_, found', short⟩ := Exec.any_iff.mp short
      cases found.symm.trans found'
      exact of_decide_eq_true short

theorem lengths_told_name : ∃ s : State (List Record),
    (s.conns.conns 4).sendQue.length = 1 ∧ s.conns.Told := by
  have first : ((machine (Tables.keptEnv threeAccounts)).restrict
      (State.Fits (Tables.keptEnv threeAccounts))).Reachable oneStranger := by
    refine @Machine.Reachable.step _ _ _ _ _ (.accept 4)
      (.initial (keptEnv_initial threeAccounts)) ⟨by decide, ?_⟩ rfl
    apply State.fits_of_unhandled
    rintro fd conns ⟨net, impossible, _⟩
    cases impossible
  have goes : (oneStranger.next (Tables.keptEnv threeAccounts)
      (.recvMsg 4 (whole (usernameFrame 2)))).any
        (fun s => (s.conns.conns 4).sendQue.length = 1) = true := by
    decide +kernel
  obtain ⟨s, moved, one⟩ := Exec.any_iff.mp goes
  refine ⟨s, of_decide_eq_true one, (lengths_told _ s (.step first
    ⟨by decide, oneStranger_fits⟩ moved)).1⟩

/-- Sixty-four long texts of the second user to everybody. -/
def longTalk : List Stored :=
  List.replicate 64 ⟨2, 0xFFFF, 0, List.replicate 1024 65⟩

def recordOf (stored : Stored) : Record where
  sendid := Decimal.ofInt stored.sendid
  recvid := Decimal.ofInt stored.recvid
  time := Decimal.ofInt stored.time
  message := stored.message

def talkEnv : Env Unit where
  query := fun _ sqlstr =>
    ((Tables.mk threeAccounts (longTalk.map recordOf)).answer sqlstr, ())
  time := fun _ => 0
  stray := fun _ => false

theorem longTalk_same {stored : Stored} (member : stored ∈ longTalk) :
    stored = ⟨2, 0xFFFF, 0, List.replicate 1024 65⟩ :=
  List.eq_of_mem_replicate member

theorem longTalk_between :
    longTalk.filter (Stored.between 1 0xFFFF) = longTalk := by
  apply List.filter_eq_self.mpr
  intro stored member
  rw [longTalk_same member]
  rfl

theorem talk_answers :
    Database.HistoryAnswers talkEnv () 1 0xFFFF 100 longTalk where
  counted := by decide +kernel
  selected := by
    have everything : (longTalk.map recordOf).filter (Tables.selects
        (Stored.request 1 0xFFFF).cString) =
          longTalk.map recordOf := by
      apply List.filter_eq_self.mpr
      intro record member
      obtain ⟨stored, here, rfl⟩ := List.mem_map.mp member
      rw [longTalk_same here]
      decide +kernel
    refine ⟨_, rfl, ?_⟩
    rw [longTalk_between, everything, List.map_map, List.forall₂_map_left_iff]
    exact List.forall₂_same.mpr fun stored _ => ⟨rfl, rfl, rfl⟩

theorem talk_records : ∃ records,
    Database.serhMessage talkEnv () 1 0xFFFF = .ok ⟨0, records, ()⟩ ∧
      records.length = 66368 := by
  have proper : ∀ stored ∈ longTalk, stored.Proper := by
    intro stored member
    rw [longTalk_same member]
    refine ⟨by decide, by decide, ?_⟩
    intro zero
    exact absurd (List.eq_of_mem_replicate zero) (by decide)
  have all : (longTalk.filter (Stored.between 1 0xFFFF)).length = 64 := by
    rw [longTalk_between, longTalk, List.length_replicate]
  obtain ⟨_, made⟩ := Database.serhMessage_eq talk_answers proper (by decide)
    (by rw [all]; decide)
  refine ⟨_, made, ?_⟩
  have one : (Stored.encoded
      ⟨2, 0xFFFF, 0, List.replicate 1024 65⟩).length = 1037 := by
    simp only [Stored.encoded, List.length_append, Buffer.length_ofWord,
      Database.length_ofLong, List.length_replicate, List.length_singleton]
  rw [lastOf_of_length_le (by rw [all]; decide), longTalk_between, longTalk,
    List.length_flatMap, List.map_replicate, one]
  rfl

/-- A history of sixty-four long texts is longer than its length field can
tell. -/
theorem history_untold : ¬ ∀ s, (machine talkEnv).Reachable s →
    s.conns.Told := by
  intro always
  have replayed : ((machine talkEnv).replay (.init () 1024)
      (arrives 4 [loginFrame "a"])).any (fun s =>
        handsOver s 4 (historyFrame 0x01 0xFFFF) ∧
          s.conns.fdToUid.lookup 4 = some 1 ∧ (s.next talkEnv
            (.recvMsg 4 (whole (historyFrame 0x01 0xFFFF)))).completes) =
              true := by
    decide +kernel
  obtain ⟨s, reached, holds⟩ :=
    Machine.Reachable.of_replay replayed ⟨_, _, rfl⟩
  obtain ⟨handing, bound, goes⟩ := of_decide_eq_true holds
  obtain ⟨opened, handed⟩ := of_decide_eq_true handing
  obtain ⟨s', moved⟩ := Exec.completes_iff.mp goes
  have allowed : (machine talkEnv).enabled s
      (.recvMsg 4 (whole (historyFrame 0x01 0xFFFF))) := opened
  have fits := (State.next_told reached (always s reached) moved).mp
    (always s' (.step reached allowed moved))
  have frame := frame_handed handed
  have inverse := (sessions_invariant.holds reached).inverse
  obtain ⟨records, searched, size⟩ := talk_records
  have fetches : (s.conns.setConn 4 ((s.conns.conns 4).receive
      (whole (historyFrame 0x01 0xFFFF))).2).Fetches talkEnv 4
        records.length := by
    refine @Fetches.records Unit talkEnv _ 4 0xFFFF 1 ⟨0, true, [], ()⟩
      ⟨0, records, ()⟩ ?_ ?_ ?_ ?_ ?_ ?_ ?_ ?_ ?_
    · rw [frame]
      rfl
    · rw [frame]
      decide
    · rw [frame]
      decide
    · exact myUid_eq.mpr ⟨bound, (inverse 4 1).mp bound⟩
    · rw [frame]
      rfl
    · exact Int.le_refl 0
    · rfl
    · rw [show toSigned 1 = 1 by decide,
        show toSigned 0xFFFF = 0xFFFF by decide]
      exact searched
    · exact Int.le_refl 0
  have short := fits 4 _ ⟨_, rfl, handed.1, rfl⟩ _ fetches
  rw [size] at short
  exact absurd short (by decide)

end GroupChat.Server
