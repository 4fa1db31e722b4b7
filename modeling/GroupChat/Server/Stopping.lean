import GroupChat.Server.Outgoing
import GroupChat.Server.Sizes
import GroupChat.Server.Working

namespace GroupChat.Server

/-! Which step stops the server. -/

variable {ω : Type} {env : Env ω} {users : List Uid} {charset : Charset}

namespace Conn

variable {conn : Conn} {msg : Message} {net : List WriteResult}

/-- A call comes to the payload of the message. -/
def comesToData (conn : Conn) (msg : Message) (net : List WriteResult) :
    Bool :=
  !conn.sendingHeader || conn.headerOut net && !lastHeader msg.header

theorem sendData_completes_iff :
    (∃ result, conn.sendData msg net = .ok result) ↔ msg.sized = true := by
  constructor
  · intro completes
    obtain ⟨result, sent⟩ := completes
    exact sendData_sized sent
  · intro sized
    exact Exec.completes_iff.mp (sendData_completes sized conn net)

/-- The assertion of `send_data` is all that can stop a call. -/
theorem transmit_completes_iff (proper : conn.Sending msg) :
    (∃ result, conn.transmit msg net = .ok result) ↔
      (conn.comesToData msg net = true → msg.sized = true) := by
  cases header : conn.sendingHeader with
  | false =>
      simp only [transmit, comesToData, header, Bool.false_eq_true, if_false,
        Bool.not_false, Bool.true_or, forall_const]
      exact sendData_completes_iff
  | true =>
      have position := (sending_header header).mp proper
      have size : (msg.header.memory.drop conn.sendLen).length =
          sizeofHeader - conn.sendLen := by
        rw [List.length_drop, Header.length_memory]
        rfl
      have behind := writeToFd_behind net
        (msg.header.memory.drop conn.sendLen)
      rw [size] at behind
      simp only [transmit, comesToData, headerOut, header, if_true,
        Bool.not_true, Bool.false_or, Bool.true_and]
      unfold sendHeader
      dsimp only
      cases out : writeBehind net (sizeofHeader - conn.sendLen) with
      | none =>
          simp only [out] at behind
          simp only [Option.isSome_none, Bool.false_and, Bool.false_eq_true,
            false_implies, iff_true]
          split
          next => exact ⟨_, rfl⟩
          next some =>
            rw [if_pos (by rw [wrote_sendLen]; omega)]
            exact ⟨_, rfl⟩
      | some rest =>
          simp only [out] at behind
          rw [if_neg (by omega), if_neg (by rw [wrote_sendLen]; omega)]
          simp only [Option.isSome_some, Bool.true_and]
          cases last : lastHeader msg.header with
          | true =>
              simp only [if_true, Bool.not_true, Bool.false_eq_true,
                false_implies, iff_true]
              exact ⟨_, rfl⟩
          | false =>
              simp only [Bool.false_eq_true, if_false, Bool.not_false,
                forall_const]
              exact sendData_completes_iff

end Conn

namespace Connections

variable {s : Connections ω} {fd : Fd} {uid : Uid}

/-- The name is a text of the character set, or the replies have what is read
of them for its credentials. -/
def Readable (env : Env ω) (charset : Charset) (world : ω)
    (username passwd : Buffer) : Prop :=
  charset.Literal username ∨ ¬ Unread env world username passwd

/-- A verdict fits the sessions: a login with right credentials does, and with
wrong ones the connection has no session. -/
def Suits (s : Connections ω) (fd : Fd) : Verdict → Prop
  | .right uid first => s.Fits fd uid first
  | .wrong => s.fdToUid.lookup fd = none

/-- A login that the database and the sessions let through, if its shape is
right: the replies can be read, and the verdict they come to fits. -/
def Admits (env : Env ω) (charset : Charset) (s : Connections ω) (fd : Fd)
    (frame : Message) : Prop :=
  frame.header.subType = 0x00 → frame.header.length = 60 →
    Readable env charset s.db (fixedField frame.data 0 28)
        (fixedField frame.data 28 28) ∧
      ∀ verdict, Concluded env s.db (fixedField frame.data 0 28)
        (fixedField frame.data 28 28) verdict → s.Suits fd verdict

/-- What a frame of a user needs beyond its shape: a text or a file begins with
the id of a user, who has a session if it is a file, or if it is a public text,
is stored and is not for everybody; for a change of password the replies on the
name that is found and the old password can be read. -/
def Deliverable (env : Env ω) (charset : Charset) (s : Connections ω)
    (uid : Uid) (frame : Message) : Prop :=
  match frame.header.type with
  | 0x13 => sizeofHeader + 4 ≤ frame.header.length.toNat ∧
      ∃ dstUid, frame.data.wordAt 0 = .ok dstUid ∧
        (frame.header.subType = 0x01 → dstUid = 0xFFFF ∨
          s.bound dstUid = true ∨ (saved env s.db frame uid dstUid).1 < 0)
  | 0x15 => Readable env charset (nameReply env s.db (toSigned uid)).2
      (nameIn (nameReply env s.db (toSigned uid)).1)
      (fixedField frame.data 0 28)
  | 0x17 | 0x18 | 0x19 | 0x1A => sizeofHeader + 4 ≤ frame.header.length.toNat ∧
      ∃ dstUid, frame.data.wordAt 0 = .ok dstUid ∧ s.bound dstUid = true
  | _ => True

/-- A frame that leaves the server running. -/
def Bearable (env : Env ω) (charset : Charset) (s : Connections ω) (fd : Fd)
    (frame : Message) : Prop :=
  if frame.header.type = 0x10 then s.Admits env charset fd frame
  else if frame.header.type ∈ sessionTypes then
    Misshapen frame ∨ ∃ uid, s.fdToUid.lookup fd = some uid ∧
      s.Deliverable env charset uid frame
  else True

/-- The data of a frame are those its header announces, if it announces any. -/
def Whole (frame : Message) : Prop :=
  sizeofHeader < frame.header.length.toNat →
    sizeofHeader + frame.data.length = frame.header.length.toNat

theorem pushTextmsg_completes_iff {dstUid : Uid} {msg : Message} :
    (∃ s', s.pushTextmsg uid dstUid msg = .ok s') ↔
      dstUid = 0xFFFF ∨ s.bound dstUid = true := by
  unfold pushTextmsg bound
  split
  next everybody => exact iff_of_true ⟨_, rfl⟩ (.inl everybody)
  next one =>
    cases s.uidToFd.lookup dstUid with
    | none => simp [one]
    | some target => simp

theorem readable_iff (working : Working env users charset) {world : ω}
    {username passwd : Buffer} :
    Readable env charset world username passwd ↔
      ¬ Unread env world username passwd := by
  constructor
  · intro readable
    rcases readable with literal | readable
    · exact working.judges world username passwd literal
    · exact readable
  · exact Or.inr

section Handlers

variable (working : Working env users charset)

include working

/-- A login that is answered ends as its verdict has it. -/
theorem loginChecked_gives (inverse : FinMap.Inverse s.fdToUid s.uidToFd)
    (registered : s.Registered users) {username passwd : Buffer}
    {login : Database.LoginCheck ω} {verdict : Verdict}
    (checked : Database.loginCheck env s.db username passwd false true 0 =
      .ok login) (answered : 0 ≤ login.ret) (gives : login.Gives verdict) :
    (∃ s', loginChecked env ({ s with db := login.world }.noteLogin fd
      login.legal login.uid) fd login.legal login.first login.uid = .ok s') ↔
      s.Suits fd verdict := by
  cases verdict with
  | right uid first =>
      obtain ⟨legal, rfl, rfl⟩ := gives
      have known : login.uid ∈ users := working.granted login.uid
        ⟨_, _, _, _, checked, legal, answered, rfl⟩
      rw [legal]
      have completes := @loginChecked_legal ω env users
        ({ s with db := login.world }.noteLogin fd true login.uid) fd login.uid
        login.first working.toDirectory inverse registered known
      exact completes.trans (and_iff_left (working.answers _))
  | wrong =>
      have illegal : login.legal = false := gives
      rw [illegal]
      exact @loginChecked_refused ω env users
        ({ s with db := login.world }.noteLogin fd false login.uid) fd login.uid
        login.first working.toDirectory

theorem parseLogin_completes_iff (inverse : FinMap.Inverse s.fdToUid s.uidToFd)
    (registered : s.Registered users) (whole : Whole (s.frame fd)) :
    (∃ s', s.parseLogin env fd = .ok s') ↔
      s.Admits env charset fd (s.frame fd) := by
  cases shape : decide ((s.frame fd).header.subType = 0x00 ∧
      (s.frame fd).header.length = 60) with
  | false =>
      have shape := of_decide_eq_false shape
      have refused : (s.frame fd).header.subType ≠ 0x00 ∨
          (s.frame fd).header.length.toNat ≠ sizeofHeader + 56 := by
        apply Decidable.or_iff_not_imp_left.mpr
        intro kind size
        exact shape ⟨not_not.mp kind, UInt16.toNat.inj size⟩
      refine iff_of_true ?_ ?_
      · simp only [parseLogin, refused, if_true]
        exact ⟨_, rfl⟩
      · intro kind size
        exact absurd ⟨kind, size⟩ shape
  | true =>
      obtain ⟨kind, size⟩ := of_decide_eq_true shape
      have length : (s.frame fd).header.length.toNat = sizeofHeader + 56 := by
        rw [size]
        rfl
      have data := whole (by rw [length]; decide)
      have full : (s.frame fd).data.length = 56 := by omega
      have accepted : ¬ ((s.frame fd).header.subType ≠ 0x00 ∨
          (s.frame fd).header.length.toNat ≠ sizeofHeader + 56) := by
        simp [kind, length]
      rw [Admits, forall_prop_of_true kind, forall_prop_of_true size,
        readable_iff working]
      constructor
      · intro completes
        obtain ⟨s', parsed⟩ := completes
        simp only [parseLogin, accepted, if_false, Exec.require_of full,
          Exec.bind_ok] at parsed
        obtain ⟨login, checked, rest⟩ := Exec.of_bind_ok parsed
        refine ⟨loginCheck_completes_iff.mp ⟨login, checked⟩, ?_⟩
        intro verdict concluded
        obtain ⟨login', checked', answered, gives⟩ := concluded.gives
        cases checked.symm.trans checked'
        rw [if_neg (by omega)] at rest
        exact (loginChecked_gives working inverse registered checked answered
          gives).mp ⟨s', rest⟩
      · rintro ⟨readable, verdicts⟩
        obtain ⟨login, checked⟩ : ∃ login, Database.loginCheck env s.db
            (fixedField (s.frame fd).data 0 28)
            (fixedField (s.frame fd).data 28 28) false true 0 = .ok login :=
          loginCheck_completes_iff.mpr readable
        simp only [parseLogin, accepted, if_false, Exec.require_of full,
          Exec.bind_ok, checked]
        split
        next => exact ⟨_, rfl⟩
        next answered =>
          obtain ⟨verdict, concluded, gives⟩ :=
            concluded_of_loginCheck checked (by omega)
          exact (loginChecked_gives working inverse registered checked
            (by omega) gives).mpr (verdicts verdict concluded)

theorem parseUsername_completes (whole : Whole (s.frame fd)) :
    ∃ s', s.parseUsername env fd = .ok s' := by
  unfold parseUsername
  dsimp only
  split
  next => exact ⟨_, rfl⟩
  next shape =>
    obtain ⟨_, size⟩ := not_or.mp shape
    rw [not_not] at size
    have length := whole (by rw [size]; decide)
    have data : (s.frame fd).data.length = 4 := by omega
    obtain ⟨uid, read⟩ := @Buffer.wordAt_of_length (s.frame fd).data 0
      (by omega)
    obtain ⟨checked, found⟩ := @Working.checkUid_completes ω env users charset
      s.db working (toSigned uid) false []
    simp only [Exec.require_of data, read, found, Exec.bind_ok]
    split
    next => exact ⟨_, rfl⟩
    next =>
      split
      next => exact ⟨_, rfl⟩
      next => exact ⟨_, rfl⟩

theorem parseChatrecord_completes (whole : Whole (s.frame fd))
    (mine : s.myUid fd = .ok uid) :
    ∃ s', s.parseChatrecord env fd = .ok s' := by
  unfold parseChatrecord
  dsimp only
  split
  next => exact ⟨_, rfl⟩
  next shape =>
    obtain ⟨_, size⟩ := not_or.mp shape
    rw [not_not] at size
    have length := whole (by rw [size]; decide)
    have data : (s.frame fd).data.length = 4 := by omega
    obtain ⟨dstUid, read⟩ := @Buffer.wordAt_of_length (s.frame fd).data 0
      (by omega)
    obtain ⟨checked, found⟩ := @Working.partyExists_completes ω env users
      charset
      s.db working ((s.frame fd).header.subType = 0x00) dstUid true true
    obtain ⟨history, searched⟩ := @Working.serhMessage_completes ω env users
      charset
      checked.world working (toSigned uid) (toSigned dstUid)
    simp only [Exec.require_of data, read, mine, found, Exec.bind_ok]
    split
    next => exact ⟨_, rfl⟩
    next =>
      split
      next =>
        simp only [searched, Exec.bind_ok]
        split
        next => exact ⟨_, rfl⟩
        next => exact ⟨_, rfl⟩
      next => exact ⟨_, rfl⟩

theorem parseChangePwd_completes_iff (whole : Whole (s.frame fd))
    (mine : s.myUid fd = .ok uid) (type : (s.frame fd).header.type = 0x15)
    (shape : ¬ Misshapen (s.frame fd)) :
    (∃ s', s.parse env fd = .ok s') ↔
      s.Deliverable env charset uid (s.frame fd) := by
  simp only [Misshapen, type] at shape
  obtain ⟨_, size⟩ := not_or.mp shape
  rw [not_not] at size
  have length := whole (by rw [size]; decide)
  have data : (s.frame fd).data.length = 56 := by omega
  have completes := @Working.updatePasswd_completes_iff ω env users charset
    s.db working (toSigned uid) (fixedField (s.frame fd).data 28 28)
    (fixedField (s.frame fd).data 0 28)
  simp only [Deliverable, type]
  rw [readable_iff working, ← completes]
  simp only [parse, type, parseChangePwd, shape, if_false, mine,
    Exec.require_of data, Exec.bind_ok]
  constructor
  · intro completes
    obtain ⟨s', parsed⟩ := completes
    obtain ⟨result, updated, _⟩ := Exec.of_bind_ok parsed
    exact ⟨result, updated⟩
  · intro returns
    obtain ⟨result, updated⟩ := returns
    simp only [updated, Exec.bind_ok]
    exact ⟨_, rfl⟩

/-- A text that is not refused is handled to its end unless it is a public one
for a user who is not there, and is stored. -/
theorem parse_text_completes {dstUid : Uid}
    (type : (s.frame fd).header.type = 0x13) (shape : TextShape (s.frame fd))
    (size : sizeofHeader + (s.frame fd).data.length =
      (s.frame fd).header.length.toNat)
    (read : (s.frame fd).data.wordAt 0 = .ok dstUid)
    (mine : s.myUid fd = .ok uid) :
    (∃ s', s.parse env fd = .ok s') ↔
      ((s.frame fd).header.subType = 0x01 → dstUid = 0xFFFF ∨
        s.bound dstUid = true ∨
        (saved env s.db (s.frame fd) uid dstUid).1 < 0) := by
  obtain ⟨checked, found⟩ : ∃ checked,
      s.party env (s.frame fd) dstUid = .ok checked :=
    working.partyExists_completes _ dstUid false _
  rw [parse_text type shape size read mine found]
  rcases shape.kind with kind | kind
  · -- a private text is forwarded only where its receiver is there
    have other : ¬ (s.frame fd).header.subType = 0x01 := by
      rw [kind]
      decide
    refine iff_of_true ?_ (fun public' => absurd public' other)
    split
    next => exact ⟨_, rfl⟩
    next =>
      dsimp only
      split
      next => exact ⟨_, rfl⟩
      next =>
        split
        next there =>
          rw [reaches, if_pos kind] at there
          exact pushTextmsg_completes_iff.mpr (.inr there)
        next => exact ⟨_, rfl⟩
  · have public' : (s.frame fd).header.subType ≠ 0x00 := by
      rw [kind]
      decide
    have there : s.reaches (s.frame fd) dstUid = true := by
      rw [reaches, if_neg public']
    simp only [party, partyExists, public', decide_false, Bool.false_eq_true,
      if_false] at found
    cases found
    simp only [Int.lt_irrefl, if_false, there, if_true, kind, forall_const]
    split
    next failed => exact iff_of_true ⟨_, rfl⟩ (.inr (.inr failed))
    next done =>
      rw [pushTextmsg_completes_iff]
      constructor
      · intro reached
        exact reached.imp_right .inl
      · intro reached
        rcases reached with everybody | here | failed
        · exact .inl everybody
        · exact .inr here
        · exact absurd failed done

theorem parseTextmsg_completes_iff (whole : Whole (s.frame fd))
    (mine : s.myUid fd = .ok uid)
    (type : (s.frame fd).header.type = 0x13) :
    (∃ s', s.parse env fd = .ok s') ↔
      Misshapen (s.frame fd) ∨ s.Deliverable env charset uid (s.frame fd) := by
  have misshapen : Misshapen (s.frame fd) ↔ ¬ TextShape (s.frame fd) := by
    simp only [Misshapen, type]
    constructor
    · intro refused shape
      have kind := shape.kind
      have short := shape.short
      rcases refused with other | long
      · exact kind.elim other.1 other.2
      · omega
    · intro other
      by_contra accepted
      rw [not_or, not_and_or, not_not, not_not, Nat.not_lt] at accepted
      exact other ⟨accepted.1, accepted.2⟩
  rw [misshapen]
  by_cases shape : TextShape (s.frame fd)
  · simp only [shape, not_true_eq_false, false_or, Deliverable, type]
    constructor
    · intro completes
      obtain ⟨s', parsed⟩ := completes
      obtain ⟨size, dstUid, read, _⟩ := parse_text_reads type shape parsed
      have room := Buffer.length_of_wordAt read
      exact ⟨by omega, dstUid, read, (parse_text_completes working type shape
        size read mine).mp ⟨s', parsed⟩⟩
    · intro deliverable
      obtain ⟨payload, dstUid, read, reached⟩ := deliverable
      have size := whole (by omega)
      exact (parse_text_completes working type shape size read mine).mpr
        reached
  · exact iff_of_true ⟨_, parse_misshapenText type shape⟩ (.inl shape)

end Handlers

theorem pushTransfile_completes_iff {type : UInt8} {dstUid : Uid}
    {msg : Message} (db : ω) :
    (∃ s', pushTransfile type { s with db := db } dstUid msg = .ok s') ↔
      s.bound dstUid = true := by
  unfold pushTransfile bound
  cases s.uidToFd.lookup dstUid with
  | none => simp
  | some target => simp

theorem files_shaped {frame : Message} (whole : Whole frame)
    (type : frame.header.type ∈ ([0x17, 0x18, 0x19, 0x1A] : List UInt8))
    (shape : ¬ Misshapen frame) :
    frame.header.length.toNat = sizeofHeader + frame.data.length ∧
      TransfileFits frame.header.type frame.data.length := by
  simp only [List.mem_cons, List.not_mem_nil, or_false] at type
  rcases type with type | type | type | type
  · simp only [Misshapen, type, not_not] at shape
    have data := whole (by rw [shape]; decide)
    refine ⟨data.symm, fun _ => by omega, ?_, ?_⟩
    · simp [type]
    · simp [type]
  · simp only [Misshapen, type, not_not] at shape
    have data := whole (by rw [shape]; decide)
    refine ⟨data.symm, ?_, fun _ => by omega, ?_⟩
    · simp [type]
    · simp [type]
  · simp only [Misshapen, type, not_not] at shape
    refine ⟨shape, ?_, ?_, ?_⟩
    · simp [type]
    · simp [type]
    · simp [type]
  · simp only [Misshapen, type, not_not] at shape
    have data := whole (by rw [shape]; decide)
    refine ⟨data.symm, ?_, ?_, fun _ => by omega⟩
    · simp [type]
    · simp [type]

theorem parse_file_reads {s' : Connections ω}
    (type : (s.frame fd).header.type ∈
      ([0x17, 0x18, 0x19, 0x1A] : List UInt8))
    (shape : ¬ Misshapen (s.frame fd)) (parsed : s.parse env fd = .ok s') :
    ∃ dstUid, (s.frame fd).data.wordAt 0 = .ok dstUid := by
  simp only [List.mem_cons, List.not_mem_nil, or_false] at type
  rcases type with type | type | type | type
  · simp only [Misshapen, type, not_not] at shape
    simp only [parse, type, parseTransfileAskRc, shape, ne_eq,
      not_true_eq_false, if_false] at parsed
    obtain ⟨_, _, rest⟩ := Exec.of_bind_ok parsed
    obtain ⟨dstUid, read, _⟩ := Exec.of_bind_ok rest
    exact ⟨dstUid, read⟩
  · simp only [Misshapen, type, not_not] at shape
    simp only [parse, type, parseTransfileRepSc, shape, ne_eq,
      not_true_eq_false, if_false] at parsed
    obtain ⟨_, _, rest⟩ := Exec.of_bind_ok parsed
    obtain ⟨dstUid, read, _⟩ := Exec.of_bind_ok rest
    exact ⟨dstUid, read⟩
  · simp only [Misshapen, type, not_not] at shape
    simp only [parse, type, parseTransfileData, shape, ne_eq,
      not_true_eq_false, if_false] at parsed
    obtain ⟨dstUid, read, _⟩ := Exec.of_bind_ok parsed
    exact ⟨dstUid, read⟩
  · simp only [Misshapen, type, not_not] at shape
    simp only [parse, type, parseTransfileAck, shape, ne_eq,
      not_true_eq_false, if_false] at parsed
    obtain ⟨_, _, rest⟩ := Exec.of_bind_ok parsed
    obtain ⟨dstUid, read, _⟩ := Exec.of_bind_ok rest
    exact ⟨dstUid, read⟩

theorem deliverable_file {frame : Message}
    (type : frame.header.type ∈ ([0x17, 0x18, 0x19, 0x1A] : List UInt8)) :
    s.Deliverable env charset uid frame ↔
      sizeofHeader + 4 ≤ frame.header.length.toNat ∧
        ∃ dstUid, frame.data.wordAt 0 = .ok dstUid ∧
          s.bound dstUid = true := by
  simp only [List.mem_cons, List.not_mem_nil, or_false] at type
  rcases type with type | type | type | type
  · simp only [Deliverable, type]
  · simp only [Deliverable, type]
  · simp only [Deliverable, type]
  · simp only [Deliverable, type]

theorem parse_refused (type : (s.frame fd).header.type ∈ sessionTypes)
    (shape : Misshapen (s.frame fd)) :
    s.parse env fd = .ok (s.parseUnknown fd) := by
  simp only [sessionTypes, List.mem_cons, List.not_mem_nil, or_false] at type
  rcases type with type | type | type | type | type | type | type
  · simp only [Misshapen, type] at shape
    simp only [parse, type, parseChatrecord, if_pos shape]
  · simp only [Misshapen, type] at shape
    simp only [parse, type, parseTextmsg, if_pos shape]
  · simp only [Misshapen, type] at shape
    simp only [parse, type, parseChangePwd, if_pos shape]
  · simp only [Misshapen, type] at shape
    simp only [parse, type, parseTransfileAskRc, if_pos shape]
  · simp only [Misshapen, type] at shape
    simp only [parse, type, parseTransfileRepSc, if_pos shape]
  · simp only [Misshapen, type] at shape
    simp only [parse, type, parseTransfileData, if_pos shape]
  · simp only [Misshapen, type] at shape
    simp only [parse, type, parseTransfileAck, if_pos shape]

theorem parse_file_completes_iff (whole : Whole (s.frame fd))
    (mine : s.myUid fd = .ok uid)
    (type : (s.frame fd).header.type ∈
      ([0x17, 0x18, 0x19, 0x1A] : List UInt8))
    (shape : ¬ Misshapen (s.frame fd)) :
    (∃ s', s.parse env fd = .ok s') ↔
      s.Deliverable env charset uid (s.frame fd) := by
  obtain ⟨size, fits⟩ := files_shaped whole type shape
  have pushes {dstUid : Uid} (read : (s.frame fd).data.wordAt 0 = .ok dstUid) :
      (∃ s', s.parse env fd = .ok s') ↔ s.bound dstUid = true := by
    obtain ⟨answer, kind⟩ :=
      @FileFrame.kind (s.frame fd) dstUid ⟨type, size, fits, read⟩
    obtain ⟨db, comes⟩ := parse_pushes size read mine kind fits
    rw [comes]
    exact pushTransfile_completes_iff db
  rw [deliverable_file type]
  constructor
  · intro completes
    obtain ⟨s', parsed⟩ := completes
    obtain ⟨dstUid, read⟩ := parse_file_reads type shape parsed
    have room := Buffer.length_of_wordAt read
    exact ⟨by omega, dstUid, read, (pushes read).mp ⟨s', parsed⟩⟩
  · intro deliverable
    obtain ⟨_, dstUid, read, here⟩ := deliverable
    exact (pushes read).mpr here

theorem parse_session_completes_iff (working : Working env users charset)
    (whole : Whole (s.frame fd)) (mine : s.myUid fd = .ok uid)
    (type : (s.frame fd).header.type ∈ sessionTypes)
    (shape : ¬ Misshapen (s.frame fd)) :
    (∃ s', s.parse env fd = .ok s') ↔
      s.Deliverable env charset uid (s.frame fd) := by
  by_cases file : (s.frame fd).header.type ∈
      ([0x17, 0x18, 0x19, 0x1A] : List UInt8)
  · exact parse_file_completes_iff whole mine file shape
  · simp only [sessionTypes, List.mem_cons, List.not_mem_nil, or_false]
      at type file
    rcases type with type | type | type | type
    · have easy : s.Deliverable env charset uid (s.frame fd) := by
        rw [Deliverable, type]
        trivial
      refine iff_of_true ?_ easy
      simp only [parse, type]
      exact parseChatrecord_completes working whole mine
    · have completes := parseTextmsg_completes_iff working whole mine type
      exact completes.trans (or_iff_right shape)
    · exact parseChangePwd_completes_iff working whole mine type shape
    · exact absurd type file

theorem parse_other_completes (working : Working env users charset)
    (whole : Whole (s.frame fd))
    (login : ¬ (s.frame fd).header.type = 0x10)
    (other : (s.frame fd).header.type ∉ sessionTypes) :
    ∃ s', s.parse env fd = .ok s' := by
  simp only [sessionTypes, List.mem_cons, List.not_mem_nil, or_false, not_or]
    at other
  unfold parse
  split
  · exact absurd ‹_› login
  · exact parseUsername_completes working whole
  · exact absurd ‹_› other.1
  · exact absurd ‹_› other.2.1
  · exact absurd ‹_› other.2.2.1
  · exact absurd ‹_› other.2.2.2.1
  · exact absurd ‹_› other.2.2.2.2.1
  · exact absurd ‹_› other.2.2.2.2.2.1
  · exact absurd ‹_› other.2.2.2.2.2.2
  · exact ⟨_, rfl⟩

/-- Which frames are handled to their end. -/
theorem parse_completes_iff (working : Working env users charset)
    (inverse : FinMap.Inverse s.fdToUid s.uidToFd)
    (registered : s.Registered users) (whole : Whole (s.frame fd)) :
    (∃ s', s.parse env fd = .ok s') ↔
      s.Bearable env charset fd (s.frame fd) := by
  unfold Bearable
  split
  next type =>
    have login : s.parse env fd = s.parseLogin env fd := by
      simp only [parse, type]
    rw [login]
    exact parseLogin_completes_iff working inverse registered whole
  next login =>
    split
    next type =>
      by_cases shape : Misshapen (s.frame fd)
      · exact iff_of_true ⟨_, parse_refused type shape⟩ (.inl shape)
      · rw [or_iff_right shape]
        cases bound : s.fdToUid.lookup fd with
        | none =>
            have unknown := @parse_unbound ω env s fd bound type
            simp only [reduceCtorEq, false_and, exists_false, iff_false]
            intro completes
            obtain ⟨s', parsed⟩ := completes
            exact shape ((unknown s').mp parsed).1
        | some uid =>
            have mine : s.myUid fd = .ok uid :=
              myUid_eq.mpr ⟨bound, (inverse fd uid).mp bound⟩
            simp only [Option.some.injEq, exists_eq_left']
            exact parse_session_completes_iff working whole mine type shape
    next other =>
      exact iff_of_true (parse_other_completes working whole login other)
        trivial

end Connections

namespace State

open Connections

variable {s : State ω} {fd : Fd}

/-- A step that leaves the server running: a frame that it hands over is
bearable, and a message that it comes to the payload of tells its length. -/
def Runs (env : Env ω) (charset : Charset) (s : State ω) : Step → Prop
  | .recvMsg fd net => ∀ frame, s.conns.Handed fd net frame →
      s.conns.Bearable env charset fd frame
  | .sendMsg fd net => ∃ msg, (s.conns.conns fd).sendQue.head? = some msg ∧
      ((s.conns.conns fd).comesToData msg net = true → msg.sized = true)
  | .accept _ | .closeConn _ => True

theorem recvMsg_runs_iff (working : Working env users charset)
    (reached : (machine env).Reachable s) (opened : s.clientFds fd = true)
    (net : List ReadResult) :
    (∃ s', s.next env (.recvMsg fd net) = .ok s') ↔
      s.Runs env charset (.recvMsg fd net) := by
  have inside := opened_inside reached fd opened
  cases intake : ((s.conns.conns fd).receive net).1 with
  | complete =>
      have handed : s.conns.Handed fd net
          ((s.conns.conns fd).receive net).2.recvMsg := ⟨intake, rfl⟩
      have proper := (queues_invariant.holds reached fd).receiving
      have same := frame_handed handed
      have completes := @parse_completes_iff ω env users charset
        (s.conns.setConn fd ((s.conns.conns fd).receive net).2) fd working
        (sessions_invariant.holds reached).inverse
        (working.registered reached)
        (by rw [same]; exact data_handed proper handed)
      rw [same] at completes
      constructor
      · intro moves
        obtain ⟨s', moved⟩ := moves
        obtain ⟨conns, parsed, _⟩ := (next_handed inside handed).mp moved
        intro frame handed'
        rw [handed'.2]
        exact completes.mp ⟨conns, parsed⟩
      · intro runs
        obtain ⟨conns, parsed⟩ := completes.mpr (runs _ handed)
        exact ⟨_, (next_handed inside handed).mpr ⟨conns, parsed, rfl⟩⟩
  | closed | waiting | tooShort =>
      refine iff_of_true ?_ ?_
      · simp only [next, recvMsg, Exec.require_of inside, Exec.bind_ok, intake]
        exact ⟨_, rfl⟩
      · intro frame handed
        have complete := handed.1
        rw [intake] at complete
        cases complete

theorem sendMsg_runs_iff (reached : (orderly env).Reachable s)
    (opened : s.clientFds fd = true) (going : s.hung fd = false)
    (net : List WriteResult) :
    (∃ s', s.next env (.sendMsg fd net) = .ok s') ↔
      s.Runs env charset (.sendMsg fd net) := by
  have raw := reached.of_restrict
  have inside := opened_inside raw fd opened
  have watched := (queues_invariant.holds raw fd).watched
  obtain ⟨_, _, _, _, aligned⟩ := streaming_invariant.holds reached fd opened
  cases aligned going with
  | idle sendQue header start out =>
      apply iff_of_false
      · intro moves
        obtain ⟨s', moved⟩ := moves
        obtain ⟨_, sent, _⟩ := Exec.of_bind_ok moved
        obtain ⟨_, _, msg, _, _, front, _⟩ := sendMsg_ok sent
        rw [sendQue] at front
        cases front
      · intro runs
        obtain ⟨msg, front, _⟩ := runs
        rw [sendQue] at front
        cases front
  | @busy msg rest sendQue proper out =>
      have here : s.conns.wfds fd = true := by
        rw [watched, sendQue]
        rfl
      have completes := @Conn.transmit_completes_iff _ _ net proper
      constructor
      · intro moves
        obtain ⟨s', moved⟩ := moves
        obtain ⟨_, sent, _⟩ := Exec.of_bind_ok moved
        obtain ⟨_, _, first, outlet, conn, front, transmitted, _⟩ :=
          sendMsg_ok sent
        rw [sendQue] at front
        cases front
        refine ⟨msg, ?_, completes.mp ⟨_, transmitted⟩⟩
        rw [sendQue]
        rfl
      · intro runs
        obtain ⟨first, front, sized⟩ := runs
        rw [sendQue] at front
        cases front
        obtain ⟨⟨outlet, conn⟩, transmitted⟩ := completes.mpr sized
        simp only [next, sendMsg, Exec.require_of inside, sendQue,
          List.head?_cons, Exec.demand_some, Exec.require_of here,
          transmitted, Exec.bind_ok]
        cases outlet with
        | closed => exact ⟨_, rfl⟩
        | waiting => exact ⟨_, rfl⟩
        | popped =>
            dsimp only
            split
            next => exact ⟨_, rfl⟩
            next => exact ⟨_, rfl⟩

end State

/-- Which steps leave the server running, with a database server that works. -/
theorem runs_iff (env : Env ω) (users : List Uid) (charset : Charset)
    (working : Working env users charset) (s : State ω)
    (reached : (orderly env).Reachable s) (step : Step)
    (allowed : (orderly env).enabled s step) :
    (∃ s', (orderly env).next s step = .ok s') ↔ s.Runs env charset step := by
  have raw := reached.of_restrict
  cases step with
  | accept fd => exact iff_of_true ⟨_, rfl⟩ trivial
  | recvMsg fd net => exact State.recvMsg_runs_iff working raw allowed.1 net
  | sendMsg fd net =>
      exact State.sendMsg_runs_iff reached allowed.1 allowed.2 net
  | closeConn fd =>
      have inside := opened_inside raw fd allowed.1
      obtain ⟨after, ended⟩ :=
        closeConn_completes (sessions_invariant.holds raw) inside
      have completes : ∃ s', s.next env (.closeConn fd) = .ok s' := by
        simp only [State.next, ended, Exec.bind_ok]
        exact ⟨_, rfl⟩
      exact iff_of_true completes trivial

def textTo (subType : UInt8) (uid : Uid) : Message :=
  .ofData 0x13 subType (Buffer.ofWord uid ++ Buffer.ofText "hi")

/-- A private text for a user who is not there leaves the server running, and a
public one stops it. -/
theorem runs_iff_absent : ∃ s : State Unit,
    (orderly (Tables.quietEnv threeAccounts)).Reachable s ∧
    s.conns.uidToFd.lookup 2 = none ∧
    (∃ s', (orderly (Tables.quietEnv threeAccounts)).next s
      (.recvMsg 4 (whole (textTo 0x00 2))) = .ok s') ∧
    ¬ ∃ s', (orderly (Tables.quietEnv threeAccounts)).next s
      (.recvMsg 4 (whole (textTo 0x01 2))) = .ok s' := by
  have replayed : ((orderly (Tables.quietEnv threeAccounts)).replay
      (.init () 1024) (arrives 4 [loginFrame "a"])).any (fun s =>
        handsOver s 4 (textTo 0x00 2) ∧ handsOver s 4 (textTo 0x01 2) ∧
        s.hung 4 = false ∧ s.conns.fdToUid.lookup 4 = some 1 ∧
        s.conns.uidToFd.lookup 2 = none) = true := by
    decide +kernel
  obtain ⟨s, reached, holds⟩ :=
    Machine.Reachable.of_replay replayed ⟨(), 1024, rfl⟩
  obtain ⟨first, second, going, bound, absent⟩ := of_decide_eq_true holds
  obtain ⟨opened, handed⟩ := of_decide_eq_true first
  obtain ⟨_, handed'⟩ := of_decide_eq_true second
  have working : Working (Tables.quietEnv threeAccounts)
      (threeAccounts.map Account.uid) .gbk :=
    Tables.quiet_working (by decide +kernel) (by decide +kernel)
  refine ⟨s, reached, absent, ?_, ?_⟩
  · apply (runs_iff _ _ .gbk working s reached
      (.recvMsg 4 (whole (textTo 0x00 2))) ⟨opened, going⟩).mpr
    intro frame here
    cases here.2.trans handed.2.symm
    refine .inr ⟨1, bound, by decide, 2, by decide, ?_⟩
    intro public'
    exact absurd public' (by decide)
  · intro completes
    have runs := (runs_iff _ _ .gbk working s reached
      (.recvMsg 4 (whole (textTo 0x01 2))) ⟨opened, going⟩).mp completes
    rcases runs _ handed' with misshapen | deliverable
    · have shape : ¬ (((textTo 0x01 2).header.subType ≠ 0x00 ∧
          (textTo 0x01 2).header.subType ≠ 0x01) ∨
          sizeofHeader + 4 + 1024 < (textTo 0x01 2).header.length.toNat) := by
        decide
      exact absurd misshapen shape
    · obtain ⟨uid, mine, _, dstUid, read, reaches⟩ := deliverable
      cases bound.symm.trans mine
      cases (show Except.ok 2 = Except.ok dstUid from read)
      rcases reaches rfl with everybody | here | failed
      · exact absurd everybody (by decide)
      · rw [Connections.bound, absent] at here
        cases here
      · have done : ¬ (Connections.saved (Tables.quietEnv threeAccounts) ()
            (textTo 0x01 2) 1 2).1 < 0 := by
          decide +kernel
        exact done failed

end GroupChat.Server
