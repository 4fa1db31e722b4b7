import GroupChat.Server.Queues

namespace GroupChat.Server

/-! What the server forwards: the frames with files, and who a forwarded frame
comes from. -/

variable {ω : Type} {env : Env ω}

namespace Connections

variable {s s' : Connections ω} {fd : Fd}

/-- The length the server asks of the payload of a frame with a file. -/
def TransfileFits (type : UInt8) (size : Nat) : Prop :=
  (type = 0x17 → size = 76) ∧ (type = 0x18 → size = 8) ∧
    (type = 0x1A → size = 12)

theorem pushTransfile_forwards {type : UInt8} {target : Fd} {dstUid : Uid}
    {msg : Message} (db : ω) (found : s.uidToFd.lookup dstUid = some target) :
    pushTransfile type { s with db := db } dstUid msg =
      .ok ({ s with db := db }.push target (transfileMsg type msg)) :=
  pushTransfile_eq.mpr ⟨target, found, rfl⟩

section Transfile

variable {uid dstUid : Uid}
  (size : (s.frame fd).header.length.toNat =
    sizeofHeader + (s.frame fd).data.length)
  (read : (s.frame fd).data.wordAt 0 = .ok dstUid)
  (mine : s.myUid fd = .ok uid)

include size read mine

theorem parseTransfileAskRc_pushes (fits : (s.frame fd).data.length = 76) :
    ∃ db, s.parseTransfileAskRc env fd =
      pushTransfile 0xA7 { s with db := db } dstUid (s.frame fd) := by
  obtain ⟨filesize, sized⟩ := @Buffer.wordAt_of_length (s.frame fd).data 8
    (by omega)
  unfold parseTransfileAskRc
  rw [if_neg (by rw [size, fits]; simp)]
  simp only [Exec.require_of fits, read, mine, sized, Exec.bind_ok]
  exact ⟨_, rfl⟩

theorem parseTransfileRepSc_pushes (fits : (s.frame fd).data.length = 8) :
    ∃ db, s.parseTransfileRepSc env fd =
      pushTransfile 0xA8 { s with db := db } dstUid (s.frame fd) := by
  unfold parseTransfileRepSc
  rw [if_neg (by rw [size, fits]; simp)]
  simp only [Exec.require_of fits, read, mine, Exec.bind_ok]
  exact ⟨_, rfl⟩

theorem parseTransfileData_pushes :
    s.parseTransfileData fd =
      pushTransfile 0xA9 s dstUid (s.frame fd) := by
  unfold parseTransfileData
  rw [if_neg (by rw [size]; simp)]
  simp only [read, mine, Exec.bind_ok]
  rfl

theorem parseTransfileAck_pushes (fits : (s.frame fd).data.length = 12) :
    ∃ db, s.parseTransfileAck env fd =
      pushTransfile 0xA9 { s with db := db } dstUid (s.frame fd) := by
  obtain ⟨ui8cnt, counted⟩ := @Buffer.wordAt_of_length (s.frame fd).data 8
    (by omega)
  unfold parseTransfileAck
  rw [if_neg (by rw [size, fits]; simp)]
  simp only [Exec.require_of fits, read, mine, counted, Exec.bind_ok]
  exact ⟨_, rfl⟩

/-- A frame with a file from a bound connection comes down to the push under
the type that belongs to its own. -/
theorem parse_pushes {type : UInt8}
    (kind : ((s.frame fd).header.type, type) ∈ transfileTypes)
    (fits : TransfileFits (s.frame fd).header.type
      (s.frame fd).data.length) :
    ∃ db, s.parse env fd =
      pushTransfile type { s with db := db } dstUid (s.frame fd) := by
  obtain ⟨request, answer, ack⟩ := fits
  simp only [transfileTypes, List.mem_cons, Prod.mk.injEq, List.not_mem_nil,
    or_false] at kind
  rcases kind with ⟨same, rfl⟩ | ⟨same, rfl⟩ | ⟨same, rfl⟩ | ⟨same, rfl⟩
  · simp only [parse, same]
    exact parseTransfileAskRc_pushes size read mine (request same)
  · simp only [parse, same]
    exact parseTransfileRepSc_pushes size read mine (answer same)
  · simp only [parse, same]
    exact ⟨s.db, parseTransfileData_pushes size read mine⟩
  · simp only [parse, same]
    exact parseTransfileAck_pushes size read mine (ack same)

end Transfile

theorem parse_forwards {uid dstUid : Uid} {target : Fd} {type : UInt8}
    (kind : ((s.frame fd).header.type, type) ∈ transfileTypes)
    (size : (s.frame fd).header.length.toNat =
      sizeofHeader + (s.frame fd).data.length)
    (fits : TransfileFits (s.frame fd).header.type (s.frame fd).data.length)
    (read : (s.frame fd).data.wordAt 0 = .ok dstUid)
    (mine : s.myUid fd = .ok uid)
    (found : s.uidToFd.lookup dstUid = some target) :
    ∃ db, s.parse env fd = .ok ({ s with db := db }.push target
      (transfileMsg type (s.frame fd))) := by
  obtain ⟨db, pushes⟩ := parse_pushes size read mine kind fits
  exact ⟨db, pushes.trans (pushTransfile_forwards db found)⟩

theorem login_told {taken after : Connections ω} {db : ω} {uid : Uid}
    {first : Bool} {subType : UInt8} {primaryColor : Int}
    (took : takeover ({ s with db := db }.noteLogin fd true uid) uid first =
      .ok (subType, taken))
    (listed : (taken.welcomed fd uid subType primaryColor).pushUserlist env
      fd = .ok after) :
    ∃ l, Queued s after l ∧ ∀ push ∈ l,
      push.1 = fd ∧ push.2.header.type = 0x90 ∨
        push.2.header.type = 0xA0 ∨ push.2.header.type = 0xA1 := by
  obtain ⟨shut, queued, shutdowns⟩ := takeover_queued took
  have taking : Queued s taken shut :=
    ⟨queued.size, queued.conns, queued.wfds⟩
  obtain ⟨_, _, listDb, _, _, _, _, _, _, _, _, _, _, rfl⟩ :=
    pushUserlist_eq listed
  have told := Queued.pushes taken ((fd, loginMsg subType uid
    primaryColor) :: taken.fdToUid.entries.map fun entry =>
      (entry.1, onlineMsg uid true))
  have welcomed : Queued taken (taken.welcomed fd uid subType primaryColor) _ :=
    ⟨told.size, told.conns, told.wfds⟩
  refine ⟨_, (taking.trans welcomed).trans (Queued.of_pushes _ listDb _), ?_⟩
  intro push member
  simp only [List.mem_append, List.mem_cons, List.mem_map, List.not_mem_nil,
    or_false] at member
  rcases member with (taken | rfl | ⟨entry, _, rfl⟩) | rfl | rfl
  · rw [(shutdowns push taken).1]
    exact .inr (.inl rfl)
  · exact .inl ⟨rfl, rfl⟩
  · exact .inr (.inr rfl)
  · exact .inr (.inr rfl)
  · exact .inr (.inr rfl)

/-- A message is the frame of a user, as it is forwarded. -/
def Relayed (frame : Message) (uid : Uid) (msg : Message) : Prop :=
  frame.header.type = 0x13 ∧ msg = textMsg uid frame ∨
    ∃ type, (frame.header.type, type) ∈ transfileTypes ∧
      msg = transfileMsg type frame

/-- What handling a frame queues to another connection is a notice of the
server or the frame of the bound user. -/
theorem Handled.relays (handled : Handled env s fd s') :
    ∃ l, Queued s s' l ∧ ∀ push ∈ l, push.1 = fd ∨
      push.2.header.type = 0xA0 ∨ push.2.header.type = 0xA1 ∨
      ∃ uid, s.fdToUid.lookup fd = some uid ∧
        Relayed (s.frame fd) uid push.2 := by
  cases handled with
  | answer db made =>
      refine ⟨_, Queued.of_push s db fd _, ?_⟩
      intro push member
      rw [List.mem_singleton.mp member]
      exact .inl rfl
  | @text db exist uid dstUid type kind size read bound =>
      refine ⟨_, Queued.of_pushes s db
        ((fd, textAnswer exist true) :: (s.textTargets uid dstUid).map
          fun target => (target, textMsg uid (s.frame fd))), ?_⟩
      intro push member
      rcases List.mem_cons.mp member with rfl | member
      · exact .inl rfl
      · obtain ⟨target, _, rfl⟩ := List.mem_map.mp member
        exact .inr (.inr (.inr ⟨uid, bound, .inl ⟨type, rfl⟩⟩))
  | file db kind size read bound found =>
      refine ⟨_, Queued.of_push s db _ _, ?_⟩
      intro push member
      rw [List.mem_singleton.mp member]
      exact .inr (.inr (.inr ⟨_, bound, .inr ⟨_, kind, rfl⟩⟩))
  | login db verified took free fresh listed =>
      obtain ⟨l, queued, told⟩ := login_told took listed
      refine ⟨l, queued, ?_⟩
      intro push member
      rcases told push member with own | shutdown | online
      · exact .inl own.1
      · exact .inr (.inl shutdown)
      · exact .inr (.inr (.inl online))

end Connections

end GroupChat.Server
