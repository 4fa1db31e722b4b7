import GroupChat.Server.Replies
import GroupChat.Server.Storage

namespace GroupChat.Server

/-! The messages that a client shows records of, against the record table. -/

variable {ω : Type} {env : Env ω}

def isText (msg : Message) : Bool :=
  msg.header.type = 0xA3 &&
    (msg.header.subType = 0x00 || msg.header.subType = 0x01)

def isHistory (msg : Message) : Bool :=
  msg.header.type = 0x92 && msg.header.subType = 0x00

def isShown (msg : Message) : Bool :=
  isText msg || isHistory msg

/-- What a step queues to a connection for its client to show: the frame that
was handed over there and the user it is from, and the rows before and after. -/
inductive Displays (handed : Option Message) (user : Option Uid)
    (rows : List Stored) : List Stored → List Message → Prop
  | nothing (more : List Stored) : Displays handed user rows (rows ++ more) []
  | text (uid : Uid) (frame : Message) (stored : Stored)
      (kind : frame.header.subType = 0x00 ∨ frame.header.subType = 0x01)
      (keeps : stored.message = frame.data.drop 4) :
      Displays handed user rows (rows ++ [stored])
        [Connections.textMsg uid frame]
  | history {frame : Message} {myUid uid : Uid} (here : handed = some frame)
      (mine : user = some myUid) (type : frame.header.type = 0x12)
      (asked : frame.data.wordAt 0 = .ok uid) (count : Nat) :
      Displays handed user rows rows [Connections.recordsMsg (recordBytes
        (lastOf count (picked rows (toSigned myUid) (toSigned uid))))]

theorem Displays.same (handed : Option Message) (user : Option Uid)
    (rows : List Stored) : Displays handed user rows rows [] := by
  have nothing := @Displays.nothing handed user rows []
  rwa [List.append_nil] at nothing

theorem sentTo_targets {targets : List Fd} (distinct : targets.Nodup) (fd : Fd)
    (msg : Message) :
    sentTo fd (targets.map fun target => (target, msg)) =
      if fd ∈ targets then [msg] else [] := by
  induction targets with
  | nil => rfl
  | cons target targets induction =>
      rw [List.nodup_cons] at distinct
      rw [List.map_cons, sentTo_cons, induction distinct.2]
      by_cases here : target = fd
      · subst here
        simp [distinct.1]
      · simp [here, Ne.symm here]

namespace Connections

theorem textTargets_nodup (s : Connections ω) (srcUid dstUid : Uid) :
    (s.textTargets srcUid dstUid).Nodup := by
  unfold textTargets
  split
  · have keys : (s.fdToUid.entries.map Sigma.fst).Nodup := s.fdToUid.nodupKeys
    exact keys.sublist (List.filter_sublist.map Sigma.fst)
  · cases s.uidToFd.lookup dstUid <;> simp

theorem isShown_textMsg {uid : Uid} {frame : Message}
    (kind : frame.header.subType = 0x00 ∨ frame.header.subType = 0x01) :
    isShown (textMsg uid frame) = true := by
  cases kind with
  | inl single => simp [isShown, isText, textMsg, single]
  | inr everybody => simp [isShown, isText, textMsg, everybody]

theorem Answer.unshown {msg : Message} (made : Answer msg)
    (failed : msg.header.type = 0x92 → msg.header.subType ≠ 0x00) :
    isShown msg = false := by
  have text : isText msg = false := by
    cases made with
    | unknown type => simp [isText, unknownMsg]
    | refused | username name | absentUser | absentParty | records records
    | text exist online | changePwd succeed => rfl
  simpa [isShown, text, isHistory] using failed

theorem isShown_other {msg : Message} (text : msg.header.type ≠ 0xA3)
    (history : msg.header.type ≠ 0x92) : isShown msg = false := by
  simp [isShown, isText, isHistory, text, history]

theorem shown_eq_nil {fd : Fd} {l : List (Fd × Message)}
    (none : ∀ push ∈ l, isShown push.2 = false) :
    (sentTo fd l).filter isShown = [] := by
  apply List.filter_eq_nil_iff.mpr
  intro msg member
  rw [none _ (mem_sentTo.mp member)]
  exact Bool.false_ne_true

theorem shown_text {frame : Message}
    (kind : frame.header.subType = 0x00 ∨ frame.header.subType = 0x01)
    {targets : List Fd} (distinct : targets.Nodup) (fd target : Fd) (uid : Uid)
    (exist online : Bool) :
    (sentTo fd ((target, textAnswer exist online) ::
      if online then targets.map fun other => (other, textMsg uid frame)
      else [])).filter isShown =
        if online = true ∧ fd ∈ targets then [textMsg uid frame] else [] := by
  have answer : isShown (textAnswer exist online) = false := rfl
  have first : (sentTo fd [(target, textAnswer exist online)]).filter
      isShown = [] := shown_eq_nil (by simpa using answer)
  rw [← List.singleton_append, sentTo_append, List.filter_append, first,
    List.nil_append]
  cases online with
  | false => simp
  | true =>
      rw [if_pos rfl, sentTo_targets distinct]
      by_cases aimed : fd ∈ targets
      · simp [aimed, isShown_textMsg kind]
      · simp [aimed]

/-- What handling a frame queues to a connection to be shown. -/
theorem Served.displays {table : RecordTable env} {charset : Charset}
    (inserts : table.Inserts charset) {s s' : Connections ω}
    {target : Fd} (served : Served env s target s')
    (legible : LegibleFrame charset (s.frame target)) (fd : Fd) :
    ∃ l, Queued s s' l ∧ Displays
      (if target = fd then some (s.frame target) else none)
      (s.fdToUid.lookup fd) (table.rows s.db) (table.rows s'.db)
      ((sentTo fd l).filter isShown) := by
  cases served with
  | answer world queried made type failed =>
      refine ⟨_, Queued.of_push s world target _, ?_⟩
      rw [shown_eq_nil (by simpa using made.unshown failed), push_db,
        table.rows_queried queried]
      exact .same _ _ _
  | @history world uid myUid found type read mine queried searched =>
      refine ⟨_, Queued.of_push s found.world target _, ?_⟩
      have rows := table.rows_queried
        (queried.trans (Database.serhMessage_queried searched))
      obtain ⟨count, records⟩ := table.serhMessage_picked
        (toSigned_inInt myUid) (toSigned_inInt uid) searched
      rw [table.rows_queried queried] at records
      rw [push_db, rows, records, sentTo_cons, sentTo_nil]
      by_cases here : target = fd
      · rw [if_pos here, if_pos here]
        exact .history rfl (here ▸ (myUid_eq.mp mine).1) type read count
      · rw [if_neg here, if_neg here]
        exact .same _ _ _
  | @unsaved world uid dstUid type read mine queried failed shape size =>
      refine ⟨_, Queued.of_push s _ target _, ?_⟩
      have saved := RecordTable.rows_saved inserts world (toSigned_inInt uid)
        (toSigned_inInt dstUid) (legible type shape) (shape.text_length size)
      rw [if_pos failed, table.rows_queried queried] at saved
      rw [shown_eq_nil (by simp [isShown, isText, isHistory, unknownMsg])]
      exact saved.symm ▸ Displays.same _ _ _
  | @text world uid dstUid exist online type read mine queried saved reach
      shape size =>
      refine ⟨_, Queued.of_pushes s _ ((target, textAnswer exist online) ::
        if online then (s.textTargets uid dstUid).map fun other =>
          (other, textMsg uid (s.frame target)) else []), ?_⟩
      have stored := RecordTable.rows_saved inserts world (toSigned_inInt uid)
        (toSigned_inInt dstUid) (legible type shape) (shape.text_length size)
      rw [if_neg (Int.not_lt.mpr saved), table.rows_queried queried] at stored
      rw [shown_text shape.kind (s.textTargets_nodup uid dstUid), pushes_db,
        push_db, stored]
      by_cases reached : online = true ∧ fd ∈ s.textTargets uid dstUid
      · rw [if_pos reached]
        exact .text uid _ _ shape.kind rfl
      · rw [if_neg reached]
        exact .nothing _
  | @file world uid dstUid other type kind read mine found queried =>
      refine ⟨_, Queued.of_push s world other _, ?_⟩
      simp only [transfileTypes, List.mem_cons, Prod.mk.injEq,
        List.not_mem_nil, or_false] at kind
      have unshown : isShown (transfileMsg type (s.frame target)) = false := by
        rcases kind with ⟨_, rfl⟩ | ⟨_, rfl⟩ | ⟨_, rfl⟩ | ⟨_, rfl⟩ <;> rfl
      rw [shown_eq_nil (by simpa using unshown), push_db,
        table.rows_queried queried]
      exact .same _ _ _
  | login db type took listed queried =>
      obtain ⟨l, queued, told⟩ := login_told took listed
      refine ⟨l, queued, ?_⟩
      have unshown : ∀ push ∈ l, isShown push.2 = false := by
        intro push member
        rcases told push member with own | shutdown | online
        · exact isShown_other (by simp [own]) (by simp [own])
        · exact isShown_other (by simp [shutdown]) (by simp [shutdown])
        · exact isShown_other (by simp [online]) (by simp [online])
      rw [shown_eq_nil unshown, table.rows_queried queried]
      exact .same _ _ _

end Connections

theorem State.next_displays {table : RecordTable env} {charset : Charset}
    (inserts : table.Inserts charset) {s s' : State ω} {step : Step} {fd : Fd}
    (reached : (machine env).Reachable s) (legible : Legible charset s step)
    (moved : s.next env step = .ok s')
    {msgs : List Message} (queues : Queues s s' fd msgs) :
    Displays (s.handedOn fd step) (s.conns.fdToUid.lookup fd)
      (table.rows s.conns.db) (table.rows s'.conns.db)
      (msgs.filter isShown) := by
  rcases s.next_served reached moved with ⟨target, conns, handles, served⟩ |
    ⟨same, notices⟩
  · obtain ⟨l, queued, displays⟩ :=
      served.displays inserts (handles.legible legible) fd
    rw [handles.db, handles.bindings.1] at displays
    rw [queues.eq_sentTo (handles.pushed reached fd) queued]
    have handed : s.handedOn fd step =
        if target = fd then some (conns.frame target) else none := by
      by_cases here : target = fd
      · subst here
        rw [if_pos rfl, handedOn_handles handles]
      · rw [if_neg here]
        obtain ⟨net, rfl, complete, rfl⟩ := handles
        exact if_neg fun both => here both.1
    rw [handed]
    exact displays
  · have silent : msgs.filter isShown = [] := by
      apply List.filter_eq_nil_iff.mpr
      intro msg member
      cases notices fd msgs queues msg member with
      | unknown type short =>
          simp [isShown, isText, isHistory, Connections.unknownMsg]
      | offline uid =>
          simp [isShown, isText, isHistory, Connections.onlineMsg]
    rw [silent, same]
    exact .same _ _ _

end GroupChat.Server
