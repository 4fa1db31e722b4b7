import GroupChat.Server.Displaced
import GroupChat.Server.Storage

namespace GroupChat.Server

/-! Who a private text message is shown to, at once and in every history asked
for later. -/

open Connections

variable {ω : Type} {env : Env ω}

/-- A text message for one user. -/
structure PrivateText (frame : Message) (dstUid : Uid) : Prop where
  type : frame.header.type = 0x13
  kind : frame.header.subType = 0x00
  read : frame.data.wordAt 0 = .ok dstUid

/-- A message is the history a user asked for with the frame being handled,
made of these rows. -/
structure Shows (table : RecordTable env) (s : Connections ω) (fd : Fd)
    (msg : Message) (requester : Uid) (entries : List (Stored × Nat)) :
    Prop where
  bound : s.fdToUid.lookup fd = some requester
  asked : ∃ uid count, (s.frame fd).data.wordAt 0 = .ok uid ∧
    entries = lastOf count (picked (table.rows s.db) (toSigned requester)
      (toSigned uid))
  made : msg = recordsMsg (recordBytes entries)

/-- Every history queued in a step shows a row to the one user or to the other
only. -/
def ShowsOnly (table : RecordTable env) (row : Nat) (uid dstUid : Uid)
    (s s' : State ω) (step : Step) : Prop :=
  ∀ fd msgs msg, Queues s s' fd msgs → msg ∈ msgs →
    msg.header.type = 0x92 → msg.header.subType = 0x00 →
    ∃ conns requester entries, Handles s step fd conns ∧
      Shows table conns fd msg requester entries ∧
      (row ∈ entries.map Prod.snd → requester = uid ∨ requester = dstUid)

/-- In the runs of a machine a private text message is queued to no other
connection than that of its receiver, the sender's being answered, and once it
is stored no history shows it to a third user. -/
def TextsPrivate (table : RecordTable env) (machine : Machine (State ω) Step) :
    Prop :=
  ∀ s step s' fd conns uid dstUid, machine.Reachable s →
    machine.enabled s step → machine.next s step = .ok s' →
    Handles s step fd conns → PrivateText (conns.frame fd) dstUid →
    conns.fdToUid.lookup fd = some uid →
    (∀ other msgs msg, Queues s s' other msgs → msg ∈ msgs →
      conns.uidToFd.lookup dstUid = some other ∨
        other = fd ∧ msg.header.type = 0x93 ∧ msg.data = []) ∧
    (table.rows s'.conns.db ≠ table.rows s.conns.db →
      ∀ t step t', (machine.after s').Reachable t → machine.enabled t step →
        machine.next t step = .ok t' →
        ShowsOnly table (table.rows s.conns.db).length uid dstUid t t' step)

/-- A text in a frame is one of the character set and, if it is private, not for
everybody, unless the frame is refused for its shape. -/
def DiscreetFrame (charset : Charset) (frame : Message) : Prop :=
  frame.header.type = 0x13 → TextShape frame →
    charset.Literal (frame.data.drop 4) ∧
      (frame.header.subType = 0x00 → frame.data.wordAt 0 ≠ .ok 0xFFFF)

/-- A step hands over discreet frames only. -/
def Discreet (charset : Charset) (s : State ω) : Step → Prop
  | .recvMsg fd net =>
      ((s.conns.conns fd).receive net).1 = .complete →
        DiscreetFrame charset ((s.conns.conns fd).receive net).2.recvMsg
  | _ => True

instance (charset : Charset) (frame : Message) :
    Decidable (DiscreetFrame charset frame) :=
  inferInstanceAs (Decidable (_ = _ → TextShape _ → _ ∧ (_ = _ → _)))

instance (charset : Charset) (s : State ω) :
    DecidablePred (Discreet charset s) := fun step =>
  match step with
  | .recvMsg _ _ => inferInstanceAs (Decidable (_ = _ → DiscreetFrame _ _))
  | .accept _ => inferInstanceAs (Decidable True)
  | .sendMsg _ _ => inferInstanceAs (Decidable True)
  | .closeConn _ => inferInstanceAs (Decidable True)

theorem Handles.discreet {charset : Charset} {s : State ω} {step : Step}
    {fd : Fd} {conns : Connections ω} (handles : Handles s step fd conns)
    (discreet : Discreet charset s step) :
    DiscreetFrame charset (conns.frame fd) := by
  obtain ⟨net, rfl, complete, rfl⟩ := handles
  rw [frame, setConn_conns_self]
  exact discreet complete

theorem DiscreetFrame.legible {charset : Charset} {frame : Message}
    (discreet : DiscreetFrame charset frame) : LegibleFrame charset frame :=
  fun type shape => (discreet type shape).1

theorem Discreet.legible {charset : Charset} {s : State ω} {step : Step}
    (discreet : Discreet charset s step) : Legible charset s step := by
  cases step with
  | recvMsg fd net => exact fun complete => (discreet complete).legible
  | accept _ | sendMsg _ _ | closeConn _ => trivial

namespace Connections

theorem Served.unlike {s s' : Connections ω} {fd : Fd}
    (served : Served env s fd s')
    (other : (s.frame fd).header.type ||| 0x80 ≠ 0x92) :
    ∃ l, Queued s s' l ∧ ∀ push ∈ l, push.2.header.type ≠ 0x92 := by
  obtain ⟨l, queued, kinds⟩ := served.queued
  refine ⟨l, queued, ?_⟩
  intro push member same
  rcases kinds push member with ⟨_, answer⟩ | listed
  · exact other (answer.symm.trans same)
  · rw [same] at listed
    revert listed
    decide

theorem Served.shows (table : RecordTable env) {s s' : Connections ω} {fd : Fd}
    (served : Served env s fd s') :
    ∃ l, Queued s s' l ∧ ∀ push ∈ l, push.2.header.type = 0x92 →
      push.2.header.subType = 0x00 → push.1 = fd ∧
        ∃ requester entries, Shows table s fd push.2 requester entries := by
  have none (other : (s.frame fd).header.type ||| 0x80 ≠ 0x92) :
      ∃ l, Queued s s' l ∧ ∀ push ∈ l, push.2.header.type = 0x92 →
        push.2.header.subType = 0x00 → push.1 = fd ∧
          ∃ requester entries, Shows table s fd push.2 requester entries := by
    obtain ⟨l, queued, unlike⟩ := served.unlike other
    exact ⟨l, queued, fun push member same =>
      absurd same (unlike push member)⟩
  cases served with
  | answer world queried made type failed =>
      refine ⟨_, Queued.of_push s world fd _, ?_⟩
      intro push member same succeeded
      rw [List.mem_singleton.mp member] at same succeeded
      exact absurd succeeded (failed same)
  | @history world uid myUid found type read mine queried searched =>
      refine ⟨_, Queued.of_push s found.world fd _, ?_⟩
      intro push member _ _
      rw [List.mem_singleton.mp member]
      obtain ⟨count, records⟩ := table.serhMessage_picked
        (toSigned_inInt myUid) (toSigned_inInt uid) searched
      rw [table.rows_queried queried] at records
      exact ⟨rfl, myUid, _, (myUid_eq.mp mine).1, ⟨uid, count, read, rfl⟩,
        congrArg recordsMsg records⟩
  | unsaved type => exact none (by rw [type]; decide)
  | text exist online type => exact none (by rw [type]; decide)
  | @file world uid dstUid target type kind =>
      apply none
      simp only [transfileTypes, List.mem_cons, Prod.mk.injEq,
        List.not_mem_nil, or_false] at kind
      rcases kind with ⟨same, _⟩ | ⟨same, _⟩ | ⟨same, _⟩ | ⟨same, _⟩ <;>
        rw [same] <;> decide
  | login db type => exact none (by rw [type]; decide)

theorem Answer.data {msg : Message} (made : Answer msg)
    (type : msg.header.type = 0x93) : msg.data = [] := by
  cases made with
  | unknown other => rfl
  | refused => rfl
  | username name => cases type
  | absentUser => rfl
  | absentParty => rfl
  | records records => cases type
  | text exist online => rfl
  | changePwd succeed => rfl

/-- Where a private text message goes. -/
theorem Served.private {s s' : Connections ω} {fd : Fd} {dstUid : Uid}
    (served : Served env s fd s') (text : PrivateText (s.frame fd) dstUid)
    (single : TextShape (s.frame fd) → dstUid ≠ 0xFFFF) :
    ∃ l, Queued s s' l ∧ ∀ push ∈ l,
      s.uidToFd.lookup dstUid = some push.1 ∨
        push.1 = fd ∧ push.2.header.type = 0x93 ∧ push.2.data = [] := by
  cases served with
  | @answer world queried msg made type failed =>
      refine ⟨_, Queued.of_push s world fd _, ?_⟩
      intro push member
      rw [List.mem_singleton.mp member]
      rw [text.type] at type
      exact .inr ⟨rfl, type, made.data type⟩
  | history type =>
      rw [text.type] at type
      cases type
  | unsaved type read mine queried failed =>
      refine ⟨_, Queued.of_push s _ fd _, ?_⟩
      intro push member
      rw [List.mem_singleton.mp member]
      refine .inr ⟨rfl, ?_, rfl⟩
      change (s.frame fd).header.type ||| 0x80 = 0x93
      rw [type]
      rfl
  | @text world uid other exist online type read mine queried saved reach
      shape =>
      rw [text.read] at read
      cases read
      refine ⟨_, Queued.of_pushes s _ ((fd, textAnswer exist online) ::
        if online then (s.textTargets uid dstUid).map fun target =>
          (target, textMsg uid (s.frame fd)) else []), ?_⟩
      intro push member
      rcases List.mem_cons.mp member with rfl | member
      · exact .inr ⟨rfl, rfl, rfl⟩
      · split at member
        · obtain ⟨target, targeted, rfl⟩ := List.mem_map.mp member
          rw [textTargets, if_neg (single shape)] at targeted
          exact .inl (Option.mem_toList.mp targeted)
        · cases member
  | file kind =>
      rw [text.type] at kind
      exact absurd kind (by simp [transfileTypes])
  | login db type =>
      rw [text.type] at type
      cases type

end Connections

variable (table : RecordTable env) {charset : Charset}

theorem rows_invariant (inserts : table.Inserts charset) {s : State ω}
    (reached : ((machine env).restrict (Discreet charset)).Reachable s) :
    (((machine env).restrict (Discreet charset)).after s).Invariant fun t =>
      ∃ more, table.rows t.conns.db = table.rows s.conns.db ++ more where
  start := by
    intro t first
    exact ⟨[], by rw [first, List.append_nil]⟩
  kept := by
    intro before step after later grown allowed moved
    obtain ⟨more, grown⟩ := grown
    obtain ⟨appended, next⟩ := rows_next inserts
      (reached.of_after later).of_restrict allowed.2.legible moved
    exact ⟨more ++ appended, by rw [next, grown, List.append_assoc]⟩

theorem between_users {stored : Stored} {myid srid : Int}
    (between : stored.between myid srid = true)
    (single : stored.recvid ≠ 0xFFFF) :
    stored.sendid = myid ∨ stored.recvid = myid := by
  unfold Stored.between at between
  split at between
  · exact absurd (of_decide_eq_true between) single
  · rcases of_decide_eq_true between with mine | theirs
    · exact .inl mine.1
    · exact .inr theirs.2

theorem picked_between {rows : List Stored} {row : Nat} {time : Int}
    {message : Buffer} {uid dstUid requester other : Uid}
    (there : rows[row]? =
      some ⟨toSigned uid, toSigned dstUid, time, message⟩)
    (single : dstUid ≠ 0xFFFF)
    (picks : row ∈ (picked rows (toSigned requester)
      (toSigned other)).map Prod.snd) :
    requester = uid ∨ requester = dstUid := by
  obtain ⟨⟨found, index⟩, member, rfl⟩ := List.mem_map.mp picks
  obtain ⟨here, between⟩ := mem_picked.mp member
  rw [there] at here
  rw [← Option.some.inj here] at between
  have everybody : toSigned 0xFFFF = 0xFFFF := by decide
  have users := between_users between (by
    dsimp only
    rw [← everybody]
    exact fun same => single (toSigned_injective same))
  dsimp only at users
  rcases users with mine | theirs
  · exact .inl (toSigned_injective mine).symm
  · exact .inr (toSigned_injective theirs).symm

theorem lastOf_subset {α : Type} (count : Nat) (entries : List α) :
    lastOf count entries ⊆ entries :=
  List.drop_subset _ _

theorem texts_private (charset : Charset) (inserts : table.Inserts charset) :
    TextsPrivate table ((machine env).restrict (Discreet charset)) := by
  intro s step s' fd conns uid dstUid reached allowed moved handles text bound
  have raw := reached.of_restrict
  have discreet := handles.discreet allowed.2
  have single (shape : TextShape (conns.frame fd)) : dstUid ≠ 0xFFFF := by
    rintro rfl
    exact (discreet text.type shape).2 text.kind text.read
  have served := handles.served moved
  constructor
  · intro other msgs msg queues member
    obtain ⟨l, queued, goes⟩ := served.private text single
    rw [queues.eq_sentTo (handles.pushed raw other) queued,
      mem_sentTo] at member
    exact goes (other, msg) member
  · intro stored t step t' later allowed moved' fd' msgs msg queues member type
      succeeded
    have grown := RecordTable.rows_served inserts served discreet.legible
    rw [handles.db] at grown
    rcases grown with same | ⟨sender, receiver, time, _, shape, read, mine,
      appended⟩
    · exact absurd same stored
    · rw [text.read] at read
      cases read
      rw [(myUid_eq.mp mine).1] at bound
      cases bound
      have reached' :
          ((machine env).restrict (Discreet charset)).Reachable s' :=
        .step reached ‹_› moved
      obtain ⟨more, rows⟩ :=
        (rows_invariant table inserts reached').holds later
      have raw' := (reached'.of_after later).of_restrict
      have there : (table.rows t.conns.db)[(table.rows s.conns.db).length]? =
          some ⟨toSigned uid, toSigned dstUid, time,
            (conns.frame fd).data.drop 4⟩ := by
        rw [rows, appended, List.append_assoc, List.getElem?_append_right
          (Nat.le_refl _), Nat.sub_self]
        rfl
      rcases t.next_served raw' moved' with
        ⟨fd'', conns', handles', served'⟩ | still
      · obtain ⟨l, queued, shows⟩ := served'.shows table
        rw [queues.eq_sentTo (handles'.pushed raw' fd') queued,
          mem_sentTo] at member
        obtain ⟨rfl, requester, entries, shown⟩ :=
          shows (fd', msg) member type succeeded
        refine ⟨conns', requester, entries, handles', shown, ?_⟩
        intro inside
        obtain ⟨other, count, _, rfl⟩ := shown.asked
        rw [handles'.db] at inside
        have picks : (table.rows s.conns.db).length ∈ (picked
            (table.rows t.conns.db) (toSigned requester)
            (toSigned other)).map Prod.snd :=
          List.map_subset Prod.snd (lastOf_subset count _) inside
        exact picked_between there (single shape) picks
      · cases still.2 fd' msgs queues msg member with
        | unknown other short =>
            have subType : (unknownMsg other).header.subType = 0xFF := rfl
            rw [subType] at succeeded
            exact absurd succeeded (by decide)
        | offline uid => cases type

def privateFrame (uid : Uid) (text : String) : Message :=
  .ofData 0x13 0x00 (Buffer.ofWord uid ++ Buffer.ofText text)

theorem storedEnv_initial (accounts : List Account) :
    (machine (Tables.storedEnv accounts)).initial
      (.init ⟨[], fun _ member => nomatch member⟩ 1024) :=
  ⟨_, _, rfl⟩

theorem handles_of_handsOver {s : State ω} {fd : Fd} {frame : Message}
    (ended : handsOver s fd frame = true) :
    ∃ conns, Handles s (.recvMsg fd (whole frame)) fd conns ∧
      conns.frame fd = frame ∧ conns.fdToUid = s.conns.fdToUid := by
  obtain ⟨_, complete, same⟩ := of_decide_eq_true ended
  refine ⟨_, ⟨_, rfl, complete, rfl⟩, ?_, rfl⟩
  rw [Connections.frame, setConn_conns_self]
  exact same.symm

def twoLogins : List Step :=
  arrives 4 [loginFrame "a"] ++ arrives 5 [loginFrame "b"]

theorem texts_private_two : ∃ s s',
    ((machine (Tables.storedEnv threeAccounts)).restrict
      (Discreet .gbk)).Reachable s ∧
    s.next (Tables.storedEnv threeAccounts)
      (.recvMsg 4 (whole (privateFrame 2 "hi"))) = .ok s' ∧
    s'.conns.db.val = [⟨1, 2, 0, .ofText "hi"⟩] ∧
    ∀ t step t', (((machine (Tables.storedEnv threeAccounts)).restrict
        (Discreet .gbk)).after s').Reachable t →
      t.Enabled step → Discreet .gbk t step →
      t.next (Tables.storedEnv threeAccounts) step = .ok t' →
      ShowsOnly (Tables.storedTable threeAccounts) 0 1 2 t t' step := by
  have replayed : (((machine (Tables.storedEnv threeAccounts)).restrict
      (Discreet .gbk)).replay
        (.init ⟨[], fun _ member => nomatch member⟩ 1024) twoLogins).any
          (fun s => handsOver s 4 (privateFrame 2 "hi") ∧
            s.conns.fdToUid.lookup 4 = some 1 ∧ s.conns.db.val = [] ∧
            Discreet .gbk s
              (.recvMsg 4 (whole (privateFrame 2 "hi"))) ∧
            (s.next (Tables.storedEnv threeAccounts)
              (.recvMsg 4 (whole (privateFrame 2 "hi")))).any fun s' =>
                s'.conns.db.val = [⟨1, 2, 0, .ofText "hi"⟩]) = true := by
    decide +kernel
  obtain ⟨s, reached, holds⟩ := Machine.Reachable.of_replay replayed
    (storedEnv_initial threeAccounts)
  obtain ⟨ended, mine, empty, discreet, moves⟩ := of_decide_eq_true holds
  obtain ⟨s', moved, stored⟩ := Exec.any_iff.mp moves
  have stored := of_decide_eq_true stored
  obtain ⟨opened, _⟩ := of_decide_eq_true ended
  obtain ⟨conns, handles, frame, users⟩ := handles_of_handsOver ended
  have kept := (texts_private (Tables.storedTable threeAccounts) .gbk
    (Tables.storedTable_inserts threeAccounts .gbk) s
    (.recvMsg 4 (whole (privateFrame 2 "hi"))) s' 4 conns
    1 2 reached ⟨opened, discreet⟩ moved handles
    (by rw [frame]; exact ⟨rfl, rfl, rfl⟩) (by rw [users, mine])).2
  refine ⟨s, s', reached, moved, stored, ?_⟩
  intro t step t' later allowed discreet moved
  have shown := kept (by
    change s'.conns.db.val ≠ s.conns.db.val
    rw [stored, empty]
    exact List.cons_ne_nil _ _) t step t' later ⟨allowed, discreet⟩ moved
  change ShowsOnly _ s.conns.db.val.length 1 2 t t' step at shown
  rw [empty] at shown
  exact shown

/-- A private text for everybody is in the public history of a third user. -/
theorem private_for_everybody_shown :
    ¬ TextsPrivate (Tables.storedTable threeAccounts)
      (machine (Tables.storedEnv threeAccounts)) := by
  intro always
  have replayed : ((machine (Tables.storedEnv threeAccounts)).replay
      (.init ⟨[], fun _ member => nomatch member⟩ 1024) twoLogins).any
        (fun s => handsOver s 4 (privateFrame 0xFFFF "hi") ∧
          s.conns.fdToUid.lookup 4 = some 1 ∧ s.conns.db.val = [] ∧
          (s.next (Tables.storedEnv threeAccounts)
            (.recvMsg 4 (whole (privateFrame 0xFFFF "hi")))).any fun s' =>
              s'.conns.db.val = [⟨1, 0xFFFF, 0, .ofText "hi"⟩] ∧
              handsOver s' 5 (historyFrame 0x01 0xFFFF) ∧
              s'.conns.fdToUid.lookup 5 = some 2 ∧
              (s'.next (Tables.storedEnv threeAccounts)
                (.recvMsg 5 (whole (historyFrame 0x01 0xFFFF)))).any fun t =>
                  (t.conns.conns 5).history.pushed =
                    (s'.conns.conns 5).history.pushed ++ [recordsMsg
                      (Stored.encoded ⟨1, 0xFFFF, 0, .ofText "hi"⟩)]) =
                        true := by
    decide +kernel
  obtain ⟨s, reached, holds⟩ := Machine.Reachable.of_replay replayed
    (storedEnv_initial threeAccounts)
  obtain ⟨ended, mine, empty, moves⟩ := of_decide_eq_true holds
  obtain ⟨s', moved, holds⟩ := Exec.any_iff.mp moves
  obtain ⟨stored, asks, theirs, shows⟩ := of_decide_eq_true holds
  obtain ⟨t, moved', queued⟩ := Exec.any_iff.mp shows
  have queues : Queues s' t 5 _ := of_decide_eq_true (p := _ = _) queued
  obtain ⟨opened, _⟩ := of_decide_eq_true ended
  obtain ⟨opened', _, asked⟩ := of_decide_eq_true asks
  obtain ⟨conns, handles, frame, users⟩ := handles_of_handsOver ended
  have shown := (always s (.recvMsg 4 (whole (privateFrame 0xFFFF "hi"))) s' 4
    conns 1 0xFFFF reached opened moved handles
    (by rw [frame]; exact ⟨rfl, rfl, rfl⟩) (by rw [users, mine])).2
  change s'.conns.db.val ≠ s.conns.db.val → _ at shown
  rw [stored, empty] at shown
  obtain ⟨_, requester, entries, ⟨net, same, _, rfl⟩, history, only⟩ :=
    shown (List.cons_ne_nil _ _) s'
      (.recvMsg 5 (whole (historyFrame 0x01 0xFFFF))) t (.initial rfl) opened'
      moved' 5 _ _ queues (List.mem_singleton.mpr rfl) rfl rfl
  cases same
  have bound := history.bound
  obtain ⟨uid, count, read, rfl⟩ := history.asked
  have user : requester = 2 := by
    change s'.conns.fdToUid.lookup 5 = some requester at bound
    rw [theirs] at bound
    exact (Option.some.inj bound).symm
  have everybody : uid = 0xFFFF := by
    have word : (historyFrame 0x01 0xFFFF).data.wordAt 0 = .ok 0xFFFF := by
      decide
    rw [Connections.frame, setConn_conns_self, ← asked, word] at read
    exact (Except.ok.inj read).symm
  have one : picked ((Tables.storedTable threeAccounts).rows s'.conns.db)
      (toSigned 2) (toSigned 0xFFFF) =
        [(⟨1, 0xFFFF, 0, .ofText "hi"⟩, 0)] := by
    change picked s'.conns.db.val _ _ = _
    rw [stored]
    decide
  have made := history.made
  change _ = recordsMsg (recordBytes (lastOf count (picked
    ((Tables.storedTable threeAccounts).rows s'.conns.db) _ _))) at made
  rw [user, everybody, one] at made
  have first : ((Tables.storedTable threeAccounts).rows
      s.conns.db).length = 0 := by
    change s.conns.db.val.length = 0
    rw [empty]
    rfl
  change _ ∈ (lastOf count (picked ((Tables.storedTable threeAccounts).rows
    s'.conns.db) (toSigned requester) (toSigned uid))).map Prod.snd → _ at only
  rw [first, user, everybody, one] at only
  cases count with
  | zero => exact absurd (congrArg Message.data made) (by decide)
  | succ count =>
      rw [lastOf_of_length_le (Nat.succ_le_succ (Nat.zero_le count))] at only
      exact absurd (only (List.mem_singleton.mpr rfl)) (by decide)

end GroupChat.Server
