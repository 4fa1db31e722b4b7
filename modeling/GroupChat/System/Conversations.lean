import GroupChat.Client.Recording
import GroupChat.Server.Privacy
import GroupChat.System.Requests

namespace GroupChat.System

/-! What the client shows of its conversations, against the record table. -/

open Client
open Server hiding Uid machine Record

variable {ω : Type} {env : Env ω} {host : Host} {fd : Fd}

/-- The conversation that the client shows a message in. -/
def Queueing.conversation (entry : Queueing ω) : Option Uid :=
  if isText entry.msg then
    some (TcpClient.textConversation entry.msg)
  else if isHistory entry.msg then
    entry.origin.map fun frame => (DataStream.readWord frame.data).1
  else
    none

/-- The rows whose messages a queued message shows, in their order: a text the
row that it was stored as, a history the last of those between the client's user
and the one asked for. -/
inductive Gives (table : RecordTable env) (rows : List Stored)
    (entry : Queueing ω) : List Nat → Prop
  | nothing (silent : isShown entry.msg = false) : Gives table rows entry []
  | text {uid : Uid} {frame : Message} {stored : Stored}
      (kind : frame.header.subType = 0x00 ∨ frame.header.subType = 0x01)
      (msg : entry.msg = Connections.textMsg uid frame)
      (there : rows[(table.rows entry.world).length]? = some stored)
      (keeps : stored.message = frame.data.drop 4) :
      Gives table rows entry [(table.rows entry.world).length]
  | history {frame : Message} {myUid uid : Uid}
      (origin : entry.origin = some frame) (user : entry.user = some myUid)
      (type : frame.header.type = 0x12)
      (asked : frame.data.wordAt 0 = .ok uid) (count : Nat)
      (msg : entry.msg = Connections.recordsMsg (recordBytes (lastOf count
        (picked (table.rows entry.world) (toSigned myUid) (toSigned uid)))))
      (grown : table.rows entry.world <+: rows) :
      Gives table rows entry ((lastOf count (picked (table.rows entry.world)
        (toSigned myUid) (toSigned uid))).map Prod.snd)

/-- The rows shown in a conversation by these messages. -/
def idsOf (uid : Uid) (shown : List (Queueing ω × List Nat)) : List Nat :=
  shown.flatMap fun entry =>
    if entry.1.conversation = some uid then entry.2 else []

/-- A record shows the text of a row. -/
def ShowsRow (host : Host) (rows : List Stored) (id : Nat)
    (record : Client.Record) : Prop :=
  ∃ stored, rows[id]? = some stored ∧
    record.txt = host.fromLocal8Bit stored.message

/-- The records of a conversation, the newest first, are the rows that these
messages show there, in the order of the table and none of them twice. -/
def InOrder (table : RecordTable env) (host : Host) (rows : List Stored)
    (taken : List (Queueing ω)) (uid : Uid) (records : List Client.Record) :
    Prop :=
  ∃ shown : List (Queueing ω × List Nat), shown.map Prod.fst = taken ∧
    (∀ entry ∈ shown, Gives table rows entry.1 entry.2) ∧
    (idsOf uid shown).Pairwise (· < ·) ∧
    List.Forall₂ (ShowsRow host rows) (idsOf uid shown) records.reverse

def Listening : Turn → Prop
  | .client (.sendMessage _ _) => False
  | _ => True

/-- A session of a client that starts without records and only listens. -/
def listening (env : Env ω) (host : Host) (fd : Fd) :
    Machine (Session ω) Turn where
  initial := fun s => s.Begins env fd ∧
    s.client.recordModel.records = fun _ => []
  enabled := fun s turn => s.Enabled fd turn ∧ Listening turn
  next := Session.next env host fd

/-- When a history is asked for nothing but empty histories of its conversation
was queued, and every text that is handled is one of the character set. -/
def Timely (charset : Charset) (fd : Fd) (s : Session ω) : Turn → Prop
  | .server step => Legible charset s.server step ∧ (s.current = true →
      ∀ frame ∈ s.server.handedOn fd step, frame.header.type = 0x12 →
        ∀ entry ∈ s.queued,
          entry.conversation = some (DataStream.readWord frame.data).1 →
            entry.msg = Connections.recordsMsg [])
  | .client _ => True

instance : DecidablePred Listening := fun turn =>
  match turn with
  | .client (.sendMessage _ _) => inferInstanceAs (Decidable False)
  | .client .connect2Host | .client .connectionSuccess | .client (.login _ _)
  | .client (.changePassword _ _) | .client (.sendFile _)
  | .client (.setUid _) | .client .closeConnection | .client (.frame _ _)
  | .server _ => inferInstanceAs (Decidable True)

instance (env : Env ω) (host : Host) (fd : Fd) (s : Session ω) :
    DecidablePred ((listening env host fd).enabled s) := fun turn =>
  inferInstanceAs (Decidable (s.Enabled fd turn ∧ Listening turn))

instance (charset : Charset) (fd : Fd) (s : Session ω) :
    DecidablePred (Timely charset fd s) := fun turn =>
  match turn with
  | .server step => inferInstanceAs (Decidable (Legible charset s.server step ∧
      (_ = true → ∀ frame ∈ s.server.handedOn fd step, _ = _ →
        ∀ entry ∈ s.queued, _ = _ → _ = _)))
  | .client _ => inferInstanceAs (Decidable True)

theorem exchange_reachable {permitted : Session ω → Turn → Prop}
    {s : Session ω}
    (reached : ((listening env host fd).restrict permitted).Reachable s) :
    (exchange env host fd).Reachable s := by
  induction reached with
  | initial first => exact .initial first.1
  | step _ allowed moved induction =>
      exact .step induction allowed.1.1 moved

variable {table : RecordTable env} {charset : Charset}
  {rows rows' : List Stored}

theorem getElem?_grown (grown : rows <+: rows') {id : Nat} {stored : Stored}
    (there : rows[id]? = some stored) : rows'[id]? = some stored := by
  obtain ⟨more, rfl⟩ := grown
  have inside := (List.getElem?_eq_some_iff.mp there).1
  rw [List.getElem?_append_left inside, there]

theorem ShowsRow.grown {id : Nat} {record : Client.Record}
    (shows : ShowsRow host rows id record) (grown : rows <+: rows') :
    ShowsRow host rows' id record := by
  obtain ⟨stored, there, shown⟩ := shows
  exact ⟨stored, getElem?_grown grown there, shown⟩

theorem picked_ordered (count : Nat) (rows : List Stored) (myid srid : Int) :
    ((lastOf count (picked rows myid srid)).map Prod.snd).Pairwise
      (· < ·) := by
  have whole : (rows.zipIdx.map Prod.snd).Pairwise (· < ·) := by
    rw [List.zipIdx_map_snd]
    exact List.pairwise_lt_range'
  have part : (lastOf count (picked rows myid srid)).Sublist rows.zipIdx :=
    (List.drop_sublist _ _).trans List.filter_sublist
  exact whole.sublist (part.map Prod.snd)

theorem getElem?_picked {count : Nat} {myid srid : Int} {found : Stored × Nat}
    (member : found ∈ lastOf count (picked rows myid srid)) :
    rows[found.2]? = some found.1 :=
  (mem_picked.mp (List.mem_of_mem_drop member)).1

namespace Gives

variable {entry : Queueing ω} {ids : List Nat}

theorem grown (gives : Gives table rows entry ids) (more : rows <+: rows') :
    Gives table rows' entry ids := by
  cases gives with
  | nothing silent => exact .nothing silent
  | text kind msg there keeps =>
      exact .text kind msg (getElem?_grown more there) keeps
  | history origin user type asked count msg grown =>
      exact .history origin user type asked count msg (grown.trans more)

theorem bounded (gives : Gives table rows entry ids) :
    ∀ id ∈ ids, id < rows.length := by
  intro id member
  cases gives with
  | nothing silent => cases member
  | text kind msg there keeps =>
      rw [List.mem_singleton.mp member]
      exact (List.getElem?_eq_some_iff.mp there).1
  | history origin user type asked count msg grown =>
      obtain ⟨found, inside, rfl⟩ := List.mem_map.mp member
      have there := getElem?_grown grown (getElem?_picked inside)
      exact (List.getElem?_eq_some_iff.mp there).1

theorem of_empty (gives : Gives table rows entry ids)
    (empty : entry.msg = Connections.recordsMsg []) : ids = [] := by
  cases gives with
  | nothing silent => rfl
  | text kind msg there keeps =>
      rw [empty] at msg
      have type := congrArg (fun msg => msg.header.type) msg
      cases type
  | @history frame myUid uid origin user type asked count msg grown =>
      rw [empty] at msg
      have data : [] = recordBytes _ := congrArg Message.data msg
      cases found : lastOf count (picked (table.rows entry.world)
          (toSigned myUid) (toSigned uid)) with
      | nil => rfl
      | cons first rest =>
          rw [found, recordBytes, List.flatMap_cons] at data
          have size := congrArg List.length data
          have long := DataStream.length_encoded first.1
          rw [List.length_append, List.length_nil] at size
          omega

end Gives

theorem right_textMsg (uid : Uid) (frame : Message) :
    right (Connections.textMsg uid frame).data
      ((Connections.textMsg uid frame).data.length -
        TcpClient.uidByteLength) =
        frame.data.drop 4 := by
  have data : (Connections.textMsg uid frame).data =
      Buffer.ofWord uid ++ frame.data.drop 4 := by
    simp [Connections.textMsg, Buffer.overwrite]
  rw [data]
  apply right_append
  rw [List.length_append, Buffer.length_ofWord]
  exact (Nat.add_sub_cancel_left 4 _).symm

/-- The records read of a history show the rows it was made of. -/
theorem shows_history {world : ω} (grown : table.rows world <+: rows)
    {count : Nat} {myid srid : Int} {made : List Client.Record}
    (sames : List.Forall₂ (fun (record : HistoryRecord)
        (made : Client.Record) => made.txt = host.fromLocal8Bit record.msg)
      (DataStream.readRecords
        (recordBytes (lastOf count (picked (table.rows world) myid
          srid))).length
        (recordBytes (lastOf count (picked (table.rows world) myid srid)))).1
      made) :
    List.Forall₂ (ShowsRow host rows)
      ((lastOf count (picked (table.rows world) myid srid)).map Prod.snd)
      made := by
  have there : ∀ found ∈ lastOf count (picked (table.rows world) myid srid),
      (table.rows world)[found.2]? = some found.1 :=
    fun found member => getElem?_picked member
  generalize lastOf count (picked (table.rows world) myid srid) = entries
    at sames there ⊢
  have proper : ∀ stored ∈ entries.map Prod.fst, stored.Proper := by
    intro stored member
    obtain ⟨found, inside, rfl⟩ := List.mem_map.mp member
    exact table.proper world _ (List.mem_of_getElem? (there found inside))
  rw [recordBytes_eq, DataStream.readRecords_encoded proper (Nat.le_refl _),
    List.map_map, List.forall₂_map_left_iff] at sames
  rw [List.forall₂_map_left_iff]
  refine ((List.forall₂_and_left _ _).mpr ⟨there, sames⟩).imp ?_
  intro found made both
  exact ⟨found.1, getElem?_grown grown both.1, both.2⟩

section Ids

variable {uid : Uid} {first second shown : List (Queueing ω × List Nat)}

theorem idsOf_append : idsOf uid (first ++ second) =
    idsOf uid first ++ idsOf uid second :=
  List.flatMap_append

theorem mem_idsOf {id : Nat} (member : id ∈ idsOf uid shown) :
    ∃ entry ∈ shown, entry.1.conversation = some uid ∧ id ∈ entry.2 := by
  obtain ⟨entry, inside, given⟩ := List.mem_flatMap.mp member
  split at given
  · exact ⟨entry, inside, ‹_›, given⟩
  · cases given

theorem idsOf_fresh (msgs : List Message) (handed : Option Message) (world : ω)
    (user : Option Uid) (ids : List Nat) :
    idsOf uid (msgs.map fun msg =>
        (⟨msg, handed, world, user⟩, if isShown msg then ids else [])) =
      (msgs.filter isShown).flatMap fun msg =>
        if (Queueing.mk msg handed world user).conversation = some uid then ids
        else [] := by
  induction msgs with
  | nil => rfl
  | cons msg msgs induction =>
      rw [idsOf] at induction ⊢
      rw [List.map_cons, List.flatMap_cons, induction]
      cases shown : isShown msg with
      | true =>
          rw [List.filter_cons_of_pos shown, List.flatMap_cons]
          rfl
      | false =>
          rw [List.filter_cons_of_neg (by simp [shown])]
          simp

end Ids

/-- What a step queues to be shown: in each conversation rows that come after
all before, or a history that was asked for. -/
theorem displays_gives {handed : Option Message} {user : Option Uid}
    {world : ω} {msgs : List Message}
    (displays : Displays handed user (table.rows world) rows'
      (msgs.filter isShown)) :
    ∃ shown : List (Queueing ω × List Nat),
      shown.map Prod.fst = msgs.map (fun msg => ⟨msg, handed, world, user⟩) ∧
      (∀ entry ∈ shown, Gives table rows' entry.1 entry.2) ∧
      ∀ uid, (idsOf uid shown).Pairwise (· < ·) ∧
        ∀ id ∈ idsOf uid shown, id = (table.rows world).length ∨
          ∃ frame, handed = some frame ∧ frame.header.type = 0x12 ∧
            (DataStream.readWord frame.data).1 = uid := by
  have given {ids : List Nat} (gives : ∀ msg ∈ msgs.filter isShown,
      Gives table rows' ⟨msg, handed, world, user⟩ ids) :
      ∀ entry ∈ msgs.map fun msg => ((⟨msg, handed, world, user⟩ : Queueing ω),
        if isShown msg then ids else []),
        Gives table rows' entry.1 entry.2 := by
    intro entry member
    obtain ⟨msg, inside, rfl⟩ := List.mem_map.mp member
    cases shown : isShown msg with
    | true => exact gives msg (List.mem_filter.mpr ⟨inside, shown⟩)
    | false => exact .nothing shown
  have first (ids : List Nat) : (msgs.map fun msg =>
      ((⟨msg, handed, world, user⟩ : Queueing ω),
        if isShown msg then ids else [])).map Prod.fst =
      msgs.map fun msg => ⟨msg, handed, world, user⟩ := by
    rw [List.map_map]
    rfl
  generalize filtered : msgs.filter isShown = kept at displays given
  generalize before : table.rows world = rows at displays
  cases displays with
  | nothing more =>
      refine ⟨_, first [], given (fun msg member => nomatch member), ?_⟩
      intro uid
      rw [idsOf_fresh, filtered]
      exact ⟨.nil, fun id member => nomatch member⟩
  | text sender frame stored kind keeps =>
      refine ⟨_, first [rows.length], given ?_, ?_⟩
      · intro msg member
        rw [List.mem_singleton.mp member, ← before]
        refine .text kind rfl ?_ keeps
        dsimp only
        rw [List.getElem?_append_right (Nat.le_refl _), Nat.sub_self]
        rfl
      · intro uid
        rw [idsOf_fresh, filtered, List.flatMap_singleton]
        split
        · exact ⟨List.pairwise_singleton _ _,
            fun id member => .inl (List.mem_singleton.mp member)⟩
        · exact ⟨.nil, fun id member => nomatch member⟩
  | @history frame myUid other here mine type asked count =>
      refine ⟨_, first ((lastOf count (picked rows' (toSigned myUid)
        (toSigned other))).map Prod.snd), given ?_, ?_⟩
      · intro msg member
        rw [List.mem_singleton.mp member, ← before]
        exact .history here mine type asked count rfl (List.prefix_refl _)
      · intro uid
        rw [idsOf_fresh, filtered, List.flatMap_singleton]
        split
        · rename_i same
          refine ⟨picked_ordered count rows' _ _, ?_⟩
          intro id member
          rw [here] at same
          exact .inr ⟨frame, here, type, Option.some.inj same⟩
        · exact ⟨.nil, fun id member => nomatch member⟩

namespace Session

variable {s : Session ω} {shown : List (Queueing ω × List Nat)}
  {frames : List Message} {requests : List Request}

/-- The messages queued with the rows they give, and the records that were made
of those taken. -/
structure Recorded (s : Session ω) (table : RecordTable env) (host : Host)
    (shown : List (Queueing ω × List Nat)) : Prop where
  queued : shown.map Prod.fst = s.queued
  gives : ∀ entry ∈ shown,
    Gives table (table.rows s.server.conns.db) entry.1 entry.2
  ordered : ∀ uid, (idsOf uid shown).Pairwise (· < ·)
  records : ∀ uid, List.Forall₂
    (ShowsRow host (table.rows s.server.conns.db))
    (idsOf uid (shown.take s.taken.length))
    (s.client.recordModel.records uid).reverse

namespace Recorded

theorem taken_le (recorded : s.Recorded table host shown)
    (paired : s.Paired frames requests) : s.taken.length ≤ shown.length := by
  have messages :=
    (paired.messages paired.announced paired.taken).length_le
  rw [List.length_map, List.length_map, List.length_map,
    ← recorded.queued, List.length_map] at messages
  exact messages

theorem grown (recorded : s.Recorded table host shown) {server : State ω}
    {history : History} {current : Bool}
    (more : table.rows s.server.conns.db <+: table.rows server.conns.db) :
    { s with
      server := server
      history := history
      current := current }.Recorded table host shown where
  queued := recorded.queued
  gives := fun entry member => (recorded.gives entry member).grown more
  ordered := recorded.ordered
  records := fun uid =>
    (recorded.records uid).imp fun _ _ shows => shows.grown more

theorem append (recorded : s.Recorded table host shown)
    (short : s.taken.length ≤ shown.length) {fresh : List (Queueing ω)}
    {more : List (Queueing ω × List Nat)}
    (queued : more.map Prod.fst = fresh)
    (gives : ∀ entry ∈ more,
      Gives table (table.rows s.server.conns.db) entry.1 entry.2)
    (ordered : ∀ uid, (idsOf uid more).Pairwise (· < ·) ∧
      ∀ old ∈ idsOf uid shown, ∀ new ∈ idsOf uid more, old < new) :
    { s with queued := s.queued ++ fresh }.Recorded table host
      (shown ++ more) where
  queued := by rw [List.map_append, recorded.queued, queued]
  gives := by
    intro entry member
    rcases List.mem_append.mp member with before | last
    · exact recorded.gives entry before
    · exact gives entry last
  ordered := by
    intro uid
    rw [idsOf_append]
    exact List.pairwise_append.mpr
      ⟨recorded.ordered uid, (ordered uid).1, (ordered uid).2⟩
  records := by
    intro uid
    have same : (shown ++ more).take s.taken.length =
        shown.take s.taken.length :=
      List.take_append_of_le_length short
    dsimp only
    rw [same]
    exact recorded.records uid

theorem served (inserts : table.Inserts charset)
    (recorded : s.Recorded table host shown)
    (paired : s.Paired frames requests) (serving : Serving env fd s)
    {step : Step} {server : State ω} (allowed : s.Enabled fd (.server step))
    (timely : Timely charset fd s (.server step))
    (stepped : s.server.next env step = .ok server) :
    ∃ more, (s.served fd step server).Recorded table host (shown ++ more) := by
  obtain ⟨legible, timely⟩ := timely
  have reached := serving.reached.of_restrict
  obtain ⟨added, rows⟩ := rows_next inserts reached legible stepped
  have grown : table.rows s.server.conns.db <+: table.rows server.conns.db :=
    ⟨added, rows.symm⟩
  by_cases going : s.current = true ∧ step ≠ .closeConn fd
  · have history := serving.history going.1
    obtain ⟨⟨msgs, queues⟩, _⟩ := State.next_records reached allowed.1 stepped
      (serving.opened going.1)
    obtain ⟨more, queued, gives, ordered⟩ := displays_gives
      (State.next_displays inserts reached legible stepped queues)
    have later : ∀ uid, (idsOf uid more).Pairwise (· < ·) ∧
        ∀ old ∈ idsOf uid shown, ∀ new ∈ idsOf uid more, old < new := by
      intro uid
      refine ⟨(ordered uid).1, ?_⟩
      intro old before new fresh
      obtain ⟨entry, inside, here, member⟩ := mem_idsOf before
      have given := recorded.gives entry inside
      rcases (ordered uid).2 new fresh with last | ⟨frame, handed, type, same⟩
      · rw [last]
        exact given.bounded old member
      · have known : entry.1 ∈ s.queued := by
          rw [← recorded.queued]
          exact List.mem_map_of_mem inside
        have empty := timely going.1 frame handed type entry.1 known
          (by rw [here, same])
        rw [given.of_empty empty] at member
        cases member
    refine ⟨more, ?_⟩
    rw [served_current going.1 going.2, fresh_eq history queues]
    exact (recorded.grown grown).append (recorded.taken_le paired)
      queued gives later
  · refine ⟨[], ?_⟩
    rw [served_ended going, List.append_nil]
    exact recorded.grown grown

/-- What the client makes of a message: a record for each row, in the
conversation that the message is shown in. -/
theorem makes (paired : s.Paired frames requests) {now : Int}
    {frame : Message} {client : TcpClient} {entry : Queueing ω}
    {ids : List Nat} (opened : s.client.isOpen = true)
    (next : s.queued[s.taken.length]? = some entry)
    (wire : entry.msg.bytes = frame.wire)
    (gives : Gives table rows entry ids)
    (handled : s.client.parseHeader host now frame = .ok client) :
    ∃ uid made, TcpClient.Adds s.client client uid made ∧
      (ids = [] ∨ entry.conversation = some uid) ∧
      List.Forall₂ (ShowsRow host rows) ids made := by
  have same := received_of_wire wire
  cases gives with
  | nothing silent =>
      have unshown : isShown frame = false := by
        rw [same]
        exact silent
      have kept := TcpClient.unshown_keeps handled unshown
      refine ⟨0, [], ?_, .inl rfl, .nil⟩
      have none := TcpClient.Adds.none s.client 0
      rw [TcpClient.Adds] at none ⊢
      rw [kept]
      exact none
  | @text uid sent stored kind msg there keeps =>
      have text : isText entry.msg = true := by
        rw [msg]
        cases kind with
        | inl single => simp [isText, Connections.textMsg, single]
        | inr everybody => simp [isText, Connections.textMsg, everybody]
      obtain ⟨made, added, shows⟩ := TcpClient.text_adds handled (by
        rw [same]
        exact text)
      refine ⟨_, [made], added, .inr ?_, .cons ?_ .nil⟩
      · rw [Queueing.conversation, if_pos text, same]
        rfl
      · refine ⟨stored, there, ?_⟩
        rw [shows, same, msg, keeps]
        exact congrArg host.fromLocal8Bit (right_textMsg uid sent)
  | @history sent myUid other origin user' type asked count msg grown =>
      have history : isHistory entry.msg = true := by
        rw [msg]
        rfl
      have unlike : isText entry.msg = false := by
        rw [msg]
        rfl
      have answer : isAnswer entry.msg = true := by
        rw [msg]
        rfl
      obtain ⟨request, waiting, queue, origin', _⟩ :=
        paired.asked_front opened next answer
      obtain ⟨uid, made, front, added, sames⟩ :=
        TcpClient.history_adds handled (by
          rw [same]
          exact history)
      have user : uid = request.uid := by
        rw [queue] at front
        exact (List.cons.inj front).1.symm
      refine ⟨uid, made, added, .inr ?_, ?_⟩
      · rw [Queueing.conversation, if_neg (by simp [unlike]), if_pos history,
          origin', user]
        exact congrArg some request.readWord_frame
      · have data : frame.data = recordBytes (lastOf count (picked
            (table.rows entry.world) (toSigned myUid) (toSigned other))) := by
          rw [same, received, msg]
          rfl
        rw [data] at sames
        exact shows_history grown sames

theorem handled (recorded : s.Recorded table host shown)
    (paired : s.Paired frames requests) {now : Int} {frame : Message}
    {client : TcpClient} (allowed : s.Enabled fd (.client (.frame now frame)))
    (parsed : s.client.parseHeader host now frame = .ok client) :
    (s.reacted (.frame now frame) client).Recorded table host shown := by
  obtain ⟨opened, reads⟩ := allowed
  obtain ⟨entry, next, wire⟩ := paired.taking reads
  have known := next
  rw [← recorded.queued, List.getElem?_map, Option.map_eq_some_iff] at known
  obtain ⟨⟨_, ids⟩, place, rfl⟩ := known
  have given := recorded.gives _ (List.mem_of_getElem? place)
  obtain ⟨uid, made, added, here, shows⟩ :=
    makes paired opened next wire given parsed
  refine ⟨recorded.queued, recorded.gives, recorded.ordered, ?_⟩
  intro other
  have taken : (s.reacted (.frame now frame) client).taken.length =
      s.taken.length + 1 := List.length_append
  rw [taken, List.take_add_one, place, idsOf_append]
  change List.Forall₂ _ _ (client.recordModel.records other).reverse
  rw [added.reverse other]
  refine List.rel_append (recorded.records other) ?_
  rw [Option.toList_some, idsOf, List.flatMap_singleton]
  dsimp only at here ⊢
  cases here with
  | inl none =>
      rw [none] at shows ⊢
      cases shows
      simp
  | inr same =>
      rw [same]
      by_cases equal : uid = other
      · rw [if_pos (by rw [equal]), if_pos equal]
        exact shows
      · rw [if_neg (fun both => equal (Option.some.inj both)), if_neg equal]
        exact .nil

theorem called (recorded : s.Recorded table host shown) {client : TcpClient}
    (same : client.recordModel.records = s.client.recordModel.records) :
    { s with client := client }.Recorded table host shown := by
  refine ⟨recorded.queued, recorded.gives, recorded.ordered, ?_⟩
  intro uid
  dsimp only
  rw [same]
  exact recorded.records uid

end Recorded

theorem recorded_invariant (inserts : table.Inserts charset) :
    ((listening env host fd).restrict (Timely charset fd)).Invariant fun s =>
      ∃ shown, s.Recorded table host shown where
  start := by
    intro s first
    obtain ⟨begins, records⟩ := first
    refine ⟨[], ?_⟩
    rw [begins.rest]
    refine ⟨rfl, (fun entry member => nomatch member), fun uid => .nil, ?_⟩
    intro uid
    dsimp only
    rw [records]
    exact .nil
  kept := by
    intro before turn after reached recorded allowed moved
    obtain ⟨shown, recorded⟩ := recorded
    obtain ⟨⟨allowed, listens⟩, timely⟩ := allowed
    have exchanged := exchange_reachable reached
    obtain ⟨frames, requests, paired⟩ := paired_invariant.holds exchanged
    cases turn with
    | server step =>
        have serving := serving_invariant.holds exchanged
        obtain ⟨server, stepped, rest⟩ := Exec.of_bind_ok moved
        cases rest
        obtain ⟨more, kept⟩ :=
          recorded.served inserts paired serving allowed timely stepped
        exact ⟨_, kept⟩
    | client event =>
        obtain ⟨client, reacts, rest⟩ := Exec.of_bind_ok moved
        cases rest
        refine ⟨shown, ?_⟩
        cases event with
        | frame now frame => exact recorded.handled paired allowed reacts
        | connect2Host => exact allowed.2.elim
        | connectionSuccess => exact allowed.2.elim
        | sendMessage _ _ => exact listens.elim
        | login _ _ | changePassword _ _ | sendFile _ | setUid _
        | closeConnection =>
            exact recorded.called (TcpClient.calls_records reacts (by simp)
              (by simp) (by simp))

end Session

/-- Where every history is asked for in time, the records of each conversation
are stored messages, the newest first and none twice. -/
theorem records_in_order (env : Env ω) (table : RecordTable env)
    (charset : Charset) (inserts : table.Inserts charset) (host : Host)
    (fd : Fd) (s : Session ω)
    (reached : ((listening env host fd).restrict
      (Timely charset fd)).Reachable s) (uid : Client.Uid) :
    InOrder table host (table.rows s.server.conns.db)
      (s.queued.take s.taken.length) uid
      (s.client.recordModel.records uid) := by
  obtain ⟨shown, recorded⟩ :=
    (Session.recorded_invariant inserts).holds reached
  refine ⟨shown.take s.taken.length, ?_, ?_, ?_, recorded.records uid⟩
  · rw [List.map_take, recorded.queued]
  · intro entry member
    exact recorded.gives entry (List.mem_of_mem_take member)
  · have split := List.take_append_drop s.taken.length shown
    have whole := recorded.ordered uid
    rw [← split, idsOf_append] at whole
    exact (List.pairwise_append.mp whole).1

theorem InOrder.length_le {table : RecordTable env} {rows : List Stored}
    {taken : List (Queueing ω)} {uid : Client.Uid}
    {records : List Client.Record}
    (ordered : InOrder table host rows taken uid records) :
    records.length ≤ rows.length := by
  obtain ⟨shown, _, _, increasing, shows⟩ := ordered
  have inside : idsOf uid shown ⊆ List.range rows.length := by
    intro id member
    obtain ⟨place, here, rfl⟩ := List.getElem_of_mem member
    obtain ⟨stored, there, _⟩ := shows.get here (shows.length_eq ▸ here)
    exact List.mem_range.mpr (List.getElem?_eq_some_iff.mp there).1
  have distinct : (idsOf uid shown).Nodup := increasing.imp Nat.ne_of_lt
  calc records.length
      = (idsOf uid shown).length := by
        rw [shows.length_eq, List.length_reverse]
    _ ≤ (List.range rows.length).length :=
        (List.subperm_of_subset distinct inside).length_le
    _ = rows.length := List.length_range

/-- The first client on connection 4, at a server that stores records. -/
def storedSession : Session Tables.Rows where
  server :=
    { conns := (Connections.init ⟨[], fun _ member => nomatch member⟩
        1024).accepted 4
      clientFds := Function.update (fun _ => false) 4 true
      hung := Function.update (fun _ => false) 4 false }
  client := { isOpen := true }

theorem storedSession_initial (host : Host) :
    (listening (Tables.storedEnv threeAccounts) host 4).initial
      storedSession := by
  refine ⟨⟨⟨.init ⟨[], fun _ member => nomatch member⟩ 1024, ?_, ?_, rfl⟩, rfl,
    rfl, rfl, rfl⟩, rfl⟩
  · exact .initial (storedEnv_initial threeAccounts)
  · decide

/-- The server sends a message, and the client takes it. -/
def passes (frame : Message) : List Turn :=
  [.server (.sendMsg 4 [.took 4, .took frame.data.length]),
    .client (.frame 0 frame)]

/-- The server handles requests of the client. -/
def handles (requests : List Request) : List Turn :=
  requests.map fun request => .server (.recvMsg 4 (whole request.frame))

/-- User 2 is online when user 1 logs in, and is asked about. -/
def loginsOfTwo : List Turn :=
  (arrives 5 [loginFrame "b"]).map .server ++
    [.client (.login (.ofText "a") (.ofText "a")),
      .server (.recvMsg 4 (whole (loginFrame "a")))] ++
    [⟨⟨0x90, 0x00, 12⟩, Buffer.ofWord 1 ++ Buffer.ofWord 0⟩,
      ⟨⟨0xA1, 0x00, 8⟩, Buffer.ofWord 2⟩,
      ⟨⟨0xA1, 0x01, 8⟩, Buffer.ofWord 3⟩].flatMap passes

def textTurn : Turn := .server (.recvMsg 5 (whole (privateFrame 1 "hi")))

def textPassed : Message := ⟨⟨0xA3, 0x00, 10⟩, Buffer.ofWord 2 ++ .ofText "hi"⟩

def emptyHistory : Message := ⟨⟨0x92, 0x00, 4⟩, []⟩

/-- The text comes behind the history of its conversation. -/
def historyThenText : List Turn :=
  loginsOfTwo ++ handles [.history uidForAll, .name 2, .history 2] ++
    [textTurn] ++
    [emptyHistory, ⟨⟨0x91, 0x00, 5⟩, .ofText "b"⟩, emptyHistory,
      textPassed].flatMap passes

theorem records_in_order_one : ∃ s,
    (listening (Tables.storedEnv threeAccounts) Host.latin1 4).Reachable s ∧
    s.taken.length = s.queued.length ∧
    (s.client.recordModel.records 2).map Client.Record.txt = [.ofText "hi"] ∧
    InOrder (Tables.storedTable threeAccounts) Host.latin1
      s.server.conns.db.val (s.queued.take s.taken.length) 2
      (s.client.recordModel.records 2) := by
  have replayed : (((listening (Tables.storedEnv threeAccounts) Host.latin1
      4).restrict (Timely .gbk 4)).replay
        storedSession historyThenText).any (fun s =>
          s.taken.length = s.queued.length ∧
          (s.client.recordModel.records 2).map Client.Record.txt =
            [.ofText "hi"]) = true := by
    decide +kernel
  obtain ⟨s, reached, holds⟩ := Machine.Reachable.of_replay replayed
    (storedSession_initial Host.latin1)
  obtain ⟨all, one⟩ := of_decide_eq_true holds
  exact ⟨s, reached.of_restrict, all, one, records_in_order
    (Tables.storedEnv threeAccounts) (Tables.storedTable threeAccounts) .gbk
    (Tables.storedTable_inserts threeAccounts .gbk) Host.latin1 4 s reached 2⟩

/-- The text comes before the history that it is already in. -/
def textThenHistory : List Turn :=
  loginsOfTwo ++ [textTurn] ++
    handles [.history uidForAll, .name 2, .history 2, .name 3, .history 3] ++
    [textPassed, emptyHistory, ⟨⟨0x91, 0x00, 5⟩, .ofText "b"⟩,
      ⟨⟨0x92, 0x00, 19⟩, Stored.encoded ⟨2, 1, 0, .ofText "hi"⟩⟩,
      ⟨⟨0x91, 0x00, 5⟩, .ofText "c"⟩, emptyHistory].flatMap passes

theorem text_shown_twice : ¬ ∀ s,
    (listening (Tables.storedEnv threeAccounts) Host.latin1 4).Reachable s →
    s.taken.length = s.queued.length → ∀ uid,
      InOrder (Tables.storedTable threeAccounts) Host.latin1
        s.server.conns.db.val (s.queued.take s.taken.length) uid
        (s.client.recordModel.records uid) := by
  intro always
  have replayed : ((listening (Tables.storedEnv threeAccounts) Host.latin1
      4).replay storedSession textThenHistory).any (fun s =>
        s.taken.length = s.queued.length ∧
        s.server.conns.db.val.length = 1 ∧
        (s.client.recordModel.records 2).length = 2) = true := by
    decide +kernel
  obtain ⟨s, reached, holds⟩ := Machine.Reachable.of_replay replayed
    (storedSession_initial Host.latin1)
  obtain ⟨all, one, two⟩ := of_decide_eq_true holds
  have most := (always s reached all 2).length_le
  rw [one, two] at most
  exact absurd most (by decide)

end GroupChat.System
