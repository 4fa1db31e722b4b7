import GroupChat.Server.Mentions
import GroupChat.System.Contacts

namespace GroupChat.System

/-! The list of contacts at a client of a server whose users stay the same. -/

open Client
open Server hiding Uid machine Record

variable {ω : Type} {env : Env ω} {host : Host} {fd : Fd} {users : List Uid}

def everybody (host : Host) : Contact :=
  ⟨uidForAll, false, host.fromLocal8Bit TcpClient.everybody⟩

namespace Session

variable {s : Session ω}

/-- What is queued to a client about who is online names registered users. -/
theorem names_invariant (directory : Directory env users) :
    (exchange env host fd).Invariant fun s =>
      ∀ entry ∈ s.queued, Names users entry.msg where
  start := by
    intro s first entry member
    rw [first.rest] at member
    cases member
  kept := by
    intro before turn after reached names allowed moved
    have next := serving_invariant.holds (reached.step allowed moved)
    cases turn with
    | client event =>
        obtain ⟨client, _, rest⟩ := Exec.of_bind_ok moved
        cases rest
        exact names
    | server step =>
        obtain ⟨server, _, rest⟩ := Exec.of_bind_ok moved
        cases rest
        unfold served at next ⊢
        split at next
        · rename_i going
          rw [if_pos going]
          intro entry member
          rcases List.mem_append.mp member with earlier | fresh
          · exact names entry earlier
          · obtain ⟨msg, pushed, rfl⟩ := List.mem_map.mp fresh
            exact (named_invariant directory).holds
              next.reached.of_restrict fd msg (List.mem_of_mem_drop pushed)
        · rename_i gone
          rw [if_neg gone]
          exact names

theorem reads_users (directory : Directory env users)
    (reached : (exchange env host fd).Reachable s) {now : Int}
    {frame : Message} (allowed : s.Enabled fd (.client (.frame now frame)))
    (type : frame.header.type = 0xA1) :
    DataStream.readWords frame.data ⊆ users := by
  obtain ⟨frames, requests, paired⟩ := paired_invariant.holds reached
  obtain ⟨entry, next, wire⟩ := paired.taking allowed.2
  have same := received_of_wire wire
  have names := (names_invariant directory).holds reached entry
    (List.mem_of_getElem? next)
  have presence : isPresence entry.msg = true := by
    rw [same] at type
    exact decide_eq_true type
  obtain ⟨uids, known, data⟩ := names presence
  have words : DataStream.readWords frame.data = uids := by
    rw [same]
    exact (congrArg DataStream.readWords data).trans
      (DataStream.readWords_flatMap uids)
  rw [words]
  exact known

theorem told_invariant (directory : Directory env users) :
    (exchange env host fd).Invariant fun s =>
      ∀ state ∈ s.taken.flatMap statesOf, state.1 ∈ users where
  start := by
    intro s first state member
    rw [first.rest] at member
    cases member
  kept := by
    intro before turn after reached told allowed moved
    cases turn with
    | server step =>
        obtain ⟨server, _, rest⟩ := Exec.of_bind_ok moved
        cases rest
        rw [(before.served_client fd step server).2]
        exact told
    | client event =>
        obtain ⟨client, reacts, rest⟩ := Exec.of_bind_ok moved
        cases rest
        cases event with
        | frame now frame =>
            intro state member
            change state ∈ (before.taken ++ [frame]).flatMap statesOf at member
            rw [List.flatMap_append, List.mem_append] at member
            rcases member with earlier | here
            · exact told state earlier
            · rw [List.flatMap_singleton] at here
              by_cases tells : frame.header.type = 0xA1 ∧
                  frame.header.subType ∈ [0x00, 0x01]
              · obtain ⟨_, _, states, _⟩ :=
                  TcpClient.parseHeader_told reacts tells
                rw [states] at here
                obtain ⟨uid, member, rfl⟩ := List.mem_map.mp here
                exact reads_users directory reached allowed tells.1 member
              · rw [TcpClient.statesOf_eq_nil tells] at here
                cases here
        | connect2Host => exact allowed.2.elim
        | connectionSuccess => exact allowed.2.elim
        | login _ _ | sendMessage _ _ | changePassword _ _ | sendFile _
        | setUid _ | closeConnection => exact told

theorem headed_invariant (directory : Directory env users)
    (unregistered : uidForAll ∉ users) :
    (connection env host fd).Invariant fun s =>
      ∃ rest, s.client.contactsModel = everybody host :: rest where
  start := by
    intro s first
    obtain ⟨c, client⟩ := first.connected
    exact ⟨[], by rw [client]; rfl⟩
  kept := by
    intro before turn after reached headed allowed moved
    cases turn with
    | server step =>
        obtain ⟨server, _, rest⟩ := Exec.of_bind_ok moved
        cases rest
        rw [(before.served_client fd step server).1]
        exact headed
    | client event =>
        obtain ⟨client, reacts, rest⟩ := Exec.of_bind_ok moved
        cases rest
        cases event with
        | frame now frame =>
            apply TcpClient.parseHeader_headed headed ?_ reacts
            intro type uid member same
            have known := reads_users directory (connection_exchange reached)
              allowed type member
            rw [same] at known
            exact unregistered known
        | connect2Host => exact allowed.2.elim
        | connectionSuccess => exact allowed.2.elim
        | login _ _ | sendMessage _ _ | changePassword _ _ | sendFile _
        | setUid _ | closeConnection =>
            have same := TcpClient.next_remembers reacts (by simp) (by simp)
            change ∃ rest, client.contactsModel = _
            rw [same.contacts]
            exact headed

/-- The client has handled the reply to its request for a user's name: the
frames it takes are the messages queued to it, in their order. -/
def NameTaken (s : Session ω) (uid : Uid) : Prop :=
  ∃ (i : Nat) (frame : Message) (entry : Queueing ω),
    s.taken[i]? = some frame ∧ s.queued[i]? = some entry ∧
      TcpClient.isReply frame = true ∧
      entry.origin = some (Request.name uid).frame

/-- The client comes to a user of a list of states that it handles. -/
structure ComesTo (s : Session ω) (fd : Fd) (frame : Message)
    (isOffline : Bool) (uid : Uid) (middle : TcpClient) : Prop where
  reads : ∃ now, s.Enabled fd (.client (.frame now frame))
  type : frame.header.type = 0xA1
  earlier : ∃ before after,
    DataStream.readWords frame.data = before ++ uid :: after ∧
      before.foldlM (TcpClient.fetchUserState isOffline)
        (s.client.holding frame) = .ok middle

theorem frame_eq_name {request : Request} {uid : Uid}
    (same : (Request.name uid).frame = request.frame) :
    request = .name uid := by
  have read := request.readWord_frame
  rw [← same, Request.readWord_frame] at read
  cases request with
  | name other =>
      change uid = other at read
      rw [read]
  | history other =>
      have type := congrArg (fun frame => frame.header.type) same
      change (0x11 : UInt8) = 0x12 at type
      cases type

theorem Listed.before {frames : List Message} {requests : List Request}
    (paired : s.Paired frames requests) (listed : s.Listed requests) {i : Nat}
    {frame : Message} (here : s.taken[i]? = some frame)
    (reply : TcpClient.isReply frame = true) :
    ((s.queued.take i).countP fun entry => isAnswer entry.msg) <
      s.taken.countP TcpClient.isReply := by
  obtain ⟨inside, at'⟩ := List.getElem?_eq_some_iff.mp here
  have messages : (s.taken.take i).map Message.wire <+:
      (s.queued.map Queueing.msg).map Message.bytes :=
    ((List.take_prefix i s.taken).map Message.wire).trans
      (paired.messages paired.announced paired.taken)
  have counted := countP_messages messages
  rw [List.length_take_of_le (Nat.le_of_lt inside)] at counted
  have granted : ∀ other ∈ s.taken.take i,
      isAnswer other = TcpClient.isReply other := by
    intro other member
    apply listed.settled
    rw [List.dropLast_eq_take]
    exact List.take_subset_take_left s.taken (by omega) member
  have more : s.taken.take i ++ [frame] <+: s.taken := by
    rw [← at', List.take_append_getElem inside]
    exact List.take_prefix _ _
  calc ((s.queued.take i).countP fun entry => isAnswer entry.msg)
      = (s.taken.take i).countP TcpClient.isReply := by
        rw [← counted, countP_granted granted]
    _ < (s.taken.take i ++ [frame]).countP TcpClient.isReply := by
        rw [List.countP_append, List.countP_singleton, if_pos reply]
        exact Nat.lt_succ_self _
    _ ≤ s.taken.countP TcpClient.isReply := more.countP_le

theorem NameTaken.named {frames : List Message} {requests : List Request}
    (paired : s.Paired frames requests) (listed : s.Listed requests)
    {uid : Uid} (taken : s.NameTaken uid) :
    uid ∈ namesAsked
      (requests.take (s.taken.countP TcpClient.isReply)) := by
  obtain ⟨i, frame, entry, here, queued, reply, origin⟩ := taken
  have before := listed.before paired here reply
  have answer : isAnswer entry.msg = true := by
    have messages := paired.messages paired.announced paired.taken
    obtain ⟨inside, at'⟩ := List.getElem?_eq_some_iff.mp here
    obtain ⟨inside', at''⟩ := List.getElem?_eq_some_iff.mp queued
    have same := messages.getElem (i := i) (by simpa using inside)
    rw [List.getElem_map, List.getElem_map, List.getElem_map, at', at'']
      at same
    rw [isAnswer_of_wire same.symm]
    rw [TcpClient.isReply, Bool.and_eq_true] at reply
    exact reply.1
  obtain ⟨request, made, source, _⟩ := paired.request queued answer
  rw [origin, Option.some.injEq] at source
  rw [frame_eq_name source] at made
  have member : Request.name uid ∈
      requests.take (s.taken.countP TcpClient.isReply) := by
    apply List.mem_of_getElem?
    rw [List.getElem?_take_of_lt before]
    exact made
  exact List.mem_filterMap.mpr ⟨_, member, rfl⟩

end Session

/-- The contact for everybody stands in front; no user is listed twice, and
each whose name was taken once.  A change of state is made for other users than
everybody only: it keeps the users, and takes the contact out and puts it back
inside the list. -/
theorem contacts_listed (env : Env ω) (users : List Uid)
    (directory : Directory env users) (unregistered : uidForAll ∉ users)
    (host : Host) (fd : Fd) (s : Session ω)
    (reached : (connection env host fd).Reachable s) :
    (∃ rest, s.client.contactsModel = everybody host :: rest) ∧
    (s.client.contactsModel.map Contact.uid).Nodup ∧
    (∀ uid, s.NameTaken uid →
      (s.client.contactsModel.map Contact.uid).count uid = 1) ∧
    ∀ frame isOffline uid middle, s.ComesTo fd frame isOffline uid middle →
      (∃ rest, middle.contactsModel = everybody host :: rest) ∧
      uid ≠ uidForAll ∧ ∀ name,
        ((middle.contactsModel.updateContact uid isOffline name).map
          Contact.uid).Perm (middle.contactsModel.map Contact.uid) ∧
        middle.contactsModel.Moves ⟨uid, isOffline, name⟩
          (middle.contactsModel.updateContact uid isOffline name) := by
  have exchanged := connection_exchange reached
  have headed := (Session.headed_invariant directory unregistered).holds reached
  obtain ⟨frames, requests, paired, listed⟩ :=
    Session.listed_invariant.holds reached
  have shown := listed.listing.shown
  have distinct : (s.client.contactsModel.map Contact.uid).Nodup := by
    apply shown.nodup_iff.mpr
    refine List.nodup_cons.mpr ⟨?_,
      listed.listing.distinct.sublist (List.sublist_append_left _ _)⟩
    intro member
    obtain ⟨state, told⟩ := Option.isSome_iff_exists.mp
      (listed.listing.mentioned uidForAll member)
    obtain ⟨before, after, whole, _⟩ := List.lookup_eq_some_iff.mp told
    apply unregistered
    apply (Session.told_invariant directory).holds exchanged (uidForAll, state)
    rw [whole]
    exact List.mem_append_right _ List.mem_cons_self
  refine ⟨headed, distinct, ?_, ?_⟩
  · intro uid taken
    apply List.count_eq_one_of_mem distinct
    exact shown.mem_iff.mpr
      (List.mem_cons_of_mem _ (taken.named paired listed))
  · intro frame isOffline uid middle comes
    obtain ⟨⟨now, allowed⟩, type, before, after, words, folded⟩ := comes
    have other : ∀ other ∈ DataStream.readWords frame.data,
        other ≠ uidForAll := by
      intro other member same
      have known := Session.reads_users directory exchanged allowed type member
      rw [same] at known
      exact unregistered known
    rw [words] at other
    have headed' : ∃ rest, middle.contactsModel = everybody host :: rest :=
      @TcpClient.fetchUserStates_headed (s.client.holding frame) middle
        isOffline (everybody host) before headed
        (fun uid member => other uid (List.mem_append_left _ member)) folded
    have different := other uid
      (List.mem_append_right _ List.mem_cons_self)
    refine ⟨headed', different, ?_⟩
    intro name
    obtain ⟨rest, front⟩ := headed'
    exact ⟨ContactsModel.map_updateContact,
      (ContactsModel.updateContact_moves front different).1⟩

/-- The second user's name was taken, and its login is told. -/
theorem contacts_listed_second : ∃ (s : Session (List Server.Record))
    (frame : Message) (middle : TcpClient),
    smallConnection.Reachable s ∧ s.NameTaken 2 ∧
    s.ComesTo 4 frame false 2 middle ∧
    (∃ rest, s.client.contactsModel = everybody Host.latin1 :: rest) ∧
    (s.client.contactsModel.map Contact.uid).Nodup ∧
    (s.client.contactsModel.map Contact.uid).count 2 = 1 ∧
    middle.contactsModel.Moves ⟨2, false, []⟩
      (middle.contactsModel.updateContact 2 false []) := by
  have replayed : (smallConnection.replay (freshSession Host.latin1)
      (loginThenLists ++ secondNamed ++ secondLogsIn.dropLast)).any (fun s =>
        decide (s.taken[4]? = some nameReply) &&
        (s.queued[4]?.any (fun entry =>
          entry.origin = some (Request.name 2).frame) &&
        decide (s.Enabled 4
          (.client (.frame 0 ⟨⟨0xA1, 0x00, 8⟩, Buffer.ofWord 2⟩))))) =
        true := by
    decide +kernel
  obtain ⟨s, reached, holds⟩ :=
    Machine.Reachable.of_replay replayed (freshSession_initial Host.latin1)
  rw [Bool.and_eq_true, Bool.and_eq_true, decide_eq_true_eq,
    decide_eq_true_eq, Option.any_eq_true] at holds
  obtain ⟨here, ⟨entry, queued, origin⟩, allowed⟩ := holds
  have taken : s.NameTaken 2 :=
    ⟨4, nameReply, entry, here, queued, rfl, of_decide_eq_true origin⟩
  have comes : s.ComesTo 4 ⟨⟨0xA1, 0x00, 8⟩, Buffer.ofWord 2⟩ false 2
      (s.client.holding ⟨⟨0xA1, 0x00, 8⟩, Buffer.ofWord 2⟩) :=
    ⟨⟨0, allowed⟩, rfl, [], [], DataStream.readWords_ofWord 2 [], rfl⟩
  obtain ⟨headed, distinct, counted, moves⟩ := contacts_listed _ _
    threeAccounts_directory (by decide) Host.latin1 4 s reached
  exact ⟨s, _, _, reached, taken, comes, headed, distinct, counted 2 taken,
    ((moves _ _ _ _ comes).2.2 []).2⟩

end GroupChat.System
