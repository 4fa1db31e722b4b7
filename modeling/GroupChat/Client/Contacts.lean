import GroupChat.Client.Sending

namespace GroupChat.Client

/-! The contacts: what the frames tell about users, and how a user comes to be
listed once the reply with its name is there. -/

open Server (Message sizeofHeader isRequest isAnswer)

/-- What a frame tells: users, each with whether it is offline. -/
def statesOf (frame : Message) : List (Uid × Bool) :=
  if frame.header.type = 0xA1 then
    match frame.header.subType with
    | 0x00 => (DataStream.readWords frame.data).map (·, false)
    | 0x01 => (DataStream.readWords frame.data).map (·, true)
    | _ => []
  else
    []

/-- The state of a user in the first frame that mentions it. -/
def firstState (frames : List Message) (uid : Uid) : Option Bool :=
  (frames.flatMap statesOf).lookup uid

/-- The state of a user in the last frame that mentions it. -/
def lastState (frames : List Message) (uid : Uid) : Option Bool :=
  (frames.flatMap statesOf).reverse.lookup uid

def namesAsked (requests : List Request) : List Uid :=
  requests.filterMap fun
    | .name uid => some uid
    | .history _ => none

@[simp] theorem namesAsked_append (first second : List Request) :
    namesAsked (first ++ second) = namesAsked first ++ namesAsked second :=
  List.filterMap_append

@[simp] theorem namesAsked_requestsAbout (uids : List Uid) :
    namesAsked (TcpClient.requestsAbout uids) = uids := by
  induction uids with
  | nil => rfl
  | cons uid uids induction =>
      exact congrArg (uid :: ·) induction

theorem lookup_reverse_snoc (told : List (Uid × Bool)) (uid other : Uid)
    (isOffline : Bool) :
    (told ++ [(uid, isOffline)]).reverse.lookup other =
      if other = uid then some isOffline else told.reverse.lookup other := by
  rw [List.reverse_append]
  simp only [List.reverse_singleton, List.singleton_append, List.lookup_cons]
  by_cases same : other = uid
  · simp [same]
  · simp [same, beq_eq_false_iff_ne.mpr same]

namespace ContactsModel

variable {contacts : ContactsModel} {uid : Uid} {isOffline : Bool}
  {name : QString}

def without (contacts : ContactsModel) (uid : Uid) : ContactsModel :=
  contacts.eraseP fun contact => contact.uid = uid

def placeOf (others : ContactsModel) (isOffline : Bool) : Nat :=
  if isOffline then others.length else 1

theorem any_iff : contacts.any (fun contact => contact.uid = uid) = true ↔
    uid ∈ contacts.map Contact.uid := by
  simp [List.any_eq_true]

theorem updateContact_absent (absent : uid ∉ contacts.map Contact.uid) :
    contacts.updateContact uid isOffline name = contacts :=
  if_neg fun found => absent (any_iff.mp found)

theorem updateContact_perm (present : uid ∈ contacts.map Contact.uid) :
    (contacts.updateContact uid isOffline name).Perm
      (⟨uid, isOffline, name⟩ :: contacts.without uid) := by
  unfold updateContact
  rw [if_pos (any_iff.mpr present)]
  change List.Perm (if isOffline = true then
    contacts.without uid ++ [⟨uid, isOffline, name⟩] else
    (contacts.without uid).take 1 ++ ⟨uid, isOffline, name⟩ ::
      (contacts.without uid).drop 1) _
  split
  · exact List.perm_append_singleton _ _
  · have moved := @List.perm_middle _ (⟨uid, isOffline, name⟩ : Contact)
      ((contacts.without uid).take 1) ((contacts.without uid).drop 1)
    rwa [List.take_append_drop] at moved

theorem perm_without (present : uid ∈ contacts.map Contact.uid) :
    ∃ old, old.uid = uid ∧ contacts.Perm (old :: contacts.without uid) := by
  obtain ⟨found, member, same⟩ := List.mem_map.mp present
  obtain ⟨old, before, after, _, here, whole, rest⟩ :=
    List.exists_of_eraseP (p := fun contact : Contact => contact.uid = uid)
      member (decide_eq_true same)
  refine ⟨old, of_decide_eq_true here, ?_⟩
  rw [without, rest, whole]
  exact List.perm_middle

theorem map_updateContact :
    ((contacts.updateContact uid isOffline name).map Contact.uid).Perm
      (contacts.map Contact.uid) := by
  by_cases present : uid ∈ contacts.map Contact.uid
  · obtain ⟨old, same, whole⟩ := perm_without present
    calc ((contacts.updateContact uid isOffline name).map Contact.uid).Perm
          (uid :: (contacts.without uid).map Contact.uid) :=
          (updateContact_perm present).map Contact.uid
      _ = ((old :: contacts.without uid).map Contact.uid) := by
          rw [List.map_cons, same]
      List.Perm _ (contacts.map Contact.uid) := (whole.map Contact.uid).symm
  · rw [updateContact_absent present]

/-- What a change of state does to the contacts: none is there, or the first of
its user is taken out and put back among the others, which keep their order, at
a place inside. -/
inductive Moves (contacts : ContactsModel) (contact : Contact) :
    ContactsModel → Prop
  | absent (away : contact.uid ∉ contacts.map Contact.uid) :
      Moves contacts contact contacts
  | moved {before after : ContactsModel} {old : Contact}
      (whole : contacts = before ++ old :: after)
      (same : old.uid = contact.uid)
      (inside : placeOf (before ++ after) contact.isOffline ≤
        (before ++ after).length) :
      Moves contacts contact ((before ++ after).insertIdx
        (placeOf (before ++ after) contact.isOffline) contact)

theorem updateContact_moves {first : Contact} {rest : ContactsModel}
    (front : contacts = first :: rest) (other : uid ≠ first.uid) :
    contacts.Moves ⟨uid, isOffline, name⟩
        (contacts.updateContact uid isOffline name) ∧
      ∃ rest, contacts.updateContact uid isOffline name = first :: rest := by
  by_cases present : uid ∈ contacts.map Contact.uid
  · obtain ⟨found, member, same⟩ := List.mem_map.mp present
    obtain ⟨old, before, after, _, here, whole, left⟩ :=
      List.exists_of_eraseP (p := fun contact : Contact => contact.uid = uid)
        member (decide_eq_true same)
    have here : old.uid = uid := of_decide_eq_true here
    obtain ⟨before, rfl⟩ : ∃ tail, before = first :: tail := by
      cases before with
      | nil =>
          rw [front] at whole
          cases whole
          exact absurd here.symm other
      | cons head tail =>
          rw [front] at whole
          cases whole
          exact ⟨tail, rfl⟩
    have inside : placeOf (first :: before ++ after) isOffline ≤
        (first :: before ++ after).length := by
      unfold placeOf
      split
      · exact Nat.le_refl _
      · exact Nat.succ_le_succ (Nat.zero_le _)
    have result : contacts.updateContact uid isOffline name =
        (first :: before ++ after).insertIdx
          (placeOf (first :: before ++ after) isOffline)
          ⟨uid, isOffline, name⟩ := by
      unfold updateContact
      rw [if_pos (any_iff.mpr present)]
      dsimp only
      rw [left]
      cases isOffline with
      | true => exact List.insertIdx_length_self.symm
      | false => rfl
    have moves := @Moves.moved contacts ⟨uid, isOffline, name⟩
      (first :: before) after old whole here inside
    rw [result]
    refine ⟨moves, ?_⟩
    cases isOffline with
    | true =>
        exact ⟨before ++ after ++ [⟨uid, true, name⟩],
          List.insertIdx_length_self⟩
    | false => exact ⟨⟨uid, false, name⟩ :: (before ++ after), rfl⟩
  · rw [updateContact_absent present]
    exact ⟨.absent present, rest, front⟩

end ContactsModel

namespace TcpClient

variable {host : Host} {c c' : TcpClient}

/-! What most events keep. -/

/-- The contacts are as they were, and what was known of users still is. -/
structure Remembers (c c' : TcpClient) : Prop where
  contacts : c'.contactsModel = c.contactsModel
  infos : ∀ uid info, c.mapContacts.lookup uid = some info →
    c'.mapContacts.lookup uid = some info

theorem Remembers.refl (c : TcpClient) : Remembers c c :=
  ⟨rfl, fun _ _ found => found⟩

theorem Remembers.trans {c'' : TcpClient} (before : Remembers c c')
    (after : Remembers c' c'') : Remembers c c'' :=
  ⟨after.contacts.trans before.contacts,
    fun uid info found => after.infos uid info (before.infos uid info found)⟩

theorem Remembers.of_same (contacts : c'.contactsModel = c.contactsModel)
    (infos : c'.mapContacts = c.mapContacts) : Remembers c c' :=
  ⟨contacts, fun _ _ found => infos ▸ found⟩

theorem Remembers.knows (remembers : Remembers c c') {uid : Uid}
    (known : c.knows uid = true) : c'.knows uid = true := by
  obtain ⟨info, found⟩ := Option.isSome_iff_exists.mp known
  exact Option.isSome_iff_exists.mpr ⟨info, remembers.infos uid info found⟩

theorem sendWholeFrame_remembers (sent : c.sendWholeFrame = .ok c') :
    Remembers c c' := by
  obtain ⟨_, _, rest⟩ := Exec.of_bind_ok sent
  obtain ⟨_, _, rest⟩ := Exec.of_bind_ok rest
  cases rest
  exact .of_same rfl rfl

theorem getUserName_remembers {uid : Uid}
    (asked : c.getUserName uid = .ok c') : Remembers c c' := by
  have sent := sendWholeFrame_remembers asked
  exact ⟨sent.contacts, sent.infos⟩

theorem getChatHistory_remembers {uid : Uid}
    (asked : c.getChatHistory uid = .ok c') : Remembers c c' := by
  have sent := sendWholeFrame_remembers asked
  exact ⟨sent.contacts, sent.infos⟩

theorem contactName_remembers (c : TcpClient) (uid : Uid) :
    Remembers c (c.contactName uid).2 := by
  unfold contactName
  cases found : c.mapContacts.lookup uid with
  | some info => exact .refl c
  | none =>
      refine ⟨rfl, ?_⟩
      intro other info known
      have different : other ≠ uid := by
        intro same
        rw [same, found] at known
        cases known
      dsimp only
      rw [FinMap.lookup_insert_eq, if_neg different]
      exact known

theorem fetchRecord_remembers {otherUid : Uid} {bytes rest : Buffer}
    (completed : fetchRecord host otherUid bytes c = .ok (rest, c')) :
    Remembers c c' := by
  obtain ⟨_, _, made⟩ := Exec.of_bind_ok completed
  obtain ⟨_, _, made⟩ := Exec.of_bind_ok made
  have named : Remembers c
      (c.recordName (DataStream.readWord bytes).1).2 := by
    unfold recordName
    split
    · exact .refl c
    · exact contactName_remembers c _
  cases made
  exact ⟨named.contacts, named.infos⟩

theorem fetchRecords_remembers {otherUid : Uid} {fuel : Nat} {bytes : Buffer}
    (completed : fetchRecords host otherUid fuel bytes c = .ok c') :
    Remembers c c' := by
  induction fuel generalizing bytes c with
  | zero =>
      cases bytes <;> cases completed <;> exact .refl _
  | succ fuel induction =>
      cases bytes with
      | nil =>
          cases completed
          exact .refl _
      | cons b bytes =>
          obtain ⟨⟨_, middle⟩, first, rest⟩ := Exec.of_bind_ok completed
          exact (fetchRecord_remembers first).trans (induction rest)

theorem popUid_remembers {uid : Uid} (popped : c.popUid = .ok (uid, c')) :
    Remembers c c' := by
  rw [(popUid_eq.mp popped).2]
  exact .of_same rfl rfl

theorem fetchUids_remembers {rest : Buffer}
    (fetched : c.fetchUids = .ok (rest, c')) : Remembers c c' := by
  obtain ⟨_, _, made⟩ := Exec.of_bind_ok fetched
  cases made
  exact .of_same rfl rfl

theorem writePart_remembers (c : TcpClient) : Remembers c c.writePart := by
  unfold writePart
  split
  · exact .refl c
  · exact .of_same rfl rfl

theorem countPart_remembers (counted : c.countPart = .ok c') :
    Remembers c c' := by
  unfold countPart at counted
  dsimp only at counted
  split at counted
  · obtain ⟨_, _, made⟩ := Exec.of_bind_ok counted
    cases made
    exact .of_same rfl rfl
  · cases counted
    exact .of_same rfl rfl

theorem transfile_remembers {now : Int} {handler : Handler}
    (kind : handler ∈ [Handler.parseFileRequest, .parseFileAccessRespond,
      .parseFilePartRequest, .parseFileSuccessRespond])
    (handled : handler.run host now c = .ok c') : Remembers c c' := by
  cases handler with
  | parseFileRequest =>
      obtain ⟨_, _, rest⟩ := Exec.of_bind_ok handled
      obtain ⟨middle, fetched, rest⟩ := Exec.of_bind_ok rest
      obtain ⟨⟨_, first⟩, uids, made⟩ := Exec.of_bind_ok fetched
      have kept := fetchUids_remembers uids
      cases made
      cases rest
      exact ⟨kept.contacts, kept.infos⟩
  | parseFileAccessRespond =>
      obtain ⟨_, _, rest⟩ := Exec.of_bind_ok handled
      split at rest
      · obtain ⟨⟨_, first⟩, uids, made⟩ := Exec.of_bind_ok rest
        cases made
        exact fetchUids_remembers uids
      · cases rest
        exact .refl _
  | parseFilePartRequest =>
      obtain ⟨_, _, rest⟩ := Exec.of_bind_ok handled
      obtain ⟨middle, fetched, rest⟩ := Exec.of_bind_ok rest
      obtain ⟨_, _, counted⟩ := Exec.of_bind_ok rest
      obtain ⟨⟨_, first⟩, uids, made⟩ := Exec.of_bind_ok fetched
      have kept := fetchUids_remembers uids
      cases made
      have part := (writePart_remembers _).trans (countPart_remembers counted)
      exact ⟨part.contacts.trans kept.contacts,
        fun uid info found => part.infos uid info (kept.infos uid info found)⟩
  | parseFileSuccessRespond =>
      obtain ⟨_, _, rest⟩ := Exec.of_bind_ok handled
      obtain ⟨⟨_, first⟩, uids, made⟩ := Exec.of_bind_ok rest
      have kept := fetchUids_remembers uids
      cases made
      exact ⟨kept.contacts, kept.infos⟩
  | _ => simp at kind

theorem parseHeader_remembers {now : Int} {frame : Message}
    (handled : c.parseHeader host now frame = .ok c')
    (silent : ¬ (frame.header.type = 0xA1 ∧
      frame.header.subType ∈ [0x00, 0x01]))
    (unnamed : ¬ (frame.header.type = 0x91 ∧ frame.header.subType = 0x00)) :
    Remembers c c' := by
  have held : Remembers c (c.holding frame) := .of_same rfl rfl
  have closed : Remembers c (c.holding frame).closeConnection :=
    .of_same rfl rfl
  obtain ⟨_, ⟨_, rfl⟩ | ⟨handler, found, ran⟩⟩ := parseHeader_ok handled
  · exact held
  · have type := handlerOf_type found
    cases handler with
    | parseLoginInfos =>
        simp only [Handler.run, parseLoginInfos] at ran
        split at ran
        case h_4 =>
          cases ran
          exact closed
        all_goals
          have asked := getChatHistory_remembers ran
          exact ⟨asked.contacts, asked.infos⟩
    | parseUserListState =>
        simp only [List.mem_cons, Prod.mk.injEq, reduceCtorEq, and_false,
          and_true, List.not_mem_nil, or_false, false_or] at type
        simp only [Handler.run, parseUserListState] at ran
        split at ran
        · rename_i code
          exact absurd ⟨type, by rw [show frame.header.subType = _ from code]
                                 decide⟩ silent
        · rename_i code
          exact absurd ⟨type, by rw [show frame.header.subType = _ from code]
                                 decide⟩ silent
        · cases ran
          exact closed
    | parseGetUserName =>
        simp only [List.mem_cons, Prod.mk.injEq, reduceCtorEq, and_false,
          and_true, List.not_mem_nil, or_false, false_or] at type
        simp only [Handler.run, parseGetUserName] at ran
        split at ran
        · rename_i code
          exact absurd ⟨type, code⟩ unnamed
        · cases ran
          exact closed
    | parseGetChatHistory =>
        simp only [Handler.run, parseGetChatHistory] at ran
        split at ran
        · obtain ⟨⟨uid, middle⟩, popped, rest⟩ := Exec.of_bind_ok ran
          exact held.trans ((popUid_remembers popped).trans
            (fetchRecords_remembers rest))
        · cases ran
          exact closed
    | parseLogoutInfos =>
        cases ran
        exact closed
    | parseSendMessageInfos =>
        simp only [Handler.run, parseSendMessageInfos] at ran
        split at ran
        case h_4 =>
          cases ran
          exact closed
        all_goals
          cases ran
          exact held
    | parseReceiveMessageInfos =>
        have received := contactName_remembers (c.holding frame)
          (DataStream.readWord (c.holding frame).receivedData).1
        simp only [Handler.run, parseReceiveMessageInfos] at ran
        split at ran
        case h_3 =>
          cases ran
          exact closed
        all_goals
          cases ran
          exact ⟨received.contacts, received.infos⟩
    | parseChangePasswordInfos =>
        simp only [Handler.run, parseChangePasswordInfos] at ran
        split at ran
        case h_3 =>
          cases ran
          exact closed
        all_goals
          cases ran
          exact held
    | parseFileRequest | parseFileAccessRespond | parseFilePartRequest
    | parseFileSuccessRespond =>
        exact held.trans (transfile_remembers (by decide) ran)

theorem sendParts_remembers {cnt cnt' : UInt32} {reads : List Buffer}
    (completed : sendParts c cnt reads = .ok (cnt', c')) : Remembers c c' := by
  induction reads generalizing c cnt with
  | nil =>
      unfold sendParts at completed
      split at completed
      · cases completed
        exact .of_same rfl rfl
      · cases completed
        exact .refl _
  | cons part reads induction =>
      unfold sendParts at completed
      dsimp only at completed
      split at completed
      · split at completed
        · cases completed
          exact .of_same rfl rfl
        · obtain ⟨middle, sent, rest⟩ := Exec.of_bind_ok completed
          have first := sendWholeFrame_remembers sent
          have second := induction rest
          exact ⟨second.contacts.trans first.contacts, fun uid info found =>
            second.infos uid info (first.infos uid info found)⟩
      · cases completed
        exact .refl _

theorem next_remembers {event : Event} (moved : c.next host event = .ok c')
    (going : event ≠ .connect2Host)
    (user : ∀ now frame, event ≠ .frame now frame) : Remembers c c' := by
  cases event with
  | connect2Host => exact absurd rfl going
  | connectionSuccess | setUid _ | closeConnection =>
      cases moved
      exact .of_same rfl rfl
  | login name password =>
      obtain ⟨_, _, rfl⟩ := login_eq.mp moved
      exact .of_same rfl rfl
  | sendMessage txt now =>
      obtain ⟨_, _, rfl⟩ := sendMessage_eq.mp moved
      exact .of_same rfl rfl
  | changePassword oldPassword newPassword =>
      obtain ⟨_, _, rfl⟩ := changePassword_eq.mp moved
      exact .of_same rfl rfl
  | sendFile source =>
      obtain ⟨⟨cnt, middle⟩, framed, rest⟩ := Exec.of_bind_ok moved
      obtain ⟨_, _, made⟩ := Exec.of_bind_ok rest
      cases made
      obtain ⟨_, _, rest⟩ := Exec.of_bind_ok framed
      obtain ⟨composed, asked, rest⟩ := Exec.of_bind_ok rest
      obtain ⟨_, rfl⟩ := composeFileRequest_ok asked
      obtain ⟨middle, sent, rest⟩ := Exec.of_bind_ok rest
      have first := sendWholeFrame_remembers sent
      have second := sendParts_remembers rest
      exact ⟨second.contacts.trans first.contacts, fun uid info found =>
        second.infos uid info (first.infos uid info found)⟩
  | frame now frame => exact absurd rfl (user now frame)

end TcpClient

end GroupChat.Client
