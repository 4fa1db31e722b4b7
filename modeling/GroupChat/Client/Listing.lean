import GroupChat.Client.Contacts

namespace GroupChat.Client

/-! The contacts against what was told: one invariant ties the list, what is
known of users and the names still to come. -/

open Server (Message sizeofHeader)

variable {host : Host} {c c' : TcpClient} {told : List (Uid × Bool)}
  {named waiting : List Uid} {uid : Uid} {isOffline : Bool} {name : QString}

namespace ContactsModel

variable {contacts : ContactsModel}

/-- Each contact but the one for everybody has the state that was told last. -/
def Follows (contacts : ContactsModel) (told : List (Uid × Bool)) : Prop :=
  ∀ contact ∈ contacts, contact.uid ≠ uidForAll →
    told.reverse.lookup contact.uid = some contact.isOffline

theorem Follows.unlisted (follows : contacts.Follows told)
    (absent : uid ≠ uidForAll → uid ∉ contacts.map Contact.uid) :
    contacts.Follows (told ++ [(uid, isOffline)]) := by
  intro contact member other
  have different : contact.uid ≠ uid := by
    intro same
    exact absent (same ▸ other) (List.mem_map.mpr ⟨contact, member, same⟩)
  rw [lookup_reverse_snoc, if_neg different]
  exact follows contact member other

theorem Follows.updateContact (follows : contacts.Follows told)
    (once : uid ≠ uidForAll → (contacts.map Contact.uid).count uid ≤ 1) :
    (contacts.updateContact uid isOffline name).Follows
      (told ++ [(uid, isOffline)]) := by
  by_cases present : uid ∈ contacts.map Contact.uid
  · obtain ⟨old, same, whole⟩ := perm_without present
    intro contact member other
    rcases List.mem_cons.mp ((updateContact_perm present).mem_iff.mp member)
      with rfl | kept
    · rw [lookup_reverse_snoc, if_pos rfl]
    · have different : contact.uid ≠ uid := by
        intro here
        have twice := once (here ▸ other)
        rw [(whole.map Contact.uid).count_eq, List.map_cons, same,
          List.count_cons_self] at twice
        have positive : 0 < ((contacts.without uid).map Contact.uid).count
            uid :=
          List.count_pos_iff.mpr (List.mem_map.mpr ⟨contact, kept, here⟩)
        omega
      rw [lookup_reverse_snoc, if_neg different]
      exact follows contact (whole.mem_iff.mpr (List.mem_cons_of_mem old kept))
        other
  · rw [updateContact_absent present]
    exact follows.unlisted fun _ => present

theorem Follows.insertContact_iff (follows : contacts.Follows told) :
    (contacts.insertContact uid isOffline name).Follows told ↔
      (uid ≠ uidForAll → told.reverse.lookup uid = some isOffline) := by
  constructor
  · intro after other
    exact after ⟨uid, isOffline, name⟩
      (List.mem_append_right _ (List.mem_singleton_self _)) other
  · intro last contact member other
    rcases List.mem_append.mp member with before | new
    · exact follows contact before other
    · cases List.mem_singleton.mp new
      exact last other

end ContactsModel

namespace TcpClient

/-- At a client that was told these states: the users whose names have come,
in this order, and those whose names are still to come. -/
structure Listing (c : TcpClient) (told : List (Uid × Bool))
    (named waiting : List Uid) : Prop where
  shown : (c.contactsModel.map Contact.uid).Perm (uidForAll :: named)
  distinct : (named ++ waiting).Nodup
  known : ∀ uid ∈ named ++ waiting, c.knows uid = true
  heard : ∀ uid, (told.lookup uid).isSome = true → c.knows uid = true
  mentioned : ∀ uid ∈ named, (told.lookup uid).isSome = true
  noted : ∀ uid ∈ waiting,
    (c.mapContacts.lookup uid).map UserInfo.isOffline = told.lookup uid

namespace Listing

theorem remembers (listing : c.Listing told named waiting)
    (remembers : Remembers c c') : c'.Listing told named waiting where
  shown := by
    rw [remembers.contacts]
    exact listing.shown
  distinct := listing.distinct
  known := fun uid member => remembers.knows (listing.known uid member)
  heard := fun uid told => remembers.knows (listing.heard uid told)
  mentioned := listing.mentioned
  noted := by
    intro uid member
    have known := listing.known uid (List.mem_append_right _ member)
    obtain ⟨info, found⟩ := Option.isSome_iff_exists.mp known
    have noted := listing.noted uid member
    rw [found] at noted
    rw [remembers.infos uid info found]
    exact noted

theorem once (listing : c.Listing told named waiting)
    (other : uid ≠ uidForAll) :
    (c.contactsModel.map Contact.uid).count uid ≤ 1 := by
  rw [listing.shown.count_eq, List.count_cons_of_ne (Ne.symm other)]
  exact List.nodup_iff_count_le_one.mp
    (listing.distinct.sublist (List.sublist_append_left _ _)) uid

theorem told_again (listing : c.Listing told named waiting)
    (known : c.knows uid = true) :
    c.Listing (told ++ [(uid, isOffline)]) named waiting where
  shown := listing.shown
  distinct := listing.distinct
  known := listing.known
  heard := by
    intro other mentioned
    rw [List.lookup_append, Option.isSome_or, Bool.or_eq_true] at mentioned
    cases mentioned with
    | inl before => exact listing.heard other before
    | inr now =>
        by_cases same : other = uid
        · rw [same]
          exact known
        · simp [List.lookup_cons, beq_eq_false_iff_ne.mpr same] at now
  mentioned := by
    intro other member
    rw [List.lookup_append, Option.isSome_or, listing.mentioned other member,
      Bool.true_or]
  noted := by
    intro other member
    have known := listing.known other (List.mem_append_right _ member)
    obtain ⟨info, found⟩ := Option.isSome_iff_exists.mp known
    have noted := listing.noted other member
    rw [List.lookup_append, ← noted, found]
    rfl

theorem first_told (listing : c.Listing told named waiting)
    (unknown : c.knows uid = false)
    (contacts : c'.contactsModel = c.contactsModel)
    (infos : c'.mapContacts = c.mapContacts.insert uid ⟨isOffline, []⟩) :
    c'.Listing (told ++ [(uid, isOffline)]) named (waiting ++ [uid]) where
  shown := by
    rw [contacts]
    exact listing.shown
  distinct := by
    rw [← List.append_assoc]
    apply List.nodup_append_comm.mp
    apply List.nodup_cons.mpr
    refine ⟨?_, by simpa using listing.distinct⟩
    intro member
    rw [listing.known uid member] at unknown
    cases unknown
  known := by
    intro other member
    rw [knows, infos, FinMap.lookup_insert_eq]
    rw [← List.append_assoc, List.mem_append, List.mem_singleton] at member
    split
    · rfl
    · rename_i different
      exact listing.known other (member.resolve_right different)
  heard := by
    intro other mentioned
    rw [knows, infos, FinMap.lookup_insert_eq]
    split
    · rfl
    · rename_i different
      rw [List.lookup_append, List.lookup_cons,
        beq_eq_false_iff_ne.mpr different] at mentioned
      exact listing.heard other (by simpa using mentioned)
  mentioned := by
    intro other member
    rw [List.lookup_append, Option.isSome_or, listing.mentioned other member,
      Bool.true_or]
  noted := by
    intro other member
    have silent : told.lookup uid = none := by
      cases before : told.lookup uid with
      | none => rfl
      | some state =>
          have known := listing.heard uid (by rw [before]; rfl)
          rw [unknown] at known
          cases known
    rw [infos, FinMap.lookup_insert_eq, List.lookup_append]
    rcases List.mem_append.mp member with before | here
    · have known := listing.known other (List.mem_append_right _ before)
      have different : other ≠ uid := by
        intro same
        rw [same, unknown] at known
        cases known
      obtain ⟨info, found⟩ := Option.isSome_iff_exists.mp known
      have noted := listing.noted other before
      rw [if_neg different, ← noted, found]
      rfl
    · rw [List.mem_singleton.mp here, if_pos rfl, silent]
      simp

theorem fetchUserState (listing : c.Listing told named waiting)
    (completed : fetchUserState isOffline c uid = .ok c') :
    c'.Listing (told ++ [(uid, isOffline)]) named
      (waiting ++ if c.knows uid then [] else [uid]) ∧
    (c.contactsModel.Follows told →
      c'.contactsModel.Follows (told ++ [(uid, isOffline)])) := by
  unfold TcpClient.fetchUserState at completed
  cases found : c.mapContacts.lookup uid with
  | some info =>
      rw [found] at completed
      cases completed
      have known : c.knows uid = true := by rw [knows, found]; rfl
      have again := @told_again c told named waiting uid isOffline listing known
      rw [if_pos known, List.append_nil]
      refine ⟨⟨ContactsModel.map_updateContact.trans listing.shown,
        again.distinct, again.known, again.heard, again.mentioned,
        again.noted⟩, ?_⟩
      intro follows
      exact follows.updateContact listing.once
  | none =>
      rw [found] at completed
      obtain ⟨middle, asked, rest⟩ := Exec.of_bind_ok completed
      obtain ⟨_, _, _, contacts⟩ := getUserName_asked asked
      obtain ⟨_, _, _, contacts'⟩ := getChatHistory_asked rest
      have unknown : c.knows uid = false := by rw [knows, found]; rfl
      have same : c'.contactsModel = c.contactsModel :=
        (getChatHistory_remembers rest).contacts.trans
          (getUserName_remembers asked).contacts
      rw [unknown, if_neg Bool.false_ne_true]
      refine ⟨listing.first_told unknown same (contacts'.trans contacts), ?_⟩
      intro follows
      rw [same]
      apply follows.unlisted
      intro other member
      have listed := (List.mem_cons.mp (listing.shown.mem_iff.mp
        member)).resolve_left other
      have known := listing.known uid (List.mem_append_left _ listed)
      rw [unknown] at known
      cases known

end Listing

theorem fetchUserStates_induct
    {motive : TcpClient → List (Uid × Bool) → List Uid → Prop}
    {uids : List Uid}
    (step : ∀ c told waiting uid c', uid ∈ uids → motive c told waiting →
      fetchUserState isOffline c uid = .ok c' →
      motive c' (told ++ [(uid, isOffline)])
        (waiting ++ if c.knows uid then [] else [uid]))
    (first : motive c told waiting)
    (completed : uids.foldlM (fetchUserState isOffline) c = .ok c') :
    motive c' (told ++ uids.map (·, isOffline))
      (waiting ++ newcomers c.knows uids) := by
  induction uids generalizing c told waiting with
  | nil =>
      cases completed
      simpa [newcomers] using first
  | cons uid uids induction =>
      rw [List.foldlM_cons] at completed
      obtain ⟨middle, fetched, rest⟩ := Exec.of_bind_ok completed
      have next := induction
        (fun c told waiting other c' member =>
          step c told waiting other c' (List.mem_cons_of_mem uid member))
        (step c told waiting uid middle List.mem_cons_self first fetched) rest
      have knows : middle.knows =
          fun other => c.knows other || decide (other = uid) :=
        funext (fetchUserState_asked fetched).2.2.2
      rw [knows] at next
      cases before : c.knows uid with
      | true =>
          have unchanged : (fun other => c.knows other ||
              decide (other = uid)) = c.knows := by
            funext other
            by_cases equal : other = uid
            · simp [equal, before]
            · simp [equal]
          rw [before, unchanged] at next
          simpa [newcomers, before] using next
      | false =>
          rw [before] at next
          simpa [newcomers, before] using next

def isNameReply (frame : Message) : Bool :=
  frame.header.type = 0x91 && frame.header.subType = 0x00

theorem isReply_of_isNameReply {frame : Message}
    (reply : isNameReply frame = true) : isReply frame = true := by
  simp only [isNameReply, Bool.and_eq_true, decide_eq_true_eq] at reply
  simp [isReply, reply]

theorem parseHeader_appends {now : Int} {frame : Message}
    (reply : isNameReply frame = true)
    (handled : c.parseHeader host now frame = .ok c') :
    ∃ contact, c'.contactsModel = c.contactsModel ++ [contact] := by
  simp only [isNameReply, Bool.and_eq_true, decide_eq_true_eq] at reply
  have handler : handlerOf frame.header.type = some .parseGetUserName := by
    rw [reply.1]
    rfl
  rw [parseHeader_eq (parseHeader_ok handled).1 handler] at handled
  have kind : (c.holding frame).receivedHeader.subType = 0x00 := reply.2
  simp only [Handler.run, parseGetUserName] at handled
  rw [if_pos kind] at handled
  obtain ⟨⟨uid, middle⟩, popped, rest⟩ := Exec.of_bind_ok handled
  have same := (popUid_remembers popped).trans
    (contactName_remembers middle uid)
  cases rest
  exact ⟨_, congrArg (· ++ [_]) same.contacts⟩

theorem parseHeader_named {now : Int} {frame : Message} {info : UserInfo}
    {queue : List Uid} (reply : isNameReply frame = true)
    (front : c.queueUid = uid :: queue)
    (found : c.mapContacts.lookup uid = some info)
    (handled : c.parseHeader host now frame = .ok c') :
    c'.contactsModel = c.contactsModel.insertContact uid info.isOffline
      (host.fromLocal8Bit frame.data) ∧
    c'.mapContacts = c.mapContacts.insert uid
      ⟨info.isOffline, host.fromLocal8Bit frame.data⟩ := by
  simp only [isNameReply, Bool.and_eq_true, decide_eq_true_eq] at reply
  have handler : handlerOf frame.header.type = some .parseGetUserName := by
    rw [reply.1]
    rfl
  rw [parseHeader_eq (parseHeader_ok handled).1 handler] at handled
  have kind : (c.holding frame).receivedHeader.subType = 0x00 := reply.2
  simp only [Handler.run, parseGetUserName] at handled
  rw [if_pos kind] at handled
  obtain ⟨⟨other, middle⟩, popped, rest⟩ := Exec.of_bind_ok handled
  obtain ⟨waiting, taken⟩ := popUid_eq.mp popped
  have same : uid = other :=
    (List.cons.inj (front.symm.trans waiting)).1
  subst same
  have kept : middle.mapContacts = c.mapContacts ∧
      middle.contactsModel = c.contactsModel ∧
      middle.receivedData = frame.data := by
    rw [taken]
    exact ⟨rfl, rfl, rfl⟩
  have known : middle.contactName uid = (info.name, middle) := by
    rw [contactName, kept.1, found]
  rw [known] at rest
  cases rest
  simp only [kept, found]
  exact ⟨rfl, rfl⟩

theorem Listing.comes (listing : c.Listing told named (uid :: waiting)) :
    ∃ info, c.mapContacts.lookup uid = some info ∧
      told.lookup uid = some info.isOffline := by
  have known := listing.known uid
    (List.mem_append_right _ List.mem_cons_self)
  obtain ⟨info, found⟩ := Option.isSome_iff_exists.mp known
  have noted := listing.noted uid List.mem_cons_self
  rw [found] at noted
  exact ⟨info, found, noted.symm⟩

theorem Listing.name_comes {now : Int} {frame : Message} {queue : List Uid}
    (listing : c.Listing told named (uid :: waiting))
    (reply : isNameReply frame = true)
    (front : c.queueUid = uid :: queue)
    (handled : c.parseHeader host now frame = .ok c') :
    c'.Listing told (named ++ [uid]) waiting ∧
    (c.contactsModel.Follows told →
      (c'.contactsModel.Follows told ↔
        (uid ≠ uidForAll → told.reverse.lookup uid = told.lookup uid))) := by
  obtain ⟨info, found, noted⟩ := listing.comes
  obtain ⟨contacts, infos⟩ := parseHeader_named reply front found handled
  have knows : ∀ other, c'.knows other = c.knows other := by
    intro other
    rw [TcpClient.knows, TcpClient.knows, infos, FinMap.lookup_insert_eq]
    split
    · rename_i same
      rw [same, found]
      rfl
    · rfl
  have order : named ++ [uid] ++ waiting = named ++ uid :: waiting := by
    rw [List.append_assoc, List.singleton_append]
  refine ⟨⟨?_, ?_, ?_, ?_, ?_, ?_⟩, ?_⟩
  · rw [contacts, ContactsModel.insertContact, List.map_append]
    exact listing.shown.append_right [uid]
  · rw [order]
    exact listing.distinct
  · intro other member
    rw [order] at member
    rw [knows]
    exact listing.known other member
  · intro other mentioned
    rw [knows]
    exact listing.heard other mentioned
  · intro other member
    rcases List.mem_append.mp member with before | here
    · exact listing.mentioned other before
    · rw [List.mem_singleton.mp here, noted]
      rfl
  · intro other member
    have different : other ≠ uid := by
      intro same
      have apart := (List.nodup_append.mp listing.distinct).2.1
      exact (List.nodup_cons.mp apart).1 (same ▸ member)
    rw [infos, FinMap.lookup_insert_eq, if_neg different]
    exact listing.noted other (List.mem_cons_of_mem uid member)
  · intro follows
    rw [contacts, follows.insertContact_iff, noted]

theorem statesOf_eq_nil {frame : Message}
    (silent : ¬ (frame.header.type = 0xA1 ∧
      frame.header.subType ∈ [0x00, 0x01])) : statesOf frame = [] := by
  unfold statesOf
  split
  · rename_i type
    split
    · rename_i code
      exact absurd ⟨type, by rw [code]; decide⟩ silent
    · rename_i code
      exact absurd ⟨type, by rw [code]; decide⟩ silent
    · rfl
  · rfl

theorem namesAsked_requests {frame : Message}
    (silent : ¬ (frame.header.type = 0xA1 ∧
      frame.header.subType ∈ [0x00, 0x01])) :
    namesAsked (c.requests frame) = [] := by
  unfold requests
  split
  · split <;> rfl
  · rename_i found
    have type := handlerOf_type found
    simp only [List.mem_cons, Prod.mk.injEq, reduceCtorEq, and_false,
      and_true, List.not_mem_nil, or_false, false_or] at type
    rw [if_neg fun code => silent ⟨type, code⟩]
    rfl
  · rfl

theorem parseHeader_told {now : Int} {frame : Message}
    (handled : c.parseHeader host now frame = .ok c')
    (tells : frame.header.type = 0xA1 ∧
      frame.header.subType ∈ [0x00, 0x01]) :
    ∃ isOffline, (DataStream.readWords frame.data).foldlM
        (fetchUserState isOffline) (c.holding frame) = .ok c' ∧
      statesOf frame =
        (DataStream.readWords frame.data).map (·, isOffline) ∧
      namesAsked (c.requests frame) =
        newcomers c.knows (DataStream.readWords frame.data) := by
  obtain ⟨type, code⟩ := tells
  have handler : handlerOf frame.header.type = some .parseUserListState := by
    rw [type]
    rfl
  have asked : namesAsked (c.requests frame) =
      newcomers c.knows (DataStream.readWords frame.data) := by
    rw [requests, handler]
    dsimp only
    rw [if_pos code, namesAsked_requestsAbout]
  rw [parseHeader_eq (parseHeader_ok handled).1 handler] at handled
  have kind : (c.holding frame).receivedHeader.subType =
      frame.header.subType := rfl
  simp only [Handler.run, parseUserListState, kind] at handled
  simp only [List.mem_cons, List.not_mem_nil, or_false] at code
  rcases code with code | code
  · rw [code] at handled
    exact ⟨false, handled, by simp [statesOf, type, code], asked⟩
  · rw [code] at handled
    exact ⟨true, handled, by simp [statesOf, type, code], asked⟩

theorem Listing.parseHeader {now : Int} {frame : Message}
    (listing : c.Listing told named waiting)
    (unnamed : isNameReply frame = false)
    (handled : c.parseHeader host now frame = .ok c') :
    c'.Listing (told ++ statesOf frame) named
      (waiting ++ namesAsked (c.requests frame)) ∧
    (c.contactsModel.Follows told →
      c'.contactsModel.Follows (told ++ statesOf frame)) := by
  by_cases tells : frame.header.type = 0xA1 ∧
      frame.header.subType ∈ [0x00, 0x01]
  · obtain ⟨isOffline, folded, states, asked⟩ := parseHeader_told handled tells
    rw [states, asked]
    apply @fetchUserStates_induct (c.holding frame) c' told waiting isOffline
      (fun d told' waiting' => d.Listing told' named waiting' ∧
        (c.contactsModel.Follows told → d.contactsModel.Follows told'))
      (DataStream.readWords frame.data) ?_ ?_ folded
    · intro d told' waiting' uid d' _ before fetched
      have next := before.1.fetchUserState fetched
      exact ⟨next.1, fun follows => next.2 (before.2 follows)⟩
    · exact ⟨listing.remembers (.of_same rfl rfl), fun follows => follows⟩
  · have same := parseHeader_remembers handled tells (by
      simpa [isNameReply] using unnamed)
    rw [statesOf_eq_nil tells, namesAsked_requests tells, List.append_nil,
      List.append_nil, same.contacts]
    exact ⟨listing.remembers same, id⟩

theorem fetchUserStates_headed {first : Contact} {uids : List Uid}
    (headed : ∃ rest, c.contactsModel = first :: rest)
    (others : ∀ uid ∈ uids, uid ≠ first.uid)
    (completed : uids.foldlM (fetchUserState isOffline) c = .ok c') :
    ∃ rest, c'.contactsModel = first :: rest := by
  apply @fetchUserStates_induct c c' [] [] isOffline
    (fun d _ _ => ∃ rest, d.contactsModel = first :: rest) uids ?_ headed
    completed
  intro d _ _ uid d' member before fetched
  obtain ⟨rest, front⟩ := before
  unfold fetchUserState at fetched
  cases found : d.mapContacts.lookup uid with
  | some info =>
      rw [found] at fetched
      cases fetched
      exact (ContactsModel.updateContact_moves front (others uid member)).2
  | none =>
      rw [found] at fetched
      obtain ⟨middle, asked, rest'⟩ := Exec.of_bind_ok fetched
      exact ⟨rest, (getChatHistory_remembers rest').contacts.trans
        ((getUserName_remembers asked).contacts.trans front)⟩

theorem parseHeader_headed {first : Contact} {now : Int} {frame : Message}
    (headed : ∃ rest, c.contactsModel = first :: rest)
    (others : frame.header.type = 0xA1 →
      ∀ uid ∈ DataStream.readWords frame.data, uid ≠ first.uid)
    (handled : c.parseHeader host now frame = .ok c') :
    ∃ rest, c'.contactsModel = first :: rest := by
  by_cases tells : frame.header.type = 0xA1 ∧
      frame.header.subType ∈ [0x00, 0x01]
  · obtain ⟨_, folded, _⟩ := parseHeader_told handled tells
    exact @fetchUserStates_headed (c.holding frame) c' _ first _ headed
      (others tells.1) folded
  · cases reply : isNameReply frame with
    | true =>
        obtain ⟨rest, front⟩ := headed
        obtain ⟨contact, more⟩ := parseHeader_appends reply handled
        exact ⟨rest ++ [contact], by rw [more, front, List.cons_append]⟩
    | false =>
        rw [(parseHeader_remembers handled tells
          (by simpa [isNameReply] using reply)).contacts]
        exact headed

end TcpClient

end GroupChat.Client
