import GroupChat.Client.TcpClient

namespace GroupChat.Client

/-! What handling a frame does to a client: the requests it makes in the
background, and what it leaves alone. -/

open Server (Header Message sizeofHeader)

theorem wire_eq (header : Header) :
    header.wire = [header.type, header.subType] ++
      DataStream.ofShort header.length := by
  have bound := header.length.toNat_lt
  have swapped : header.length.toNat % 256 * 256 +
      header.length.toNat / 256 < 2 ^ 16 := by omega
  have low : (header.length.toNat % 256 * 256 +
      header.length.toNat / 256) / 256 = header.length.toNat % 256 := by omega
  have high : UInt8.ofNat (header.length.toNat % 256 * 256 +
      header.length.toNat / 256) = UInt8.ofNat (header.length.toNat / 256) := by
    apply UInt8.toNat.inj
    simp only [UInt8.toNat_ofNat']
    omega
  have short : UInt8.ofNat (header.length.toNat % 256) =
      UInt8.ofNat header.length.toNat := by
    apply UInt8.toNat.inj
    simp only [UInt8.toNat_ofNat']
    omega
  simp only [Header.wire, Header.memory, htons, UInt16.toNat_ofNat',
    Nat.mod_eq_of_lt swapped, low, high, short]
  rfl

inductive Request where
  | name (uid : Uid)
  | history (uid : Uid)
  deriving DecidableEq, Repr

namespace Request

def uid : Request → Uid
  | .name uid => uid
  | .history uid => uid

def frame : Request → Message
  | .name uid => .ofData 0x11 0x00 (Buffer.ofWord uid)
  | .history uid =>
      .ofData 0x12 (TcpClient.conversationType uid) (Buffer.ofWord uid)

end Request

namespace TcpClient

variable {host : Host} {c c' : TcpClient}

theorem compose_eq (c : TcpClient) (header : Header) (body : Buffer) :
    c.compose header body = { c with
      sendHeader := header
      sendMsg := (Message.mk header body).wire } := by
  rw [Message.wire, wire_eq]
  rfl

def delivered (c : TcpClient) (frame : Message) : TcpClient :=
  { c with
    sendHeader := frame.header
    sendMsg := frame.wire
    sent := c.sent ++ [frame.wire] }

theorem sendWholeFrame_eq {header : Header} {body : Buffer} :
    (c.compose header body).sendWholeFrame = .ok c' ↔
      header.length.toNat = sizeofHeader + body.length ∧ c.isOpen = true ∧
        c' = c.delivered ⟨header, body⟩ := by
  have size : (Message.mk header body).wire.length =
      sizeofHeader + body.length := by
    rw [Message.wire, List.length_append, Header.length_wire]
    rfl
  rw [compose_eq]
  constructor
  · intro completed
    obtain ⟨_, whole, rest⟩ := Exec.of_bind_ok completed
    obtain ⟨_, opened, rest⟩ := Exec.of_bind_ok rest
    rw [Exec.require_eq_ok] at whole opened
    cases rest
    exact ⟨whole.symm.trans size, opened, rfl⟩
  · intro conditions
    obtain ⟨announced, opened, rfl⟩ := conditions
    have whole : (Message.mk header body).wire.length =
        header.length.toNat := size.trans announced.symm
    simp only [sendWholeFrame, Exec.require_of whole, Exec.require_of opened,
      Exec.bind_ok, delivered]

/-- The requests that were made since an earlier state of the client. -/
structure Asked (c c' : TcpClient) (requests : List Request) : Prop where
  toUid : c'.toUid = (requests.getLast?.map Request.uid).getD c.toUid
  queueUid : c'.queueUid = c.queueUid ++ requests.map Request.uid
  sent : c'.sent = c.sent ++ requests.map fun request => request.frame.wire
  isOpen : c'.isOpen = c.isOpen

theorem Asked.none (c : TcpClient) : Asked c c [] :=
  ⟨rfl, by simp, by simp, rfl⟩

theorem Asked.trans {c'' : TcpClient} {first second : List Request}
    (before : Asked c c' first) (after : Asked c' c'' second) :
    Asked c c'' (first ++ second) where
  toUid := by
    rw [after.toUid, before.toUid, List.getLast?_append]
    cases second.getLast? <;> simp
  queueUid := by
    rw [after.queueUid, before.queueUid, List.map_append, List.append_assoc]
  sent := by
    rw [after.sent, before.sent, List.map_append, List.append_assoc]
  isOpen := after.isOpen.trans before.isOpen

/-- What no request touches. -/
structure Untouched (c c' : TcpClient) : Prop where
  uname : c'.uname = c.uname
  recordModel : c'.recordModel = c.recordModel
  file : c'.file = c.file
  fileSize : c'.fileSize = c.fileSize
  fileRecvCnt : c'.fileRecvCnt = c.fileRecvCnt
  written : c'.written = c.written

theorem Untouched.refl (c : TcpClient) : Untouched c c :=
  ⟨rfl, rfl, rfl, rfl, rfl, rfl⟩

theorem Untouched.trans {c'' : TcpClient} (before : Untouched c c')
    (after : Untouched c' c'') : Untouched c c'' :=
  ⟨after.uname.trans before.uname, after.recordModel.trans before.recordModel,
    after.file.trans before.file, after.fileSize.trans before.fileSize,
    after.fileRecvCnt.trans before.fileRecvCnt,
    after.written.trans before.written⟩

theorem getUserName_asked {uid : Uid} (completed : c.getUserName uid = .ok c') :
    Asked c c' [.name uid] ∧ Untouched c c' ∧ c'.uid = c.uid ∧
      c'.mapContacts = c.mapContacts := by
  obtain ⟨_, _, rfl⟩ := sendWholeFrame_eq.mp completed
  exact ⟨⟨rfl, rfl, rfl, rfl⟩, ⟨rfl, rfl, rfl, rfl, rfl, rfl⟩, rfl, rfl⟩

theorem getChatHistory_asked {uid : Uid}
    (completed : c.getChatHistory uid = .ok c') :
    Asked c c' [.history uid] ∧ Untouched c c' ∧ c'.uid = c.uid ∧
      c'.mapContacts = c.mapContacts := by
  obtain ⟨_, _, rfl⟩ := sendWholeFrame_eq.mp completed
  exact ⟨⟨rfl, rfl, rfl, rfl⟩, ⟨rfl, rfl, rfl, rfl, rfl, rfl⟩, rfl, rfl⟩

def knows (c : TcpClient) (uid : Uid) : Bool :=
  (c.mapContacts.lookup uid).isSome

def newcomers (known : Uid → Bool) : List Uid → List Uid
  | [] => []
  | uid :: uids =>
      if known uid then
        newcomers known uids
      else
        uid :: newcomers (fun other => known other || decide (other = uid))
          uids

def requestsAbout (uids : List Uid) : List Request :=
  uids.flatMap fun uid => [.name uid, .history uid]

/-- The requests that handling a frame leads to. -/
def requests (c : TcpClient) (frame : Message) : List Request :=
  match handlerOf frame.header.type with
  | some .parseLoginInfos =>
      if frame.header.subType ∈ [0x00, 0x01, 0x02] then [.history uidForAll]
      else []
  | some .parseUserListState =>
      if frame.header.subType ∈ [0x00, 0x01] then
        requestsAbout (newcomers c.knows (DataStream.readWords frame.data))
      else []
  | _ => []

def isReply (frame : Message) : Bool :=
  (frame.header.type = 0x91 || frame.header.type = 0x92) &&
    frame.header.subType = 0x00

/-- What handling a frame does to the requests. -/
structure Reacts (c : TcpClient) (frame : Message) (c' : TcpClient) :
    Prop where
  toUid : c'.toUid =
    ((c.requests frame).getLast?.map Request.uid).getD c.toUid
  queueUid : if isReply frame then ∃ uid, c.queueUid = uid :: c'.queueUid
    else c'.queueUid = c.queueUid ++ (c.requests frame).map Request.uid
  sent : c'.sent =
    c.sent ++ (c.requests frame).map fun request => request.frame.wire
  isOpen : c'.isOpen = true → c.isOpen = true

theorem fetchUserState_asked {isOffline : Bool} {uid : Uid}
    (completed : fetchUserState isOffline c uid = .ok c') :
    Asked c c' (if c.knows uid then [] else [.name uid, .history uid]) ∧
      Untouched c c' ∧ c'.uid = c.uid ∧
      ∀ other, c'.knows other = (c.knows other || decide (other = uid)) := by
  unfold fetchUserState at completed
  cases found : c.mapContacts.lookup uid with
  | some info =>
      rw [found] at completed
      cases completed
      have known : c.knows uid = true := by rw [knows, found]; rfl
      rw [if_pos known]
      refine ⟨⟨rfl, by simp, by simp, rfl⟩, ⟨rfl, rfl, rfl, rfl, rfl, rfl⟩, rfl,
        ?_⟩
      intro other
      by_cases same : other = uid
      · rw [same, known]
        exact known
      · rw [decide_eq_false same, Bool.or_false]
        rfl
  | none =>
      rw [found] at completed
      obtain ⟨middle, named, rest⟩ := Exec.of_bind_ok completed
      obtain ⟨naming, first, kept, contacts⟩ := getUserName_asked named
      obtain ⟨asking, second, kept', contacts'⟩ := getChatHistory_asked rest
      have unknown : c.knows uid = false := by rw [knows, found]; rfl
      rw [unknown, if_neg Bool.false_ne_true]
      refine ⟨⟨asking.toUid, ?_, ?_, asking.isOpen.trans naming.isOpen⟩,
        ⟨second.uname.trans first.uname,
          second.recordModel.trans first.recordModel,
          second.file.trans first.file, second.fileSize.trans first.fileSize,
          second.fileRecvCnt.trans first.fileRecvCnt,
          second.written.trans first.written⟩, kept'.trans kept, ?_⟩
      · rw [asking.queueUid, naming.queueUid, List.append_assoc]
        rfl
      · rw [asking.sent, naming.sent, List.append_assoc]
        rfl
      · intro other
        rw [knows, contacts', contacts, FinMap.lookup_insert_eq]
        by_cases same : other = uid
        · simp [same]
        · simp [same, knows]

theorem fetchUserStates_asked {isOffline : Bool} {uids : List Uid}
    (completed : uids.foldlM (fetchUserState isOffline) c = .ok c') :
    Asked c c' (requestsAbout (newcomers c.knows uids)) ∧
      Untouched c c' ∧ c'.uid = c.uid ∧
      ∀ other, c'.knows other = (c.knows other || decide (other ∈ uids)) := by
  induction uids generalizing c with
  | nil =>
      cases completed
      exact ⟨.none _, .refl _, rfl, by simp⟩
  | cons uid uids induction =>
      rw [List.foldlM_cons] at completed
      obtain ⟨middle, first, rest⟩ := Exec.of_bind_ok completed
      obtain ⟨asked, untouched, same, known⟩ := fetchUserState_asked first
      obtain ⟨asked', untouched', same', known'⟩ := induction rest
      refine ⟨?_, untouched.trans untouched', same'.trans same, ?_⟩
      · have joined := asked.trans asked'
        have middleKnows : middle.knows =
            fun other => c.knows other || decide (other = uid) :=
          funext known
        rw [middleKnows] at joined
        cases before : c.knows uid with
        | true =>
            have unchanged : (fun other => c.knows other ||
                decide (other = uid)) = c.knows := by
              funext other
              by_cases equal : other = uid
              · simp [equal, before]
              · simp [equal]
            rw [before, unchanged] at joined
            simpa [newcomers, before] using joined
        | false =>
            rw [before] at joined
            simpa [newcomers, before, requestsAbout] using joined
      · intro other
        rw [known', known, Bool.or_assoc]
        simp only [List.mem_cons, Bool.decide_or]

def holding (c : TcpClient) (frame : Message) : TcpClient :=
  { c with
    receivedHeader := frame.header
    receivedData := frame.data }

theorem parseHeader_eq {now : Int} {frame : Message} {handler : Handler}
    (whole : frame.header.length.toNat = frame.data.length + sizeofHeader)
    (found : handlerOf frame.header.type = some handler) :
    c.parseHeader host now frame = handler.run host now (c.holding frame) := by
  unfold parseHeader
  rw [Exec.require_of whole, Exec.bind_ok]
  simp only [found]
  rfl

theorem parseHeader_ok {now : Int} {frame : Message}
    (handled : c.parseHeader host now frame = .ok c') :
    frame.header.length.toNat = frame.data.length + sizeofHeader ∧
      (handlerOf frame.header.type = none ∧ c' = c.holding frame ∨
        ∃ handler, handlerOf frame.header.type = some handler ∧
          handler.run host now (c.holding frame) = .ok c') := by
  obtain ⟨_, whole, rest⟩ := Exec.of_bind_ok handled
  rw [Exec.require_eq_ok] at whole
  refine ⟨whole, ?_⟩
  cases found : handlerOf frame.header.type with
  | none =>
      rw [found] at rest
      cases rest
      exact .inl ⟨rfl, rfl⟩
  | some handler =>
      rw [found] at rest
      exact .inr ⟨handler, rfl, rest⟩

theorem handlerOf_type {type : UInt8} {handler : Handler}
    (found : handlerOf type = some handler) :
    (type, handler) ∈ [(0x90, Handler.parseLoginInfos),
      (0xA0, .parseLogoutInfos), (0xA1, .parseUserListState),
      (0x91, .parseGetUserName), (0x92, .parseGetChatHistory),
      (0x93, .parseSendMessageInfos), (0xA3, .parseReceiveMessageInfos),
      (0x95, .parseChangePasswordInfos), (0xA7, .parseFileRequest),
      (0xA8, .parseFileAccessRespond), (0xA9, .parseFilePartRequest),
      (0xAA, .parseFileSuccessRespond)] := by
  unfold handlerOf at found
  split at found
  case h_13 => cases found
  all_goals
    cases found
    decide

/-- What a handler keeps that asks for nothing and takes no answer. -/
structure Steady (c c' : TcpClient) : Prop where
  toUid : c'.toUid = c.toUid
  queueUid : c'.queueUid = c.queueUid
  sent : c'.sent = c.sent
  isOpen : c'.isOpen = true → c.isOpen = true

theorem Steady.refl (c : TcpClient) : Steady c c :=
  ⟨rfl, rfl, rfl, id⟩

theorem Steady.trans {c'' : TcpClient} (before : Steady c c')
    (after : Steady c' c'') : Steady c c'' :=
  ⟨after.toUid.trans before.toUid, after.queueUid.trans before.queueUid,
    after.sent.trans before.sent, before.isOpen ∘ after.isOpen⟩

/-- What everything keeps that has nothing to do with files. -/
structure SameFile (c c' : TcpClient) : Prop where
  uid : c'.uid = c.uid
  file : c'.file = c.file
  fileSize : c'.fileSize = c.fileSize
  fileRecvCnt : c'.fileRecvCnt = c.fileRecvCnt
  written : c'.written = c.written

theorem SameFile.refl (c : TcpClient) : SameFile c c :=
  ⟨rfl, rfl, rfl, rfl, rfl⟩

theorem SameFile.trans {c'' : TcpClient} (before : SameFile c c')
    (after : SameFile c' c'') : SameFile c c'' :=
  ⟨after.uid.trans before.uid, after.file.trans before.file,
    after.fileSize.trans before.fileSize,
    after.fileRecvCnt.trans before.fileRecvCnt,
    after.written.trans before.written⟩

theorem Untouched.sameFile (untouched : Untouched c c')
    (uid : c'.uid = c.uid) : SameFile c c' :=
  ⟨uid, untouched.file, untouched.fileSize, untouched.fileRecvCnt,
    untouched.written⟩

structure Calm (c c' : TcpClient) : Prop extends Steady c c', SameFile c c'

theorem Calm.refl (c : TcpClient) : Calm c c :=
  ⟨.refl c, .refl c⟩

theorem Calm.trans {c'' : TcpClient} (before : Calm c c')
    (after : Calm c' c'') : Calm c c'' :=
  ⟨before.toSteady.trans after.toSteady,
    before.toSameFile.trans after.toSameFile⟩

theorem Calm.closeConnection (c : TcpClient) : Calm c c.closeConnection :=
  ⟨⟨rfl, rfl, rfl, fun opened => nomatch opened⟩, ⟨rfl, rfl, rfl, rfl, rfl⟩⟩

theorem Calm.addRecord (calm : Calm c c') (recordModel : RecordModel) :
    Calm c { c' with recordModel := recordModel } :=
  ⟨⟨calm.toUid, calm.queueUid, calm.sent, calm.isOpen⟩,
    ⟨calm.uid, calm.file, calm.fileSize, calm.fileRecvCnt, calm.written⟩⟩

theorem contactName_calm (c : TcpClient) (uid : Uid) :
    Calm c (c.contactName uid).2 := by
  unfold contactName
  split
  · exact .refl c
  · exact ⟨⟨rfl, rfl, rfl, id⟩, ⟨rfl, rfl, rfl, rfl, rfl⟩⟩

theorem recordName_calm (c : TcpClient) (uid : Uid) :
    Calm c (c.recordName uid).2 := by
  unfold recordName
  split
  · exact .refl c
  · exact contactName_calm c uid

theorem fetchRecord_calm {otherUid : Uid} {bytes rest : Buffer}
    (completed : fetchRecord host otherUid bytes c = .ok (rest, c')) :
    Calm c c' := by
  obtain ⟨_, _, made⟩ := Exec.of_bind_ok completed
  obtain ⟨_, _, made⟩ := Exec.of_bind_ok made
  cases made
  exact (recordName_calm c (DataStream.readWord bytes).1).addRecord _

theorem fetchRecords_calm {otherUid : Uid} {fuel : Nat} {bytes : Buffer}
    (completed : fetchRecords host otherUid fuel bytes c = .ok c') :
    Calm c c' := by
  induction fuel generalizing bytes c with
  | zero =>
      cases bytes <;> cases completed <;> exact .refl _
  | succ fuel induction =>
      cases bytes with
      | nil =>
          cases completed
          exact .refl _
      | cons b bytes =>
          obtain ⟨⟨_, middle⟩, first, rest⟩ := Exec.of_bind_ok completed
          exact (fetchRecord_calm first).trans (induction rest)

theorem parseReceiveMessageInfos_calm {now : Int}
    (handled : c.parseReceiveMessageInfos host now = .ok c') :
    Calm c c' := by
  have received : ∀ group,
      Calm c (c.fetchRecvMessageHistory host group now) := fun group =>
    (contactName_calm c (DataStream.readWord c.receivedData).1).addRecord _
  unfold parseReceiveMessageInfos at handled
  split at handled
  · cases handled
    exact received false
  · cases handled
    exact received true
  · cases handled
    exact .closeConnection c

theorem fetchUids_steady {rest : Buffer}
    (fetched : c.fetchUids = .ok (rest, c')) : Steady c c' := by
  obtain ⟨_, _, made⟩ := Exec.of_bind_ok fetched
  cases made
  exact ⟨rfl, rfl, rfl, id⟩

theorem writePart_steady (c : TcpClient) : Steady c c.writePart := by
  unfold writePart
  split
  · exact .refl c
  · exact ⟨rfl, rfl, rfl, id⟩

theorem countPart_steady (counted : c.countPart = .ok c') : Steady c c' := by
  unfold countPart at counted
  dsimp only at counted
  split at counted
  · obtain ⟨_, _, made⟩ := Exec.of_bind_ok counted
    cases made
    exact ⟨rfl, rfl, rfl, id⟩
  · cases counted
    exact ⟨rfl, rfl, rfl, id⟩

theorem fetchFilePartRequest_steady
    (fetched : c.fetchFilePartRequest = .ok c') : Steady c c' := by
  obtain ⟨⟨_, first⟩, uids, made⟩ := Exec.of_bind_ok fetched
  cases made
  have steady := fetchUids_steady uids
  exact ⟨steady.toUid, steady.queueUid, steady.sent, steady.isOpen⟩

theorem transfile_steady {now : Int} {handler : Handler}
    (kind : handler ∈ [Handler.parseFileRequest, .parseFileAccessRespond,
      .parseFilePartRequest, .parseFileSuccessRespond])
    (handled : handler.run host now c = .ok c') : Steady c c' := by
  cases handler with
  | parseFileRequest =>
      obtain ⟨_, _, rest⟩ := Exec.of_bind_ok handled
      obtain ⟨middle, fetched, rest⟩ := Exec.of_bind_ok rest
      obtain ⟨⟨_, first⟩, uids, made⟩ := Exec.of_bind_ok fetched
      cases made
      cases rest
      have steady := fetchUids_steady uids
      exact ⟨steady.toUid, steady.queueUid, steady.sent, steady.isOpen⟩
  | parseFileAccessRespond =>
      obtain ⟨_, _, rest⟩ := Exec.of_bind_ok handled
      split at rest
      · obtain ⟨⟨_, first⟩, uids, made⟩ := Exec.of_bind_ok rest
        cases made
        exact fetchUids_steady uids
      · cases rest
        exact .refl _
  | parseFilePartRequest =>
      obtain ⟨_, _, rest⟩ := Exec.of_bind_ok handled
      obtain ⟨middle, fetched, rest⟩ := Exec.of_bind_ok rest
      obtain ⟨_, _, counted⟩ := Exec.of_bind_ok rest
      exact (fetchFilePartRequest_steady fetched).trans
        ((writePart_steady middle).trans (countPart_steady counted))
  | parseFileSuccessRespond =>
      obtain ⟨_, _, rest⟩ := Exec.of_bind_ok handled
      obtain ⟨⟨_, first⟩, uids, made⟩ := Exec.of_bind_ok rest
      cases made
      have steady := fetchUids_steady uids
      exact ⟨steady.toUid, steady.queueUid, steady.sent, steady.isOpen⟩
  | _ => simp at kind

theorem Steady.reacts {frame : Message} (steady : Steady c c')
    (silent : c.requests frame = []) (unasked : isReply frame = false) :
    c.Reacts frame c' where
  toUid := by rw [silent]; exact steady.toUid
  queueUid := by
    rw [unasked, silent]
    exact steady.queueUid.trans (List.append_nil _).symm
  sent := by
    rw [silent]
    exact steady.sent.trans (List.append_nil _).symm
  isOpen := steady.isOpen

theorem Asked.reacts {frame : Message}
    (asked : Asked (c.holding frame) c' (c.requests frame))
    (unasked : isReply frame = false) : c.Reacts frame c' where
  toUid := asked.toUid
  queueUid := by
    rw [unasked]
    exact asked.queueUid
  sent := asked.sent
  isOpen := fun opened => asked.isOpen.symm.trans opened

theorem requests_eq_nil {frame : Message}
    (login : handlerOf frame.header.type ≠ some .parseLoginInfos)
    (userList : handlerOf frame.header.type ≠ some .parseUserListState) :
    c.requests frame = [] := by
  unfold requests
  split
  · exact absurd ‹_› login
  · exact absurd ‹_› userList
  · rfl

theorem closed_reacts {frame : Message} (silent : c.requests frame = [])
    (unasked : isReply frame = false) :
    c.Reacts frame (c.holding frame).closeConnection :=
  Steady.reacts ⟨rfl, rfl, rfl, fun opened => nomatch opened⟩ silent unasked

theorem parseLoginInfos_reacts {frame : Message}
    (found : handlerOf frame.header.type = some .parseLoginInfos)
    (handled : (c.holding frame).parseLoginInfos = .ok c') :
    c.Reacts frame c' := by
  have type := handlerOf_type found
  simp only [List.mem_cons, Prod.mk.injEq, reduceCtorEq, and_false, and_true,
    List.not_mem_nil, or_false] at type
  have unasked : isReply frame = false := by simp [isReply, type]
  have asks : frame.header.subType ∈ [0x00, 0x01, 0x02] →
      (c.holding frame).fetchConfigs = .ok c' → c.Reacts frame c' := by
    intro succeeded fetched
    obtain ⟨asked, _⟩ := getChatHistory_asked fetched
    apply Asked.reacts _ unasked
    rw [requests, found]
    simp only [succeeded, if_true]
    exact ⟨asked.toUid, asked.queueUid, asked.sent, asked.isOpen⟩
  have kind : (c.holding frame).receivedHeader.subType =
      frame.header.subType := rfl
  unfold parseLoginInfos at handled
  rw [kind] at handled
  split at handled
  · rename_i code
    exact asks (by rw [code]; decide) handled
  · rename_i code
    exact asks (by rw [code]; decide) handled
  · rename_i code
    exact asks (by rw [code]; decide) handled
  · rename_i zero one two
    cases handled
    have refused : frame.header.subType ∉ [0x00, 0x01, 0x02] := by
      simp only [List.mem_cons, List.not_mem_nil, or_false]
      intro code
      rcases code with code | code | code
      · exact zero code
      · exact one code
      · exact two code
    exact closed_reacts (by rw [requests, found]; exact if_neg refused) unasked

theorem parseUserListState_reacts {frame : Message}
    (found : handlerOf frame.header.type = some .parseUserListState)
    (handled : (c.holding frame).parseUserListState = .ok c') :
    c.Reacts frame c' := by
  have type := handlerOf_type found
  simp only [List.mem_cons, Prod.mk.injEq, reduceCtorEq, and_false, and_true,
    List.not_mem_nil, or_false, false_or] at type
  have unasked : isReply frame = false := by simp [isReply, type]
  have asks : ∀ isOffline, frame.header.subType ∈ [0x00, 0x01] →
      (c.holding frame).fetchUserStates isOffline = .ok c' →
      c.Reacts frame c' := by
    intro isOffline listed fetched
    obtain ⟨asked, _⟩ := fetchUserStates_asked fetched
    apply Asked.reacts _ unasked
    rw [requests, found]
    simp only [listed, if_true]
    exact asked
  have kind : (c.holding frame).receivedHeader.subType =
      frame.header.subType := rfl
  unfold parseUserListState at handled
  rw [kind] at handled
  split at handled
  · rename_i code
    exact asks false (by rw [code]; decide) handled
  · rename_i code
    exact asks true (by rw [code]; decide) handled
  · rename_i zero one
    cases handled
    have strange : frame.header.subType ∉ [0x00, 0x01] := by
      simp only [List.mem_cons, List.not_mem_nil, or_false]
      intro code
      rcases code with code | code
      · exact zero code
      · exact one code
    exact closed_reacts (by rw [requests, found]; exact if_neg strange) unasked

theorem popUid_eq {uid : Uid} :
    c.popUid = .ok (uid, c') ↔
      c.queueUid = uid :: c'.queueUid ∧ c' = { c with
        queueUid := c'.queueUid } := by
  unfold popUid
  cases waiting : c.queueUid with
  | nil =>
      constructor
      · intro impossible
        cases impossible
      · intro conditions
        cases conditions.1
  | cons front queue =>
      constructor
      · intro popped
        cases popped
        exact ⟨rfl, rfl⟩
      · intro conditions
        obtain ⟨same, rest⟩ := conditions
        cases same
        rw [rest]

theorem reply_reacts {frame : Message} {uid : Uid} {middle : TcpClient}
    (popped : (c.holding frame).popUid = .ok (uid, middle))
    (steady : Steady middle c') (silent : c.requests frame = [])
    (answers : isReply frame = true) : c.Reacts frame c' := by
  obtain ⟨front, same⟩ := popUid_eq.mp popped
  have kept : middle.toUid = c.toUid ∧ middle.sent = c.sent ∧
      middle.isOpen = c.isOpen := by
    rw [same]
    exact ⟨rfl, rfl, rfl⟩
  refine ⟨?_, ?_, ?_, fun opened => kept.2.2 ▸ steady.isOpen opened⟩
  · rw [silent]
    exact steady.toUid.trans kept.1
  · rw [if_pos answers]
    exact ⟨uid, front.trans (congrArg (uid :: ·) steady.queueUid.symm)⟩
  · rw [silent]
    exact (steady.sent.trans kept.2.1).trans (List.append_nil _).symm

theorem parseGetUserName_reacts {frame : Message}
    (found : handlerOf frame.header.type = some .parseGetUserName)
    (handled : (c.holding frame).parseGetUserName host = .ok c') :
    c.Reacts frame c' := by
  have type := handlerOf_type found
  simp only [List.mem_cons, Prod.mk.injEq, reduceCtorEq, and_false, and_true,
    List.not_mem_nil, or_false, false_or] at type
  have silent : c.requests frame = [] :=
    requests_eq_nil (by rw [found]; decide) (by rw [found]; decide)
  unfold parseGetUserName at handled
  split at handled
  · rename_i succeeded
    have code : frame.header.subType = 0x00 := succeeded
    obtain ⟨⟨uid, middle⟩, popped, rest⟩ := Exec.of_bind_ok handled
    have named := contactName_calm middle uid
    cases rest
    exact reply_reacts popped
      ⟨named.toUid, named.queueUid, named.sent, named.isOpen⟩ silent
      (by simp [isReply, type, code])
  · rename_i failed
    have code : frame.header.subType ≠ 0x00 := failed
    cases handled
    exact closed_reacts silent (by simp [isReply, code])

theorem parseGetChatHistory_reacts {frame : Message}
    (found : handlerOf frame.header.type = some .parseGetChatHistory)
    (handled : (c.holding frame).parseGetChatHistory host = .ok c') :
    c.Reacts frame c' := by
  have type := handlerOf_type found
  simp only [List.mem_cons, Prod.mk.injEq, reduceCtorEq, and_false, and_true,
    List.not_mem_nil, or_false, false_or] at type
  have silent : c.requests frame = [] :=
    requests_eq_nil (by rw [found]; decide) (by rw [found]; decide)
  unfold parseGetChatHistory at handled
  split at handled
  · rename_i succeeded
    have code : frame.header.subType = 0x00 := succeeded
    obtain ⟨⟨uid, middle⟩, popped, rest⟩ := Exec.of_bind_ok handled
    exact reply_reacts popped (fetchRecords_calm rest).toSteady silent
      (by simp [isReply, type, code])
  · rename_i failed
    have code : frame.header.subType ≠ 0x00 := failed
    cases handled
    exact closed_reacts silent (by simp [isReply, code])

theorem plain_calm {now : Int} {handler : Handler}
    (kind : handler ∈ [Handler.parseLogoutInfos, .parseSendMessageInfos,
      .parseReceiveMessageInfos, .parseChangePasswordInfos])
    (handled : handler.run host now c = .ok c') : Calm c c' := by
  cases handler with
  | parseLogoutInfos =>
      cases handled
      exact .closeConnection c
  | parseSendMessageInfos =>
      simp only [Handler.run, parseSendMessageInfos] at handled
      split at handled
      case h_4 =>
        cases handled
        exact .closeConnection c
      all_goals
        cases handled
        exact .refl _
  | parseReceiveMessageInfos => exact parseReceiveMessageInfos_calm handled
  | parseChangePasswordInfos =>
      simp only [Handler.run, parseChangePasswordInfos] at handled
      split at handled
      case h_3 =>
        cases handled
        exact .closeConnection c
      all_goals
        cases handled
        exact .refl _
  | _ => simp at kind

theorem parseHeader_reacts {now : Int} {frame : Message}
    (handled : c.parseHeader host now frame = .ok c') : c.Reacts frame c' := by
  obtain ⟨_, ⟨unknown, rfl⟩ | ⟨handler, found, ran⟩⟩ := parseHeader_ok handled
  · have unasked : isReply frame = false := by
      by_contra answers
      simp only [isReply, Bool.not_eq_false, Bool.and_eq_true,
        Bool.or_eq_true, decide_eq_true_eq] at answers
      rcases answers.1 with type | type
      · rw [type] at unknown
        cases unknown
      · rw [type] at unknown
        cases unknown
    exact Steady.reacts ⟨rfl, rfl, rfl, id⟩
      (requests_eq_nil (by simp [unknown]) (by simp [unknown])) unasked
  · have type := handlerOf_type found
    have steady : Steady (c.holding frame) c' →
        c.requests frame = [] → isReply frame = false →
        c.Reacts frame c' := fun kept =>
      Steady.reacts ⟨kept.toUid, kept.queueUid, kept.sent, kept.isOpen⟩
    cases handler with
    | parseLoginInfos => exact parseLoginInfos_reacts found ran
    | parseUserListState => exact parseUserListState_reacts found ran
    | parseGetUserName => exact parseGetUserName_reacts found ran
    | parseGetChatHistory => exact parseGetChatHistory_reacts found ran
    | parseLogoutInfos | parseSendMessageInfos | parseReceiveMessageInfos
    | parseChangePasswordInfos =>
        simp only [List.mem_cons, Prod.mk.injEq, reduceCtorEq, and_false,
          and_true, List.not_mem_nil, or_false, false_or] at type
        exact steady (plain_calm (by decide) ran).toSteady
          (requests_eq_nil (by simp [found]) (by simp [found]))
          (by simp [isReply, type])
    | parseFileRequest | parseFileAccessRespond | parseFilePartRequest
    | parseFileSuccessRespond =>
        simp only [List.mem_cons, Prod.mk.injEq, reduceCtorEq, and_false,
          and_true, List.not_mem_nil, or_false, false_or] at type
        exact steady (transfile_steady (by decide) ran)
          (requests_eq_nil (by simp [found]) (by simp [found]))
          (by simp [isReply, type])

def fileTypes : List UInt8 := [0xA7, 0xA8, 0xA9, 0xAA]

theorem SameFile.holding (c : TcpClient) (frame : Message) :
    SameFile c (c.holding frame) :=
  ⟨rfl, rfl, rfl, rfl, rfl⟩

theorem parseGetUserName_sameFile
    (handled : c.parseGetUserName host = .ok c') : SameFile c c' := by
  unfold parseGetUserName at handled
  split at handled
  · obtain ⟨⟨uid, middle⟩, popped, rest⟩ := Exec.of_bind_ok handled
    have named := (contactName_calm middle uid).toSameFile
    have front : SameFile c middle := by
      rw [(popUid_eq.mp popped).2]
      exact ⟨rfl, rfl, rfl, rfl, rfl⟩
    have whole := front.trans named
    cases rest
    exact ⟨whole.uid, whole.file, whole.fileSize, whole.fileRecvCnt,
      whole.written⟩
  · cases handled
    exact (Calm.closeConnection c).toSameFile

theorem parseGetChatHistory_sameFile
    (handled : c.parseGetChatHistory host = .ok c') : SameFile c c' := by
  unfold parseGetChatHistory at handled
  split at handled
  · obtain ⟨⟨uid, middle⟩, popped, rest⟩ := Exec.of_bind_ok handled
    have front : SameFile c middle := by
      rw [(popUid_eq.mp popped).2]
      exact ⟨rfl, rfl, rfl, rfl, rfl⟩
    exact front.trans (fetchRecords_calm rest).toSameFile
  · cases handled
    exact (Calm.closeConnection c).toSameFile

theorem parseUserListState_sameFile
    (handled : c.parseUserListState = .ok c') : SameFile c c' := by
  unfold parseUserListState at handled
  split at handled
  · obtain ⟨_, untouched, uid, _⟩ := fetchUserStates_asked handled
    exact untouched.sameFile uid
  · obtain ⟨_, untouched, uid, _⟩ := fetchUserStates_asked handled
    exact untouched.sameFile uid
  · cases handled
    exact (Calm.closeConnection c).toSameFile

theorem fetchConfigs_sameFile
    (same : (DataStream.readWord c.receivedData).1 = c.uid)
    (fetched : c.fetchConfigs = .ok c') : SameFile c c' := by
  obtain ⟨_, untouched, uid, _⟩ := getChatHistory_asked fetched
  exact ⟨uid.trans same, untouched.file, untouched.fileSize,
    untouched.fileRecvCnt, untouched.written⟩

theorem parseLoginInfos_sameFile
    (same : (DataStream.readWord c.receivedData).1 = c.uid)
    (handled : c.parseLoginInfos = .ok c') : SameFile c c' := by
  unfold parseLoginInfos at handled
  split at handled
  case h_4 =>
    cases handled
    exact (Calm.closeConnection c).toSameFile
  all_goals exact fetchConfigs_sameFile same handled

/-- Whether a frame leaves the file being received alone: it is not about
files, and does not tell the client that it is another user's. -/
def LeavesFile (c : TcpClient) (frame : Message) : Prop :=
  frame.header.type ∉ fileTypes ∧ (frame.header.type = 0x90 →
    (DataStream.readWord frame.data).1 = c.uid)

theorem parseHeader_sameFile {now : Int} {frame : Message}
    (handled : c.parseHeader host now frame = .ok c')
    (leaves : c.LeavesFile frame) : SameFile c c' := by
  obtain ⟨noFile, sameUser⟩ := leaves
  obtain ⟨_, ⟨unknown, rfl⟩ | ⟨handler, found, ran⟩⟩ := parseHeader_ok handled
  · exact .holding c frame
  · have type := handlerOf_type found
    apply (SameFile.holding c frame).trans
    cases handler with
    | parseLoginInfos =>
        simp only [List.mem_cons, Prod.mk.injEq, reduceCtorEq, and_false,
          and_true, List.not_mem_nil, or_false] at type
        exact parseLoginInfos_sameFile (sameUser type) ran
    | parseUserListState => exact parseUserListState_sameFile ran
    | parseGetUserName => exact parseGetUserName_sameFile ran
    | parseGetChatHistory => exact parseGetChatHistory_sameFile ran
    | parseLogoutInfos | parseSendMessageInfos | parseReceiveMessageInfos
    | parseChangePasswordInfos => exact (plain_calm (by decide) ran).toSameFile
    | parseFileRequest | parseFileAccessRespond | parseFilePartRequest
    | parseFileSuccessRespond =>
        simp only [List.mem_cons, Prod.mk.injEq, reduceCtorEq, and_false,
          and_true, List.not_mem_nil, or_false, false_or] at type
        rw [type] at noFile
        exact absurd (by decide) noFile

end TcpClient

end GroupChat.Client
