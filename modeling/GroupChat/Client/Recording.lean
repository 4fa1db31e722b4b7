import GroupChat.Client.History
import GroupChat.Client.Sending
import GroupChat.Server.Shown

namespace GroupChat.Client.TcpClient

/-! What the events of a client make of its records. -/

open Server (Header Message sizeofHeader isText isHistory isShown)

variable {host : Host} {c c' : TcpClient}

/-- These records were added to a conversation, one after the other. -/
def Adds (c c' : TcpClient) (uid : Uid) (made : List Record) : Prop :=
  c'.recordModel.records = Function.update c.recordModel.records uid
    (made.reverse ++ c.recordModel.records uid)

theorem Adds.none (c : TcpClient) (uid : Uid) : Adds c c uid [] :=
  (Function.update_eq_self uid c.recordModel.records).symm

theorem Adds.cons {c'' : TcpClient} {uid : Uid} {first : Record}
    {rest : List Record} (before : Adds c c' uid [first])
    (after : Adds c' c'' uid rest) : Adds c c'' uid (first :: rest) := by
  rw [Adds] at before after ⊢
  rw [after, before, Function.update_idem, Function.update_self]
  simp only [List.reverse_cons, List.reverse_nil, List.nil_append,
    List.append_assoc]

theorem Adds.reverse {uid : Uid} {made : List Record}
    (added : Adds c c' uid made) (other : Uid) :
    (c'.recordModel.records other).reverse =
      (c.recordModel.records other).reverse ++
        if uid = other then made else [] := by
  rw [Adds] at added
  rw [added]
  by_cases same : uid = other
  · rw [if_pos same, same, Function.update_self, List.reverse_append,
      List.reverse_reverse]
  · rw [if_neg same, Function.update_of_ne (Ne.symm same), List.append_nil]

theorem Adds.addRecord {middle : TcpClient}
    (same : middle.recordModel = c.recordModel) (uid : Uid) (sentByMe : Bool)
    (name txt : QString) (time : Int) :
    ∃ made, Adds c { middle with recordModel :=
        middle.recordModel.addRecord host uid sentByMe name txt time } uid
      [made] ∧ made.txt = txt := by
  refine ⟨⟨sentByMe, name, txt, host.showTime time⟩, ?_, rfl⟩
  rw [Adds, ← same]
  rfl

theorem contactName_recordModel (c : TcpClient) (uid : Uid) :
    (c.contactName uid).2.recordModel = c.recordModel := by
  unfold contactName
  split <;> rfl

theorem recordName_recordModel (c : TcpClient) (uid : Uid) :
    (c.recordName uid).2.recordModel = c.recordModel := by
  unfold recordName
  split
  · rfl
  · exact contactName_recordModel c uid

theorem takeRecord_adds {otherUid : Uid} {record : HistoryRecord}
    (taken : c.takeRecord host otherUid record = .ok c') :
    ∃ made, Adds c c' otherUid [made] ∧
      made.txt = host.fromLocal8Bit record.msg := by
  obtain ⟨_, _, rest⟩ := Exec.of_bind_ok taken
  obtain ⟨_, _, rest⟩ := Exec.of_bind_ok rest
  have same := recordName_recordModel c record.uid
  cases named : c.recordName record.uid with
  | mk name middle =>
      rw [named] at rest same
      cases rest
      exact Adds.addRecord same otherUid _ name _ record.time

theorem takeRecords_adds {c c' : TcpClient} {otherUid : Uid}
    {records : List HistoryRecord}
    (taken : records.foldlM (takeRecord host otherUid) c = .ok c') :
    ∃ made, Adds c c' otherUid made ∧ List.Forall₂
      (fun (record : HistoryRecord) (made : Record) =>
        made.txt = host.fromLocal8Bit record.msg) records made := by
  induction records generalizing c with
  | nil =>
      cases taken
      exact ⟨[], .none _ otherUid, .nil⟩
  | cons record records induction =>
      rw [List.foldlM_cons] at taken
      obtain ⟨middle, first, rest⟩ := Exec.of_bind_ok taken
      obtain ⟨made, added, same⟩ := takeRecord_adds first
      obtain ⟨more, addedMore, sames⟩ := induction rest
      exact ⟨made :: more, added.cons addedMore, .cons same sames⟩

def textConversation (frame : Message) : Uid :=
  if frame.header.subType = 0x01 then uidForAll
  else (DataStream.readWord frame.data).1

theorem text_adds {now : Int} {frame : Message}
    (handled : c.parseHeader host now frame = .ok c')
    (text : isText frame = true) :
    ∃ made, Adds c c' (textConversation frame) [made] ∧
      made.txt = host.fromLocal8Bit
        (right frame.data (frame.data.length - uidByteLength)) := by
  have whole := (parseHeader_ok handled).1
  simp only [isText, Bool.and_eq_true, Bool.or_eq_true, decide_eq_true_eq]
    at text
  obtain ⟨type, kind⟩ := text
  have found : handlerOf frame.header.type =
      some .parseReceiveMessageInfos := by
    rw [type]
    rfl
  rw [parseHeader_eq whole found] at handled
  have adds (group : Bool)
      (conversation : textConversation frame = if group then uidForAll
        else (DataStream.readWord frame.data).1) :
      ∃ made, Adds c
        ((c.holding frame).fetchRecvMessageHistory host group now)
        (textConversation frame) [made] ∧ made.txt = host.fromLocal8Bit
          (right frame.data (frame.data.length - uidByteLength)) := by
    have same := contactName_recordModel (c.holding frame)
      (DataStream.readWord frame.data).1
    have records : (c.holding frame).recordModel = c.recordModel := rfl
    rw [records] at same
    rw [conversation]
    exact Adds.addRecord same _ false _ _ now
  cases kind with
  | inl single =>
      have runs : Handler.run host now (c.holding frame)
          .parseReceiveMessageInfos =
            .ok ((c.holding frame).fetchRecvMessageHistory host false now) := by
        simp only [Handler.run, parseReceiveMessageInfos, holding, single]
      cases Except.ok.inj (runs.symm.trans handled)
      exact adds false (by rw [textConversation, single]; rfl)
  | inr everybody =>
      have runs : Handler.run host now (c.holding frame)
          .parseReceiveMessageInfos =
            .ok ((c.holding frame).fetchRecvMessageHistory host true now) := by
        simp only [Handler.run, parseReceiveMessageInfos, holding, everybody]
      cases Except.ok.inj (runs.symm.trans handled)
      exact adds true (by rw [textConversation, everybody]; rfl)

theorem history_adds {now : Int} {frame : Message}
    (handled : c.parseHeader host now frame = .ok c')
    (history : isHistory frame = true) :
    ∃ uid made, c.queueUid = uid :: c'.queueUid ∧ Adds c c' uid made ∧
      List.Forall₂ (fun (record : HistoryRecord) (made : Record) =>
          made.txt = host.fromLocal8Bit record.msg)
        (DataStream.readRecords frame.data.length frame.data).1 made := by
  have whole := (parseHeader_ok handled).1
  simp only [isHistory, Bool.and_eq_true, decide_eq_true_eq] at history
  obtain ⟨type, success⟩ := history
  have found : handlerOf frame.header.type = some .parseGetChatHistory := by
    rw [type]
    rfl
  rw [parseHeader_eq whole found] at handled
  have runs : (c.holding frame).parseGetChatHistory host = .ok c' := handled
  have code : (c.holding frame).receivedHeader.subType = 0x00 := success
  rw [parseGetChatHistory, if_pos code] at runs
  obtain ⟨⟨uid, middle⟩, popped, rest⟩ := Exec.of_bind_ok runs
  obtain ⟨front, same⟩ := popUid_eq.mp popped
  have queue := (fetchRecords_calm rest).queueUid
  have data : middle.receivedData = frame.data := by
    rw [same]
    rfl
  have records : middle.recordModel = c.recordModel := by
    rw [same]
    rfl
  have loop : fetchRecords host uid middle.receivedData.length
      middle.receivedData middle = .ok c' := rest
  rw [fetchRecords_eq, data] at loop
  obtain ⟨made, added, sames⟩ := takeRecords_adds loop
  refine ⟨uid, made, ?_, ?_, sames⟩
  · rw [queue]
    exact front
  · rw [Adds, records] at added
    exact added

theorem transfile_recordModel {now : Int} {handler : Handler}
    (kind : handler ∈ [Handler.parseFileRequest, .parseFileAccessRespond,
      .parseFilePartRequest, .parseFileSuccessRespond])
    (handled : handler.run host now c = .ok c') :
    c'.recordModel = c.recordModel := by
  have uids {rest : Buffer} {middle : TcpClient}
      (fetched : c.fetchUids = .ok (rest, middle)) :
      middle.recordModel = c.recordModel := by
    obtain ⟨_, _, made⟩ := Exec.of_bind_ok fetched
    cases made
    rfl
  cases handler with
  | parseFileRequest =>
      obtain ⟨_, _, rest⟩ := Exec.of_bind_ok handled
      obtain ⟨middle, fetched, rest⟩ := Exec.of_bind_ok rest
      obtain ⟨⟨_, first⟩, named, made⟩ := Exec.of_bind_ok fetched
      have same := uids named
      cases made
      cases rest
      exact same
  | parseFileAccessRespond =>
      obtain ⟨_, _, rest⟩ := Exec.of_bind_ok handled
      split at rest
      · obtain ⟨⟨_, first⟩, named, made⟩ := Exec.of_bind_ok rest
        have same := uids named
        cases made
        exact same
      · cases rest
        rfl
  | parseFilePartRequest =>
      obtain ⟨_, _, rest⟩ := Exec.of_bind_ok handled
      obtain ⟨middle, fetched, rest⟩ := Exec.of_bind_ok rest
      obtain ⟨_, _, counted⟩ := Exec.of_bind_ok rest
      obtain ⟨⟨_, first⟩, named, made⟩ := Exec.of_bind_ok fetched
      have wrote : middle.writePart.recordModel = middle.recordModel := by
        unfold writePart
        split <;> rfl
      have part : middle.recordModel = c.recordModel := by
        have same := uids named
        cases made
        exact same
      have same := wrote.trans part
      unfold countPart at counted
      dsimp only at counted
      split at counted
      · obtain ⟨_, _, made⟩ := Exec.of_bind_ok counted
        cases made
        exact same
      · cases counted
        exact same
  | parseFileSuccessRespond =>
      obtain ⟨_, _, rest⟩ := Exec.of_bind_ok handled
      obtain ⟨⟨_, first⟩, named, made⟩ := Exec.of_bind_ok rest
      have same := uids named
      cases made
      exact same
  | _ => simp at kind

theorem unshown_keeps {now : Int} {frame : Message}
    (handled : c.parseHeader host now frame = .ok c')
    (unshown : isShown frame = false) : c'.recordModel = c.recordModel := by
  simp only [isShown, Bool.or_eq_false_iff] at unshown
  obtain ⟨text, history⟩ := unshown
  obtain ⟨_, ⟨_, rfl⟩ | ⟨handler, found, ran⟩⟩ := parseHeader_ok handled
  · rfl
  · have type := handlerOf_type found
    have holding : (c.holding frame).recordModel = c.recordModel := rfl
    cases handler with
    | parseLoginInfos =>
        have asks {middle : TcpClient}
            (fetched : (c.holding frame).fetchConfigs = .ok middle) :
            middle.recordModel = c.recordModel :=
          (getChatHistory_asked fetched).2.1.recordModel
        simp only [Handler.run, parseLoginInfos] at ran
        split at ran
        case h_4 =>
          cases ran
          rfl
        all_goals exact asks ran
    | parseUserListState =>
        have asks {isOffline : Bool}
            (fetched : (c.holding frame).fetchUserStates isOffline = .ok c') :
            c'.recordModel = c.recordModel :=
          (fetchUserStates_asked fetched).2.1.recordModel
        simp only [Handler.run, parseUserListState] at ran
        split at ran
        case h_3 =>
          cases ran
          rfl
        all_goals exact asks ran
    | parseGetUserName =>
        simp only [Handler.run, parseGetUserName] at ran
        split at ran
        · obtain ⟨⟨uid, middle⟩, popped, rest⟩ := Exec.of_bind_ok ran
          have kept : middle.recordModel = c.recordModel := by
            rw [(popUid_eq.mp popped).2]
            rfl
          have named := (contactName_recordModel middle uid).trans kept
          cases rest
          exact named
        · cases ran
          rfl
    | parseGetChatHistory =>
        have failed : (c.holding frame).receivedHeader.subType ≠ 0x00 := by
          intro success
          have code : frame.header.subType = 0x00 := success
          simp only [List.mem_cons, Prod.mk.injEq, reduceCtorEq, and_false,
            and_true, List.not_mem_nil, or_false, false_or] at type
          simp [isHistory, type, code] at history
        simp only [Handler.run, parseGetChatHistory, if_neg failed] at ran
        cases ran
        rfl
    | parseReceiveMessageInfos =>
        simp only [List.mem_cons, Prod.mk.injEq, reduceCtorEq, and_false,
          and_true, List.not_mem_nil, or_false, false_or] at type
        simp only [isText, type, decide_true, Bool.true_and,
          Bool.or_eq_false_iff, decide_eq_false_iff_not] at text
        simp only [Handler.run, parseReceiveMessageInfos] at ran
        split at ran
        · exact absurd ‹_› text.1
        · exact absurd ‹_› text.2
        · cases ran
          rfl
    | parseLogoutInfos =>
        cases ran
        rfl
    | parseSendMessageInfos =>
        simp only [Handler.run, parseSendMessageInfos] at ran
        split at ran <;>
          cases ran <;> rfl
    | parseChangePasswordInfos =>
        simp only [Handler.run, parseChangePasswordInfos] at ran
        split at ran <;>
          cases ran <;> rfl
    | parseFileRequest | parseFileAccessRespond | parseFilePartRequest
    | parseFileSuccessRespond =>
        exact (transfile_recordModel (by decide) ran).trans holding

theorem sendWholeFrame_recordModel {recordModel : RecordModel}
    (same : c.recordModel = recordModel)
    (sent : c.sendWholeFrame = .ok c') : c'.recordModel = recordModel := by
  obtain ⟨_, _, rest⟩ := Exec.of_bind_ok sent
  obtain ⟨_, _, rest⟩ := Exec.of_bind_ok rest
  cases rest
  exact same

theorem sendParts_recordModel {cnt cnt' : UInt32} {reads : List Buffer}
    (completed : sendParts c cnt reads = .ok (cnt', c')) :
    c'.recordModel = c.recordModel := by
  induction reads generalizing c cnt with
  | nil =>
      unfold sendParts at completed
      split at completed <;>
        cases completed <;> rfl
  | cons part reads induction =>
      unfold sendParts at completed
      split at completed
      · dsimp only at completed
        split at completed
        · cases completed
          rfl
        · obtain ⟨middle, sent, rest⟩ := Exec.of_bind_ok completed
          apply (induction rest).trans
          refine sendWholeFrame_recordModel ?_ sent
          rfl
      · cases completed
        rfl

theorem calls_records {event : Event} (moved : c.next host event = .ok c')
    (going : event ≠ .connect2Host)
    (silent : ∀ txt now, event ≠ .sendMessage txt now)
    (user : ∀ now frame, event ≠ .frame now frame) :
    c'.recordModel.records = c.recordModel.records := by
  cases event with
  | connect2Host => exact absurd rfl going
  | sendMessage txt now => exact absurd rfl (silent txt now)
  | frame now frame => exact absurd rfl (user now frame)
  | connectionSuccess | setUid _ | closeConnection =>
      cases moved
      rfl
  | login name password =>
      obtain ⟨_, _, rfl⟩ := login_eq.mp moved
      rfl
  | changePassword oldPassword newPassword =>
      obtain ⟨_, _, rfl⟩ := changePassword_eq.mp moved
      rfl
  | sendFile source =>
      obtain ⟨⟨cnt, last⟩, framed, rest⟩ := Exec.of_bind_ok moved
      obtain ⟨_, _, made⟩ := Exec.of_bind_ok rest
      cases made
      obtain ⟨_, _, rest⟩ := Exec.of_bind_ok framed
      obtain ⟨composed, asked, rest⟩ := Exec.of_bind_ok rest
      obtain ⟨middle, sent, rest⟩ := Exec.of_bind_ok rest
      have first : composed.recordModel = c.recordModel := by
        obtain ⟨_, _, made⟩ := Exec.of_bind_ok asked
        cases made
        rfl
      exact congrArg RecordModel.records ((sendParts_recordModel rest).trans
        (sendWholeFrame_recordModel first sent))

end GroupChat.Client.TcpClient
