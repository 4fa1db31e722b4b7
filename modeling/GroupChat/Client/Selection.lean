import GroupChat.Client.Run

namespace GroupChat.Client

/-! The conversation that is selected, against the one that texts and files are
sent to. -/

open Server (Header Message sizeofHeader)

/-- `selected` is what `setUid` was called with last, and `asked` the user of
the last request that a frame led to since then. -/
structure Selection where
  client : TcpClient
  selected : Option Uid := none
  asked : Option Uid := none

namespace Selection

variable {host : Host} {s s' : Selection}

def start (host : Host) : Selection where
  client := TcpClient.start host

def next (host : Host) (s : Selection) (event : Event) :
    Exec Selection := do
  let client ← s.client.next host event
  match event with
  | .setUid uid => .ok ⟨client, some uid, none⟩
  | .frame _ frame => .ok { s with
      client := client
      asked := ((s.client.requests frame).getLast?.map Request.uid).or s.asked }
  | _ => .ok { s with client := client }

/-- The last request since the selection, if there was one, was about the
selected user. -/
def Undisturbed (s : Selection) (uid : Uid) : Prop :=
  ∀ other, s.asked = some other → other = uid

/-- The addressed user is the selected one or was asked about later. -/
def Addressed (s : Selection) : Prop :=
  ∀ uid, s.selected = some uid → s.client.toUid = s.asked.getD uid

end Selection

/-- The client's runs, with the selection. -/
def selecting (host : Host) : Machine Selection Event where
  initial := fun s => s = Selection.start host
  enabled := fun s => s.client.Enabled
  next := Selection.next host

instance (host : Host) (s : Selection) :
    DecidablePred ((selecting host).enabled s) :=
  inferInstanceAs (DecidablePred s.client.Enabled)

namespace TcpClient

variable {host : Host} {c c' : TcpClient}

theorem next_toUid {event : Event} (moved : c.next host event = .ok c') :
    c'.toUid = match event with
      | .setUid uid => uid
      | .frame _ frame =>
          ((c.requests frame).getLast?.map Request.uid).getD c.toUid
      | _ => c.toUid := by
  cases event with
  | connect2Host | connectionSuccess | setUid _ | closeConnection =>
      cases moved
      rfl
  | login name password =>
      obtain ⟨_, _, rfl⟩ := login_eq.mp moved
      rfl
  | sendMessage txt now =>
      obtain ⟨_, _, rfl⟩ := sendMessage_eq.mp moved
      rfl
  | changePassword oldPassword newPassword =>
      obtain ⟨_, _, rfl⟩ := changePassword_eq.mp moved
      rfl
  | sendFile source =>
      obtain ⟨⟨cnt, middle⟩, framed, rest⟩ := Exec.of_bind_ok moved
      obtain ⟨_, _, made⟩ := Exec.of_bind_ok rest
      cases made
      exact (sendFileFrames_sends framed).2.toUid
  | frame now frame => exact (parseHeader_reacts moved).toUid

theorem wordAt_wire (header : Header) (uid : Uid) (rest : Buffer) :
    (Message.mk header (Buffer.ofWord uid ++ rest)).wire.wordAt sizeofHeader =
      .ok uid := by
  have read := Buffer.wordAt_ofWord uid rest
  unfold Buffer.wordAt at read ⊢
  rw [Message.wire, sizeofHeader, List.drop_left' (Header.length_wire header)]
  exact read

end TcpClient

theorem addressed_invariant (host : Host) :
    (selecting host).Invariant Selection.Addressed where
  start := by
    intro s initial uid selected
    rw [initial] at selected
    cases selected
  kept := by
    intro before event after _ addressed _ moved uid selected
    obtain ⟨client, happened, rest⟩ := Exec.of_bind_ok moved
    have toUid := TcpClient.next_toUid happened
    cases event with
    | setUid other =>
        cases rest
        cases selected
        exact toUid
    | frame now frame =>
        cases rest
        have asked : client.toUid =
            ((before.client.requests frame).getLast?.map Request.uid).getD
              before.client.toUid := toUid
        rw [asked, addressed uid selected]
        cases (before.client.requests frame).getLast? with
        | none => rfl
        | some request => rfl
    | _ =>
        cases rest
        exact toUid.trans (addressed uid selected)

/-- Texts and files go to the selected conversation, and a text is recorded
there, exactly if no request about another user came in between. -/
theorem messages_selected_iff (host : Host) (s : Selection)
    (reached : (selecting host).Reachable s) (uid : Uid)
    (selected : s.selected = some uid) :
    (∀ txt now after, s.client.sendMessage host txt now = .ok after →
      (((∃ frame, after.sent = s.client.sent ++ [frame] ∧
          frame.wordAt sizeofHeader = .ok uid) ∧
        after.recordModel = s.client.recordModel.addRecord host uid true
          s.client.uname txt now) ↔ s.Undisturbed uid)) ∧
    ∀ source cnt after,
      s.client.sendFileFrames host source = .ok (cnt, after) →
      ((∃ frames, after.sent = s.client.sent ++ frames ∧
        ∀ frame ∈ frames, frame.wordAt sizeofHeader = .ok uid) ↔
          s.Undisturbed uid) := by
  have addressed := (addressed_invariant host).holds reached uid selected
  have same_iff : s.client.toUid = uid ↔ s.Undisturbed uid := by
    rw [addressed, Selection.Undisturbed]
    cases s.asked with
    | none => simp
    | some other => simp
  constructor
  · intro txt now after sent
    obtain ⟨_, _, rfl⟩ := TcpClient.sendMessage_eq.mp sent
    rw [← same_iff]
    have carries := TcpClient.wordAt_wire
      (TcpClient.textFrame host s.client.toUid txt).header s.client.toUid
      (host.toLocal8Bit txt)
    constructor
    · intro correct
      obtain ⟨⟨frame, grown, word⟩, _⟩ := correct
      have equal := List.append_cancel_left grown
      cases equal
      exact Except.ok.inj (carries.symm.trans word)
    · intro same
      subst same
      exact ⟨⟨_, rfl, carries⟩, rfl⟩
  · intro source cnt after sent
    obtain ⟨_, sends⟩ := TcpClient.sendFileFrames_sends sent
    rw [← same_iff, sends.sent]
    have requested := TcpClient.wordAt_wire ⟨0x17, 0x00, 80⟩ s.client.toUid
    have parted : ∀ part, (TcpClient.filePart s.client.toUid s.client.uid
        part).wire.wordAt sizeofHeader = .ok s.client.toUid := by
      intro part
      exact TcpClient.wordAt_wire _ _ _
    constructor
    · intro correct
      obtain ⟨frames, grown, words⟩ := correct
      have equal := List.append_cancel_left grown
      have first := words _ (by rw [← equal, List.map_cons]; exact .head _)
      exact Except.ok.inj ((requested _).symm.trans first)
    · intro same
      subst same
      refine ⟨_, rfl, ?_⟩
      intro frame member
      obtain ⟨msg, sent, rfl⟩ := List.mem_map.mp member
      rcases List.mem_cons.mp sent with rfl | part
      · exact requested _
      · obtain ⟨bytes, _, rfl⟩ := List.mem_map.mp part
        exact parted bytes

def welcomeFrame : Message :=
  .ofData 0x90 0x00 (Buffer.ofWord 1 ++ Buffer.ofWord 0)

/-- A user logs in and selects the conversation with user 2. -/
def selectsTwo : List Event :=
  [.connectionSuccess, .login (.ofText "a") (.ofText "a"),
    .frame 0 welcomeFrame, .setUid 2]

theorem messages_selected_two : ∃ s, (selecting Host.latin1).Reachable s ∧
    ∀ txt now after, s.client.sendMessage Host.latin1 txt now = .ok after →
      ((∃ frame, after.sent = s.client.sent ++ [frame] ∧
          frame.wordAt sizeofHeader = .ok 2) ∧
        after.recordModel = s.client.recordModel.addRecord Host.latin1 2 true
          s.client.uname txt now) := by
  have replayed : ((selecting Host.latin1).replay (.start Host.latin1)
      selectsTwo).any (fun s => decide (s.selected = some 2) &&
        decide (s.asked = none)) = true := by
    decide +kernel
  obtain ⟨s, reached, read⟩ := Machine.Reachable.of_replay replayed rfl
  simp only [Bool.and_eq_true, decide_eq_true_eq] at read
  refine ⟨s, reached, fun txt now after sent => ?_⟩
  apply ((messages_selected_iff Host.latin1 s reached 2 read.1).1 txt now
    after sent).mpr
  intro other asked
  rw [read.2] at asked
  cases asked

/-- User 3 comes online between the selection and the text. -/
theorem message_to_newcomer : ∃ s after frame,
    (selecting Host.latin1).Reachable s ∧ s.selected = some 2 ∧
    s.client.sendMessage Host.latin1 (.ofText "hi") 0 = .ok after ∧
    after.sent = s.client.sent ++ [frame] ∧
    frame.wordAt sizeofHeader = .ok 3 := by
  have replayed : ((selecting Host.latin1).replay (.start Host.latin1)
      (selectsTwo ++ [.frame 0 (.ofData 0xA1 0x00 (Buffer.ofWord 3))])).any
      (fun s => decide (s.selected = some 2) && s.client.isOpen &&
        decide (s.client.toUid = 3)) = true := by
    decide +kernel
  obtain ⟨s, reached, read⟩ := Machine.Reachable.of_replay replayed rfl
  simp only [Bool.and_eq_true, decide_eq_true_eq] at read
  obtain ⟨⟨selected, opened⟩, moved⟩ := read
  have short : 8 + (Host.latin1.toLocal8Bit (.ofText "hi")).length < 65536 := by
    decide
  have sent := (@TcpClient.sendMessage_eq Host.latin1 s.client _ (.ofText "hi")
    0).mpr ⟨short, opened, rfl⟩
  refine ⟨s, _, _, reached, selected, sent, rfl, ?_⟩
  exact (TcpClient.wordAt_wire _ _ _).trans (congrArg Except.ok moved)

end GroupChat.Client
