import GroupChat.Client.Run
import GroupChat.Server.Replies

namespace GroupChat.Client

/-! The frames a client sends, in the order it sends them. -/

open Server (Header Message sizeofHeader isRequest isAnswer Answers)

def userTypes : List UInt8 := [0x10, 0x13, 0x15, 0x17, 0x19]

theorem Request.frame_framed (request : Request) : request.frame.Framed := by
  have size (uid : Uid) :
      sizeofHeader + (Buffer.ofWord uid).length < 65536 := by
    rw [Buffer.length_ofWord]
    decide
  cases request <;>
    exact Message.ofData_framed (List.cons_ne_nil _ _) (size _)

theorem Request.isRequest_frame (request : Request) :
    isRequest request.frame = true := by
  cases request <;> rfl

theorem Request.readWord_frame (request : Request) :
    (DataStream.readWord request.frame.data).1 = request.uid := by
  have read (uid : Uid) :
      (DataStream.readWord (Buffer.ofWord uid)).1 = uid := by
    have whole := DataStream.readWord_ofWord uid []
    rw [List.append_nil] at whole
    rw [whole]
  cases request with
  | name uid => exact read uid
  | history uid => exact read uid

theorem userTypes_plain {frame : Message}
    (user : frame.header.type ∈ userTypes) :
    isRequest frame = false ∧
      ∀ msg, Answers frame msg → isAnswer msg = false := by
  simp only [userTypes, List.mem_cons, List.not_mem_nil, or_false] at user
  have other {type : UInt8} (same : frame.header.type = type)
      (unasked : type ≠ 0x11 ∧ type ≠ 0x12)
      (unlike : type ||| 0x80 ≠ 0x91 ∧ type ||| 0x80 ≠ 0x92) :
      isRequest frame = false ∧
        ∀ msg, Answers frame msg → isAnswer msg = false := by
    refine ⟨by simp [isRequest, same, unasked], ?_⟩
    intro msg answers
    rw [Answers, same] at answers
    simp [isAnswer, answers, unlike]
  rcases user with same | same | same | same | same <;>
    exact other same (by decide) (by decide)

namespace TcpClient

variable {host : Host} {c c' : TcpClient}

/-- A call of the user sends these frames and asks for nothing. -/
structure Calls (c c' : TcpClient) (frames : List Message) : Prop where
  sent : c'.sent = c.sent ++ frames.map Message.wire
  queueUid : c'.queueUid = c.queueUid
  isOpen : c'.isOpen = true → c.isOpen = true
  framed : ∀ frame ∈ frames,
    frame.Framed ∧ frame.header.type ∈ userTypes

theorem Calls.none {c c' : TcpClient} (sent : c'.sent = c.sent)
    (queueUid : c'.queueUid = c.queueUid)
    (isOpen : c'.isOpen = true → c.isOpen = true) : Calls c c' [] :=
  ⟨by rw [sent, List.map_nil, List.append_nil], queueUid, isOpen, by simp⟩

theorem ofWord_append_ne_nil (word : UInt32) (rest : Buffer) :
    Buffer.ofWord word ++ rest ≠ [] := by
  intro none
  have size := congrArg List.length none
  simp at size

theorem credentials_framed {type : UInt8} {data : Buffer}
    (size : data.length = 56) (kind : type ∈ userTypes) :
    (Message.mk ⟨type, 0x00, 60⟩ data).Framed ∧ type ∈ userTypes := by
  refine ⟨⟨?_, ?_⟩, kind⟩
  · change (60 : UInt16).toNat = sizeofHeader + data.length
    rw [size]
    rfl
  · intro none
    change data = [] at none
    rw [none] at size
    cases size

theorem next_calls {event : Event} (moved : c.next host event = .ok c')
    (going : event ≠ .connect2Host ∧ event ≠ .connectionSuccess)
    (user : ∀ now frame, event ≠ .frame now frame) :
    ∃ frames, Calls c c' frames := by
  cases event with
  | connect2Host => exact absurd rfl going.1
  | connectionSuccess => exact absurd rfl going.2
  | setUid uid =>
      cases moved
      exact ⟨[], .none rfl rfl id⟩
  | closeConnection =>
      cases moved
      exact ⟨[], .none rfl rfl fun impossible => nomatch impossible⟩
  | login name password =>
      obtain ⟨size, opened, rfl⟩ := login_eq.mp moved
      refine ⟨[_], rfl, rfl, fun _ => opened, ?_⟩
      intro frame member
      rw [List.mem_singleton.mp member]
      exact credentials_framed size (by decide)
  | changePassword oldPassword newPassword =>
      obtain ⟨size, opened, rfl⟩ := changePassword_eq.mp moved
      refine ⟨[_], rfl, rfl, fun _ => opened, ?_⟩
      intro frame member
      rw [List.mem_singleton.mp member]
      exact credentials_framed size (by decide)
  | sendMessage txt now =>
      obtain ⟨short, opened, rfl⟩ := sendMessage_eq.mp moved
      refine ⟨[textFrame host c.toUid txt], rfl, rfl, fun _ => opened, ?_⟩
      intro frame member
      rw [List.mem_singleton.mp member]
      refine ⟨⟨?_, ofWord_append_ne_nil _ _⟩, ?_⟩
      · simp only [textFrame, List.length_append, Buffer.length_ofWord,
          sizeofHeader, UInt16.toNat_ofNat']
        omega
      · change (0x13 : UInt8) ∈ userTypes
        decide
  | sendFile source =>
      obtain ⟨⟨cnt, middle⟩, framed, rest⟩ := Exec.of_bind_ok moved
      obtain ⟨_, _, made⟩ := Exec.of_bind_ok rest
      cases made
      obtain ⟨_, sends⟩ := sendFileFrames_sends framed
      refine ⟨_, sends.sent, sends.queueUid,
        fun opened => sends.isOpen.symm.trans opened, ?_⟩
      intro frame member
      have announced := sends.framed frame member
      cases List.mem_cons.mp member with
      | inl first =>
          subst first
          refine ⟨⟨announced, ofWord_append_ne_nil _ _⟩, ?_⟩
          change (0x17 : UInt8) ∈ userTypes
          decide
      | inr later =>
          obtain ⟨part, _, rfl⟩ := List.mem_map.mp later
          refine ⟨⟨announced, ofWord_append_ne_nil _ _⟩, ?_⟩
          change (0x19 : UInt8) ∈ userTypes
          decide
  | frame now frame => exact absurd rfl (user now frame)

theorem requests_of_isAnswer {frame : Message}
    (answer : isAnswer frame = true) : c.requests frame = [] := by
  simp only [isAnswer, Bool.or_eq_true, decide_eq_true_eq] at answer
  unfold requests
  cases answer with
  | inl name =>
      rw [name]
      rfl
  | inr history =>
      rw [history]
      rfl

theorem refused_closes {now : Int} {frame : Message}
    (handled : c.parseHeader host now frame = .ok c')
    (answer : isAnswer frame = true) (refused : isReply frame = false) :
    c'.isOpen = false := by
  have failed : frame.header.subType ≠ 0x00 := by
    intro success
    have whole : isReply frame = true := by
      simpa [isReply, isAnswer, success] using answer
    rw [whole] at refused
    cases refused
  have whole := (parseHeader_ok handled).1
  simp only [isAnswer, Bool.or_eq_true, decide_eq_true_eq] at answer
  cases answer with
  | inl name =>
      have found : handlerOf frame.header.type = some .parseGetUserName := by
        rw [name]
        rfl
      rw [parseHeader_eq whole found] at handled
      have closes : (c.holding frame).parseGetUserName host =
          .ok (c.holding frame).closeConnection := if_neg failed
      cases Except.ok.inj (closes.symm.trans handled)
      rfl
  | inr history =>
      have found : handlerOf frame.header.type =
          some .parseGetChatHistory := by
        rw [history]
        rfl
      rw [parseHeader_eq whole found] at handled
      have closes : (c.holding frame).parseGetChatHistory host =
          .ok (c.holding frame).closeConnection := if_neg failed
      cases Except.ok.inj (closes.symm.trans handled)
      rfl

end TcpClient

end GroupChat.Client
