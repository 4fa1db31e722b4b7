import GroupChat.Client.Run
import GroupChat.Server.Handled

namespace GroupChat.System

/-! What the user may enter, against what the protocol holds. -/

open Client
open Server hiding Uid

variable {ω : Type} {env : Env ω} {host : Host}

/-- What the user enters for a frame. -/
inductive Entry where
  | login (name password : QString)
  | changePassword (oldPassword newPassword : QString)
  | message (txt : QString)
  | file (filename : QString)

namespace Entry

/-- What the fields of the user interface admit. -/
def Admitted : Entry → Prop
  | .login name password => name.length ≤ 28 ∧ password.length ≤ 28
  | .changePassword oldPassword newPassword =>
      oldPassword.length ≤ 28 ∧ newPassword.length ≤ 28
  | .message txt => 1 ≤ txt.length ∧ txt.length ≤ 1000
  | .file filename => filename ≠ []

instance (entry : Entry) : Decidable entry.Admitted :=
  match entry with
  | .login _ _ | .changePassword _ _ | .message _ =>
      inferInstanceAs (Decidable (_ ∧ _))
  | .file _ => inferInstanceAs (Decidable (_ ≠ _))

def compose (host : Host) (c : TcpClient) : Entry → Exec TcpClient
  | .login name password =>
      .ok (((c.setName name).setPassword password).composeLogin host)
  | .changePassword oldPassword newPassword =>
      .ok (((c.setPassword newPassword).setOldPassword
        oldPassword).composeChangePassword host)
  | .message txt => .ok ((c.setToMessage txt).composeSendMessage host)
  | .file filename => (c.setToFilename filename).composeFileRequest host

end Entry

/-- The lengths that the handlers of these types accept. -/
def lengthFits (type : UInt8) (length : Nat) : Bool :=
  match type with
  | 0x10 => length = sizeofHeader + 56
  | 0x13 => length ≤ sizeofHeader + 4 + 1024
  | 0x15 => length = sizeofHeader + 56
  | 0x17 => length = sizeofHeader + 76
  | _ => true

theorem parse_unfit {s : Connections ω} {fd : Fd} {type : UInt8}
    (kind : (s.frame fd).header.type = type)
    (unfit : lengthFits type (s.frame fd).header.length.toNat = false) :
    s.parse env fd = .ok (s.parseUnknown fd) := by
  unfold lengthFits at unfit
  split at unfit
  · have other := of_decide_eq_false unfit
    simp only [Connections.parse, kind]
    exact if_pos (.inr other)
  · have longer := Nat.not_le.mp (of_decide_eq_false unfit)
    simp only [Connections.parse, kind]
    exact if_pos (.inr longer)
  · have other := of_decide_eq_false unfit
    simp only [Connections.parse, kind]
    exact if_pos (.inr other)
  · have other := of_decide_eq_false unfit
    simp only [Connections.parse, kind]
    exact if_pos other
  · cases unfit

namespace Entry

/-- The frame is composed, is as long as its header tells, and has a length that
the server accepts. -/
def Carried (host : Host) (c : TcpClient) (entry : Entry) : Prop :=
  ∃ composed, entry.compose host c = .ok composed ∧
    composed.sendMsg.length = composed.sendHeader.length.toNat ∧
    lengthFits composed.sendHeader.type
      composed.sendHeader.length.toNat = true

/-- The encoded entry is as long as its field, or not longer. -/
def Fits (host : Host) : Entry → Prop
  | .login name password =>
      (host.toLocal8Bit name).length + (host.toLocal8Bit password).length =
        name.length + password.length
  | .changePassword oldPassword newPassword =>
      (host.toLocal8Bit oldPassword).length +
          (host.toLocal8Bit newPassword).length =
        oldPassword.length + newPassword.length
  | .message txt => (host.toLocal8Bit txt).length ≤ 1024
  | .file filename => (host.toLocal8Bit filename).length ≤ 64

instance (host : Host) (entry : Entry) : Decidable (entry.Fits host) :=
  match entry with
  | .login _ _ | .changePassword _ _ => inferInstanceAs (Decidable (_ = _))
  | .message _ | .file _ => inferInstanceAs (Decidable (_ ≤ _))

end Entry

theorem length_sendMsg (c : TcpClient) (header : Header) (body : Buffer) :
    (c.compose header body).sendMsg.length = sizeofHeader + body.length := by
  rw [TcpClient.compose_eq, Message.wire, List.length_append,
    Header.length_wire]
  rfl

/-- NUL characters are encoded as zero bytes. -/
def EncodesNul (host : Host) : Prop :=
  ∀ (text : QString) (count : Nat),
    host.toLocal8Bit (text ++ List.replicate count 0) =
      host.toLocal8Bit text ++ List.replicate count 0

theorem length_resized (padding : EncodesNul host) {text : QString}
    (short : text.length ≤ 28) :
    (host.toLocal8Bit (text.resize 28)).length =
      (host.toLocal8Bit text).length + (28 - text.length) := by
  rw [QString.resize, List.take_of_length_le short, padding,
    List.length_append, List.length_replicate]

theorem fields_carried (padding : EncodesNul host) (c : TcpClient)
    {type : UInt8} (kind : type = 0x10 ∨ type = 0x15) {first second : QString}
    (short : first.length ≤ 28) (short' : second.length ≤ 28) :
    ((c.compose ⟨type, 0x00, 60⟩ (host.toLocal8Bit (first.resize 28) ++
          host.toLocal8Bit (second.resize 28))).sendMsg.length = 60 ∧
        lengthFits type 60 = true) ↔
      (host.toLocal8Bit first).length + (host.toLocal8Bit second).length =
        first.length + second.length := by
  have fits : lengthFits type 60 = true := by
    rcases kind with rfl | rfl <;> rfl
  rw [length_sendMsg, List.length_append, length_resized padding short,
    length_resized padding short', sizeofHeader]
  constructor
  · intro carried
    omega
  · intro lengths
    exact ⟨by omega, fits⟩

theorem Entry.message_carried (host : Host) (c : TcpClient) (txt : QString) :
    (Entry.message txt).Carried host c ↔ (Entry.message txt).Fits host := by
  have length := length_sendMsg (c.setToMessage txt)
    (TcpClient.textFrame host c.toUid txt).header
    (TcpClient.textFrame host c.toUid txt).data
  have data : (TcpClient.textFrame host c.toUid txt).data.length =
      4 + (host.toLocal8Bit txt).length := by
    rw [TcpClient.textFrame, List.length_append, Buffer.length_ofWord]
  have announced :
      (TcpClient.textFrame host c.toUid txt).header.length.toNat =
        (8 + (host.toLocal8Bit txt).length) % 2 ^ 16 := UInt16.toNat_ofNat'
  rw [data, sizeofHeader] at length
  constructor
  · intro carried
    obtain ⟨_, composed, whole, fits⟩ := carried
    cases composed
    have same := length.symm.trans (whole.trans announced)
    have short : (8 + (host.toLocal8Bit txt).length) % 2 ^ 16 ≤ 1032 :=
      announced ▸ of_decide_eq_true fits
    rw [Entry.Fits]
    omega
  · intro fits
    rw [Entry.Fits] at fits
    refine ⟨_, rfl, length.trans ?_, decide_eq_true ?_⟩
    · exact Eq.trans (by omega) announced.symm
    · exact announced.trans_le (by rw [sizeofHeader]; omega)

theorem Entry.file_carried (host : Host) (c : TcpClient) {filename : QString}
    (named : filename ≠ []) :
    (Entry.file filename).Carried host c ↔ (Entry.file filename).Fits host := by
  have composes := @TcpClient.composeFileRequest_eq host
    (c.setToFilename filename) named
  have length := length_sendMsg (c.setToFilename filename)
    (TcpClient.fileRequest host c.toUid c.uid c.toFilesize filename).header
    (TcpClient.fileRequest host c.toUid c.uid c.toFilesize filename).data
  have data :
      (TcpClient.fileRequest host c.toUid c.uid c.toFilesize
        filename).data.length =
      12 + ((host.toLocal8Bit filename).length +
        (64 - (host.toLocal8Bit filename).length)) := by
    simp only [TcpClient.fileRequest, TcpClient.fileFrame,
      TcpClient.nameField, List.length_append, Buffer.length_ofWord,
      List.length_replicate]
    omega
  rw [data, sizeofHeader] at length
  constructor
  · intro carried
    obtain ⟨_, composed, whole, _⟩ := carried
    cases composes.symm.trans composed
    have same := length.symm.trans whole
    have announced : (TcpClient.fileRequest host c.toUid c.uid c.toFilesize
        filename).header.length.toNat = 80 := rfl
    rw [Entry.Fits]
    have all := same.trans announced
    omega
  · intro fits
    rw [Entry.Fits] at fits
    exact ⟨_, composes, length.trans (by change _ = 80; omega), rfl⟩

/-- What the user interface admits is carried exactly if its encoding fits. -/
theorem admitted_carried_iff (host : Host) (padding : EncodesNul host)
    (c : TcpClient) (entry : Entry) (admitted : entry.Admitted) :
    entry.Carried host c ↔ entry.Fits host := by
  cases entry with
  | login name password =>
      obtain ⟨short, short'⟩ := admitted
      rw [Entry.Fits, ← fields_carried padding c (.inl rfl) short short']
      constructor
      · intro carried
        obtain ⟨_, composed, length, fits⟩ := carried
        cases composed
        exact ⟨length, fits⟩
      · intro carried
        exact ⟨_, rfl, carried⟩
  | changePassword oldPassword newPassword =>
      obtain ⟨short, short'⟩ := admitted
      rw [Entry.Fits, ← fields_carried padding c (.inr rfl) short short']
      constructor
      · intro carried
        obtain ⟨_, composed, length, fits⟩ := carried
        cases composed
        exact ⟨length, fits⟩
      · intro carried
        exact ⟨_, rfl, carried⟩
  | message txt => exact Entry.message_carried host c txt
  | file filename => exact Entry.file_carried host c admitted

/-- The bytes of a character in UTF-8, up to three of them. -/
def utf8Bytes (unit : UInt16) : Buffer :=
  let last := UInt8.ofNat (0x80 + unit.toNat % 64)
  if unit.toNat < 0x80 then
    [UInt8.ofNat unit.toNat]
  else if unit.toNat < 0x800 then
    [UInt8.ofNat (0xC0 + unit.toNat / 64), last]
  else
    [UInt8.ofNat (0xE0 + unit.toNat / 4096),
      UInt8.ofNat (0x80 + unit.toNat / 64 % 64), last]

/-- A host whose local encoding is UTF-8. -/
def utf8 : Host :=
  { Host.latin1 with toLocal8Bit := fun text => text.flatMap utf8Bytes }

theorem utf8_encodesNul : EncodesNul utf8 := by
  intro text count
  have zeros : (List.replicate count (0 : UInt16)).flatMap utf8Bytes =
      List.replicate count 0 := by
    induction count with
    | zero => rfl
    | succ count induction =>
        rw [List.replicate_succ, List.flatMap_cons, induction]
        rfl
  exact List.flatMap_append.trans (congrArg (_ ++ ·) zeros)

theorem admitted_carried_ascii :
    (Entry.login (.ofText "bob") (.ofText "pw")).Carried utf8 {} :=
  (admitted_carried_iff utf8 utf8_encodesNul {} _ (by decide)).mpr (by decide)

def thousand : QString := List.replicate 1000 0x674E

/-- A name of one character is too long for its field, and a text of a thousand
characters is refused. -/
theorem admitted_too_long :
    (Entry.login [0x674E] []).Admitted ∧
      ¬ (Entry.login [0x674E] []).Carried utf8 {} ∧
    (Entry.message thousand).Admitted ∧
      ¬ (Entry.message thousand).Carried utf8 {} ∧
    ∀ {ω : Type} (env : Env ω) (s : Connections ω) (fd : Fd),
      s.frame fd = TcpClient.textFrame utf8 uidForAll thousand →
      s.parse env fd = .ok (s.parseUnknown fd) := by
  have unfit : lengthFits 0x13 (TcpClient.textFrame utf8 uidForAll
      thousand).header.length.toNat = false := by
    decide +kernel
  refine ⟨by decide, ?_, by decide +kernel, ?_, ?_⟩
  · intro carried
    obtain ⟨_, composed, whole, _⟩ := carried
    cases composed
    exact absurd whole (by decide +kernel)
  · rw [Entry.message_carried]
    decide +kernel
  · intro ω env s fd arrived
    have kind : (s.frame fd).header.type = 0x13 := by
      rw [arrived]
      rfl
    apply parse_unfit kind
    rw [arrived]
    exact unfit

end GroupChat.System
