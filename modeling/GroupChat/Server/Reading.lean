import GroupChat.Lib.Traced
import GroupChat.Server.Login

namespace GroupChat.Server

/-! The handlers with a record of what they read of the payload. -/

variable {ω : Type} {env : Env ω}

namespace Connections

open Traced (lift)

def readField (data : Buffer) (offset width : Nat) : Traced Buffer :=
  ⟨[.read offset width], .ok (fixedField data offset width)⟩

/-- The text behind the id, of the length that is left of the payload. -/
def readText (data : Buffer) : Traced Buffer :=
  ⟨[.subtract data.length 4, .read 4 (sizeSub data.length 4)],
    .ok (data.drop 4)⟩

def tracedLogin (env : Env ω) (s : Connections ω) (fd : Fd) :
    Traced (Connections ω) :=
  let header := (s.frame fd).header
  if header.subType ≠ 0x00 ∨ header.length.toNat ≠ sizeofHeader + 56 then
    lift (.ok (s.parseUnknown fd))
  else do
    let data := (s.frame fd).data
    lift (Exec.require (data.length = 56) .assertion)
    let username ← readField data 0 28
    let password ← readField data 28 28
    lift do
      let checked ←
        Database.loginCheck env s.db username password false true 0
      let s := { s with db := checked.world }
      if checked.ret < 0 then
        .ok (s.parseUnknown fd)
      else
        loginChecked env (s.noteLogin fd checked.legal checked.uid) fd
          checked.legal checked.first checked.uid

def tracedUsername (env : Env ω) (s : Connections ω) (fd : Fd) :
    Traced (Connections ω) :=
  let header := (s.frame fd).header
  if header.subType ≠ 0x00 ∨ header.length.toNat ≠ sizeofHeader + 4 then
    lift (.ok (s.parseUnknown fd))
  else do
    let data := (s.frame fd).data
    lift (Exec.require (data.length = 4) .assertion)
    let uid ← data.readWord 0
    lift do
      let checked ← Database.checkUid env s.db (toSigned uid) false []
      let s := { s with db := checked.world }
      if checked.ret < 0 then
        .ok (s.parseUnknown fd)
      else if checked.exist then
        .ok (s.push fd (usernameMsg checked.username))
      else
        .ok (s.push fd (absentMsg 0x91))

def tracedChatrecord (env : Env ω) (s : Connections ω) (fd : Fd) :
    Traced (Connections ω) :=
  let header := (s.frame fd).header
  let isPrivate := header.subType = 0x00
  let isPublic := header.subType = 0x01
  if (¬ isPrivate ∧ ¬ isPublic) ∨
      header.length.toNat ≠ sizeofHeader + 4 then
    lift (.ok (s.parseUnknown fd))
  else do
    let data := (s.frame fd).data
    lift (Exec.require (data.length = 4) .assertion)
    let uid ← data.readWord 0
    lift do
      let myUid ← s.myUid fd
      let checked ← partyExists env s.db isPrivate uid true true
      let s := { s with db := checked.world }
      if checked.ret < 0 then
        .ok (s.parseUnknown fd)
      else if checked.exist then do
        let found ←
          Database.serhMessage env s.db (toSigned myUid) (toSigned uid)
        let s := { s with db := found.world }
        if found.ret < 0 then
          .ok (s.parseUnknown fd)
        else
          .ok (s.push fd (recordsMsg found.records))
      else
        .ok (s.push fd (absentMsg 0x92))

def tracedTextmsg (env : Env ω) (s : Connections ω) (fd : Fd) :
    Traced (Connections ω) :=
  let header := (s.frame fd).header
  let isPrivate := header.subType = 0x00
  let isPublic := header.subType = 0x01
  if (¬ isPrivate ∧ ¬ isPublic) ∨
      sizeofHeader + 4 + 1024 < header.length.toNat then
    lift (.ok (s.parseUnknown fd))
  else do
    let data := (s.frame fd).data
    lift (Exec.require (sizeofHeader + data.length = header.length.toNat)
      .assertion)
    let dstUid ← data.readWord 0
    let myUid ← lift (s.myUid fd)
    let checked ←
      lift (partyExists env s.db isPrivate dstUid false (dstUid = 0xFFFF))
    let s := { s with db := checked.world }
    if checked.ret < 0 then
      lift (.ok (s.parseUnknown fd))
    else do
      let online :=
        if isPrivate then (s.uidToFd.lookup dstUid).isSome else true
      let txt ← readText data
      lift (
        let (ret, db) := Database.saveMessage env s.db (toSigned myUid)
          (toSigned dstUid) txt
        let s := { s with db := db }
        if ret < 0 then
          .ok (s.parseUnknown fd)
        else
          let s := s.push fd (textAnswer checked.exist online)
          if online then s.pushTextmsg myUid dstUid (s.frame fd) else .ok s)

def tracedChangePwd (env : Env ω) (s : Connections ω) (fd : Fd) :
    Traced (Connections ω) :=
  let header := (s.frame fd).header
  if header.subType ≠ 0x00 ∨ header.length.toNat ≠ sizeofHeader + 56 then
    lift (.ok (s.parseUnknown fd))
  else do
    let myUid ← lift (s.myUid fd)
    let data := (s.frame fd).data
    lift (Exec.require (data.length = 56) .assertion)
    let oldPwd ← readField data 0 28
    let newPwd ← readField data 28 28
    lift do
      let (ret, db) ←
        Database.updatePasswd env s.db (toSigned myUid) newPwd oldPwd
      .ok ({ s with db := db }.push fd (changePwdMsg (ret = 0)))

def tracedTransfileAskRc (env : Env ω) (s : Connections ω) (fd : Fd) :
    Traced (Connections ω) :=
  let header := (s.frame fd).header
  if header.length.toNat ≠ sizeofHeader + 76 then
    lift (.ok (s.parseUnknown fd))
  else do
    let data := (s.frame fd).data
    lift (Exec.require (data.length = 76) .assertion)
    let dstUid ← data.readWord 0
    let myUid ← lift (s.myUid fd)
    let filesize ← data.readWord 8
    let filename ← readField data 12 64
    lift (
      let (_, db) := Database.insertFileRecord env s.db (toSigned myUid)
        (toSigned dstUid) (toSigned filesize) filename
      { s with db := db }.pushTransfileAskRc dstUid (s.frame fd))

def tracedTransfileRepSc (env : Env ω) (s : Connections ω) (fd : Fd) :
    Traced (Connections ω) :=
  let header := (s.frame fd).header
  if header.length.toNat ≠ sizeofHeader + 8 then
    lift (.ok (s.parseUnknown fd))
  else do
    let data := (s.frame fd).data
    lift (Exec.require (data.length = 8) .assertion)
    let dstUid ← data.readWord 0
    lift do
      let myUid ← s.myUid fd
      let (_, db) :=
        if header.subType = 0x01 then
          Database.permitFileRecord env s.db (toSigned dstUid) (toSigned myUid)
        else
          Database.deleteFileRecord env s.db (toSigned dstUid) (toSigned myUid)
      { s with db := db }.pushTransfileRepSc dstUid (s.frame fd)

def tracedTransfileData (s : Connections ω) (fd : Fd) :
    Traced (Connections ω) :=
  let header := (s.frame fd).header
  let data := (s.frame fd).data
  if header.length.toNat ≠ sizeofHeader + data.length then
    lift (.ok (s.parseUnknown fd))
  else do
    let dstUid ← data.readWord 0
    lift do
      let _ ← s.myUid fd
      s.pushTransfileData dstUid (s.frame fd)

def tracedTransfileAck (env : Env ω) (s : Connections ω) (fd : Fd) :
    Traced (Connections ω) :=
  let header := (s.frame fd).header
  if header.length.toNat ≠ sizeofHeader + 12 then
    lift (.ok (s.parseUnknown fd))
  else do
    let data := (s.frame fd).data
    lift (Exec.require (data.length = 12) .assertion)
    let dstUid ← data.readWord 0
    let myUid ← lift (s.myUid fd)
    let ui8cnt ← data.readWord 8
    lift (
      let (_, db) := Database.updateFileRecord env s.db (toSigned dstUid)
        (toSigned myUid) (toSigned ui8cnt)
      { s with db := db }.pushTransfileData dstUid (s.frame fd))

def traced (env : Env ω) (s : Connections ω) (fd : Fd) :
    Traced (Connections ω) :=
  match (s.frame fd).header.type with
  | 0x10 => s.tracedLogin env fd
  | 0x11 => s.tracedUsername env fd
  | 0x12 => s.tracedChatrecord env fd
  | 0x13 => s.tracedTextmsg env fd
  | 0x15 => s.tracedChangePwd env fd
  | 0x17 => s.tracedTransfileAskRc env fd
  | 0x18 => s.tracedTransfileRepSc env fd
  | 0x19 => s.tracedTransfileData fd
  | 0x1A => s.tracedTransfileAck env fd
  | _ => lift (.ok (s.parseUnknown fd))

/-! Without the record it is what `parse` does. -/

theorem run_tracedLogin (env : Env ω) (s : Connections ω) (fd : Fd) :
    (s.tracedLogin env fd).run = s.parseLogin env fd := by
  unfold tracedLogin parseLogin
  dsimp only
  split <;> rfl

theorem run_tracedUsername (env : Env ω) (s : Connections ω) (fd : Fd) :
    (s.tracedUsername env fd).run = s.parseUsername env fd := by
  unfold tracedUsername parseUsername
  dsimp only
  split <;> rfl

theorem run_tracedChatrecord (env : Env ω) (s : Connections ω) (fd : Fd) :
    (s.tracedChatrecord env fd).run = s.parseChatrecord env fd := by
  unfold tracedChatrecord parseChatrecord
  dsimp only
  split <;> rfl

theorem run_tracedTextmsg (env : Env ω) (s : Connections ω) (fd : Fd) :
    (s.tracedTextmsg env fd).run = s.parseTextmsg env fd := by
  unfold tracedTextmsg parseTextmsg
  dsimp only
  split
  · rfl
  · simp only [Traced.run_bind, Traced.run_lift, Traced.run_ite]
    rfl

theorem run_tracedChangePwd (env : Env ω) (s : Connections ω) (fd : Fd) :
    (s.tracedChangePwd env fd).run = s.parseChangePwd env fd := by
  unfold tracedChangePwd parseChangePwd
  dsimp only
  split <;> rfl

theorem run_tracedTransfileAskRc (env : Env ω) (s : Connections ω) (fd : Fd) :
    (s.tracedTransfileAskRc env fd).run = s.parseTransfileAskRc env fd := by
  unfold tracedTransfileAskRc parseTransfileAskRc
  dsimp only
  split <;> rfl

theorem run_tracedTransfileRepSc (env : Env ω) (s : Connections ω) (fd : Fd) :
    (s.tracedTransfileRepSc env fd).run = s.parseTransfileRepSc env fd := by
  unfold tracedTransfileRepSc parseTransfileRepSc
  dsimp only
  split <;> rfl

theorem run_tracedTransfileData (s : Connections ω) (fd : Fd) :
    (s.tracedTransfileData fd).run = s.parseTransfileData fd := by
  unfold tracedTransfileData parseTransfileData
  dsimp only
  split <;> rfl

theorem run_tracedTransfileAck (env : Env ω) (s : Connections ω) (fd : Fd) :
    (s.tracedTransfileAck env fd).run = s.parseTransfileAck env fd := by
  unfold tracedTransfileAck parseTransfileAck
  dsimp only
  split <;> rfl

theorem run_traced (env : Env ω) (s : Connections ω) (fd : Fd) :
    (s.traced env fd).run = s.parse env fd := by
  unfold traced
  split <;> rename_i type
  · rw [parse, type]
    exact run_tracedLogin env s fd
  · rw [parse, type]
    exact run_tracedUsername env s fd
  · rw [parse, type]
    exact run_tracedChatrecord env s fd
  · rw [parse, type]
    exact run_tracedTextmsg env s fd
  · rw [parse, type]
    exact run_tracedChangePwd env s fd
  · rw [parse, type]
    exact run_tracedTransfileAskRc env s fd
  · rw [parse, type]
    exact run_tracedTransfileRepSc env s fd
  · rw [parse, type]
    exact run_tracedTransfileData s fd
  · rw [parse, type]
    exact run_tracedTransfileAck env s fd
  · unfold parse
    split
    case h_10 => rfl
    all_goals contradiction

/-! What the handlers read is there, where the payload is long enough. -/

variable {s : Connections ω} {fd : Fd}

@[simp] theorem stays_readField {data : Buffer} {offset width : Nat} :
    (readField data offset width).Stays data ↔
      offset + width ≤ data.length := by
  simp [Traced.Stays, readField, Access.Inside]

theorem stays_readText {data : Buffer} (some : 4 ≤ data.length)
    (small : data.length < 18446744073709551616) :
    (readText data).Stays data := by
  have rest : 4 + sizeSub data.length 4 = data.length := by
    rw [sizeSub_of_le some small]
    omega
  simp [Traced.Stays, readText, Access.Inside, rest, some]

theorem stays_required {α : Type} {data : Buffer} {size : Nat}
    {next : Unit → Traced α}
    (inside : data.length = size → (next ()).Stays data) :
    (lift (Exec.require (data.length = size) .assertion) >>= next).Stays
      data := by
  rw [Traced.stays_lift_bind]
  intro _ required
  exact inside (Exec.require_eq_ok.mp required)

/-- A handler that refuses a frame for its shape, or checks the size of its
payload before it reads. -/
theorem stays_checked {α : Type} {data : Buffer} {size : Nat}
    {refused : Prop} [Decidable refused] {answer : Exec α}
    {next : Unit → Traced α}
    (inside : data.length = size → (next ()).Stays data) :
    (if refused then lift answer else
      lift (Exec.require (data.length = size) .assertion) >>= next).Stays
        data := by
  split
  · exact Traced.stays_lift _
  · exact stays_required inside

theorem stays_tracedLogin (env : Env ω) (s : Connections ω) (fd : Fd) :
    (s.tracedLogin env fd).Stays (s.frame fd).data := by
  unfold tracedLogin
  apply stays_checked
  intro size
  simp [Traced.stays_bind, size]

theorem stays_tracedUsername (env : Env ω) (s : Connections ω) (fd : Fd) :
    (s.tracedUsername env fd).Stays (s.frame fd).data := by
  unfold tracedUsername
  apply stays_checked
  intro size
  simp [Traced.stays_bind, size]

theorem stays_tracedChatrecord (env : Env ω) (s : Connections ω) (fd : Fd) :
    (s.tracedChatrecord env fd).Stays (s.frame fd).data := by
  unfold tracedChatrecord
  apply stays_checked
  intro size
  simp [Traced.stays_bind, size]

theorem stays_tracedChangePwd (env : Env ω) (s : Connections ω) (fd : Fd) :
    (s.tracedChangePwd env fd).Stays (s.frame fd).data := by
  unfold tracedChangePwd
  dsimp only
  split
  · exact Traced.stays_lift _
  · rw [Traced.stays_lift_bind]
    intro myUid _
    apply stays_required
    intro size
    simp [Traced.stays_bind, size]

theorem stays_tracedTransfileAskRc (env : Env ω) (s : Connections ω)
    (fd : Fd) : (s.tracedTransfileAskRc env fd).Stays (s.frame fd).data := by
  unfold tracedTransfileAskRc
  apply stays_checked
  intro size
  simp [Traced.stays_bind, size]

theorem stays_tracedTransfileRepSc (env : Env ω) (s : Connections ω)
    (fd : Fd) : (s.tracedTransfileRepSc env fd).Stays (s.frame fd).data := by
  unfold tracedTransfileRepSc
  apply stays_checked
  intro size
  simp [Traced.stays_bind, size]

theorem stays_tracedTransfileAck (env : Env ω) (s : Connections ω)
    (fd : Fd) : (s.tracedTransfileAck env fd).Stays (s.frame fd).data := by
  unfold tracedTransfileAck
  apply stays_checked
  intro size
  simp [Traced.stays_bind, size]

theorem stays_tracedTextmsg_iff
    (size : (s.frame fd).header.length.toNat =
      sizeofHeader + (s.frame fd).data.length) :
    (s.tracedTextmsg env fd).Stays (s.frame fd).data ↔
      4 ≤ (s.frame fd).data.length ∨
        (s.frame fd).header.subType ≠ 0x00 ∧
          (s.frame fd).header.subType ≠ 0x01 := by
  have range := (s.frame fd).header.length.toNat_lt
  unfold tracedTextmsg
  dsimp only
  split
  · rename_i refused
    refine iff_of_true (Traced.stays_lift _) ?_
    rcases refused with other | long
    · exact .inr other
    · exact .inl (by omega)
  · rename_i taken
    have kind : ¬ ((s.frame fd).header.subType ≠ 0x00 ∧
        (s.frame fd).header.subType ≠ 0x01) := fun other => taken (.inl other)
    rw [Traced.stays_lift_bind, or_iff_left kind]
    constructor
    · intro all
      have first := (Traced.stays_bind.mp (all () (Exec.require_of size.symm))).1
      exact Buffer.stays_readWord.mp first
    · intro some _ _
      have text : (readText (s.frame fd).data).Stays (s.frame fd).data :=
        stays_readText some (by omega)
      refine Traced.stays_bind.mpr ⟨Buffer.stays_readWord.mpr some, ?_⟩
      intro dstUid _
      rw [Traced.stays_lift_bind]
      intro myUid _
      rw [Traced.stays_lift_bind]
      intro checked _
      split
      · exact Traced.stays_lift _
      · exact Traced.stays_bind.mpr ⟨text, fun _ _ => Traced.stays_lift _⟩

theorem stays_tracedTransfileData_iff
    (size : (s.frame fd).header.length.toNat =
      sizeofHeader + (s.frame fd).data.length) :
    (s.tracedTransfileData fd).Stays (s.frame fd).data ↔
      4 ≤ (s.frame fd).data.length := by
  unfold tracedTransfileData
  dsimp only
  rw [if_neg (not_not.mpr size), Traced.stays_bind]
  simp

/-- The header of a text or of file data whose payload is too short for the id
of the receiver. -/
def CutShort (header : Header) : Prop :=
  header.length.toNat < sizeofHeader + 4 ∧
    (header.type = 0x19 ∨ header.type = 0x13 ∧
      (header.subType = 0x00 ∨ header.subType = 0x01))

end Connections

open Connections

/-- A handler reads only bytes of the payload and subtracts nothing below zero,
except for texts and file data that are too short for an id. -/
theorem payload_read_iff (env : Env ω) (s : Connections ω) (fd : Fd)
    (size : (s.frame fd).header.length.toNat =
      sizeofHeader + (s.frame fd).data.length) :
    (s.traced env fd).run = s.parse env fd ∧
      ((s.traced env fd).Stays (s.frame fd).data ↔
        ¬ CutShort (s.frame fd).header) := by
  refine ⟨run_traced env s fd, ?_⟩
  unfold traced
  split <;> rename_i type
  · exact iff_of_true (stays_tracedLogin env s fd) (by simp [CutShort, type])
  · exact iff_of_true (stays_tracedUsername env s fd)
      (by simp [CutShort, type])
  · exact iff_of_true (stays_tracedChatrecord env s fd)
      (by simp [CutShort, type])
  · apply (stays_tracedTextmsg_iff size).trans
    simp only [CutShort, type, size]
    grind
  · exact iff_of_true (stays_tracedChangePwd env s fd)
      (by simp [CutShort, type])
  · exact iff_of_true (stays_tracedTransfileAskRc env s fd)
      (by simp [CutShort, type])
  · exact iff_of_true (stays_tracedTransfileRepSc env s fd)
      (by simp [CutShort, type])
  · apply (stays_tracedTransfileData_iff size).trans
    simp [CutShort, type, size]
  · exact iff_of_true (stays_tracedTransfileAck env s fd)
      (by simp [CutShort, type])
  · refine iff_of_true (Traced.stays_lift _) ?_
    simp_all [CutShort]

def helloFrame : Message :=
  .ofData 0x13 0x00 (Buffer.ofWord 2 ++ Buffer.ofText "hello")

def crumbFrame : Message := .ofData 0x19 0x00 [0]

theorem payload_read_hello : ∃ s : State Tables,
    (machine Tables.env).Reachable s ∧ s.conns.bound 1 = true ∧
    ((s.conns.setConn 4 ((s.conns.conns 4).receive
      (whole helloFrame)).2).traced Tables.env 4).Stays helloFrame.data := by
  have replayed : ((machine Tables.env).replay threeUsers
      (arrives 4 [loginFrame "a"])).any (fun s => handsOver s 4 helloFrame ∧
        s.conns.bound 1 = true) = true := by
    decide +kernel
  obtain ⟨s, reached, holds⟩ :=
    Machine.Reachable.of_replay replayed threeUsers_initial
  obtain ⟨ended, bound⟩ := of_decide_eq_true holds
  obtain ⟨_, handed⟩ := of_decide_eq_true ended
  have same := frame_handed handed
  refine ⟨s, reached, bound, ?_⟩
  have iff := (payload_read_iff Tables.env (s.conns.setConn 4
    ((s.conns.conns 4).receive (whole helloFrame)).2) 4
      (by rw [same]; decide)).2
  rw [same] at iff
  exact iff.mpr (by unfold CutShort; decide)

/-- The id of the receiver is read behind the end of the payload. -/
theorem crumb_read_outside : ¬ ∀ (s : State Tables) (fd : Fd)
    (net : List ReadResult) (frame : Message) (uid : Uid),
    (machine Tables.env).Reachable s → s.clientFds fd = true →
    s.conns.fdToUid.lookup fd = some uid → s.conns.Handed fd net frame →
    frame.header.length.toNat = sizeofHeader + frame.data.length →
    ((s.conns.setConn fd ((s.conns.conns fd).receive net).2).traced
      Tables.env fd).Stays frame.data := by
  intro always
  have replayed : ((machine Tables.env).replay threeUsers
      (arrives 4 [loginFrame "a"])).any (fun s => handsOver s 4 crumbFrame ∧
        s.conns.fdToUid.lookup 4 = some 1) = true := by
    decide +kernel
  obtain ⟨s, reached, holds⟩ :=
    Machine.Reachable.of_replay replayed threeUsers_initial
  obtain ⟨ended, bound⟩ := of_decide_eq_true holds
  obtain ⟨opened, handed⟩ := of_decide_eq_true ended
  have same := frame_handed handed
  have stays := always s 4 _ crumbFrame 1 reached opened bound handed (by decide)
  have traced : (s.conns.setConn 4 ((s.conns.conns 4).receive
      (whole crumbFrame)).2).traced Tables.env 4 = (s.conns.setConn 4
        ((s.conns.conns 4).receive (whole crumbFrame)).2).tracedTransfileData
          4 := by
    simp only [Connections.traced, same]
    rfl
  have inside := @stays_tracedTransfileData_iff Tables (s.conns.setConn 4
    ((s.conns.conns 4).receive (whole crumbFrame)).2) 4
      (by rw [same]; decide)
  rw [same] at inside
  rw [traced] at stays
  exact absurd (inside.mp stays) (by decide)

end GroupChat.Server
