import GroupChat.Server.Reading
import GroupChat.System.Limits
import GroupChat.System.Transfer

namespace GroupChat.System

/-! Texts in fields of fixed width, from the user to the database. -/

open Client
open Server hiding Uid machine
open Server.Connections (fixedField)

variable {ω : Type} {env : Env ω} {host : Host}

/-! Reading a field byte by byte. -/

def readByte (data : Buffer) (offset : Nat) : Traced UInt8 :=
  ⟨[.read offset 1], Exec.demand data[offset]? .undefined⟩

/-- A C string that begins here ends at the first NUL, wherever that is. -/
def readCString : Nat → Buffer → Traced Buffer
  | offset, [] => ⟨[.read offset 1], .error .undefined⟩
  | offset, byte :: rest => do
      let byte ← (⟨[.read offset 1], .ok byte⟩ : Traced UInt8)
      if byte = 0 then
        pure []
      else do
        let text ← readCString (offset + 1) rest
        pure (byte :: text)

/-- A text in a `char` array: all of it if its last byte is not NUL, or else
the C string it begins with. -/
def readChars (data : Buffer) (offset width : Nat) : Traced Buffer := do
  let last ← readByte data (offset + width - 1)
  if last ≠ 0 then
    ⟨[.read offset width], .ok ((data.drop offset).take width)⟩
  else
    readCString offset (data.drop offset)

/-- A read inside a field. -/
def Within (offset width : Nat) : Access → Prop
  | .read start size => offset ≤ start ∧ start + size ≤ offset + width
  | .subtract _ _ => True

/-- An execution that gives a text and reads nothing outside a field. -/
structure Yields (traced : Traced Buffer) (offset width : Nat) (text : Buffer) :
    Prop where
  run : traced.run = .ok text
  within : ∀ access ∈ traced.accesses, Within offset width access

theorem Yields.wider {traced : Traced Buffer} {offset width more : Nat}
    {text : Buffer} (gives : Yields traced offset width text)
    (wider : width ≤ more) : Yields traced offset more text := by
  refine ⟨gives.run, ?_⟩
  intro access member
  have here := gives.within access member
  cases access with
  | read start size =>
      obtain ⟨low, high⟩ := here
      exact ⟨low, by omega⟩
  | subtract _ _ => trivial

theorem Yields.after {α : Type} {first : Traced α} {value : α}
    {next : α → Traced Buffer} {offset width : Nat} {text : Buffer}
    (before : first.run = .ok value)
    (within : ∀ access ∈ first.accesses, Within offset width access)
    (gives : Yields (next value) offset width text) :
    Yields (first >>= next) offset width text := by
  constructor
  · rw [Traced.run_bind, before]
    exact gives.run
  · intro access member
    rw [Traced.accesses_bind before] at member
    cases List.mem_append.mp member with
    | inl early => exact within access early
    | inr late => exact gives.within access late

theorem readCString_gives {text : Buffer} (clean : (0 : UInt8) ∉ text)
    (rest : Buffer) (offset : Nat) :
    Yields (readCString offset (text ++ 0 :: rest)) offset (text.length + 1)
      text := by
  have one (start size : Nat) (some : 0 < size) :
      ∀ access ∈ [Access.read start 1], Within start size access := by
    intro access member
    rw [List.mem_singleton.mp member]
    exact ⟨Nat.le_refl _, by omega⟩
  induction text generalizing offset with
  | nil => exact .after rfl (one offset 1 Nat.one_pos) ⟨rfl, nofun⟩
  | cons byte text induction =>
      have some : byte ≠ 0 := fun zero => clean (by simp [zero])
      obtain ⟨run, within⟩ := induction
        (fun member => clean (List.mem_cons_of_mem byte member)) (offset + 1)
      apply Yields.after rfl (one offset _ (Nat.succ_pos _))
      rw [if_neg some]
      apply Yields.after run
      · intro access member
        have here := within access member
        rw [List.length_cons]
        cases access with
        | read start size =>
            obtain ⟨low, high⟩ := here
            exact ⟨by omega, by omega⟩
        | subtract _ _ => trivial
      · exact ⟨rfl, nofun⟩

theorem cString_split {field : Buffer} (member : (0 : UInt8) ∈ field) :
    (0 : UInt8) ∉ field.cString ∧
      ∃ rest, field = field.cString ++ 0 :: rest := by
  induction field with
  | nil => exact absurd member List.not_mem_nil
  | cons byte rest induction =>
      by_cases zero : byte = 0
      · subst zero
        exact ⟨List.not_mem_nil, rest, rfl⟩
      · have first : Buffer.cString (byte :: rest) =
            byte :: Buffer.cString rest := by
          rw [Buffer.cString, List.takeWhile_cons_of_pos (by simp [zero])]
          rfl
        have later : (0 : UInt8) ∈ rest := by
          cases List.mem_cons.mp member with
          | inl same => exact absurd same.symm zero
          | inr later => exact later
        obtain ⟨clean, behind, split⟩ := induction later
        rw [first]
        refine ⟨?_, behind, by rw [List.cons_append, ← split]⟩
        exact List.not_mem_cons_of_ne_of_not_mem (Ne.symm zero) clean

theorem readChars_gives {data : Buffer} {offset width : Nat} (wide : 0 < width)
    (inside : offset + width ≤ data.length) :
    Yields (readChars data offset width) offset width
      (fixedField data offset width) := by
  have length : ((data.drop offset).take width).length = width := by
    rw [List.length_take, List.length_drop]
    omega
  have some : (data.drop offset).take width ≠ [] := by
    intro none
    rw [none] at length
    exact absurd length (Nat.ne_of_lt wide)
  have last : (readByte data (offset + width - 1)).run =
      .ok (((data.drop offset).take width).getLastD 0) := by
    rw [List.getLastD_eq_getLast?, List.getLast?_eq_getElem?, length,
      List.getElem?_take_of_lt (by omega), List.getElem?_drop,
      ← Nat.add_sub_assoc wide, List.getElem?_eq_getElem (by omega), readByte,
      List.getElem?_eq_getElem (by omega)]
    rfl
  apply Yields.after last
  · intro access member
    rw [List.mem_singleton.mp member]
    exact ⟨by omega, by omega⟩
  · unfold fixedField
    dsimp only
    split
    · refine ⟨rfl, ?_⟩
      intro access member
      rw [List.mem_singleton.mp member]
      exact ⟨Nat.le_refl _, Nat.le_refl _⟩
    · rename_i zero
      have member : (0 : UInt8) ∈ (data.drop offset).take width := by
        rw [not_not, List.getLastD_eq_getLast?,
          List.getLast?_eq_some_getLast some] at zero
        have here := List.getLast_mem some
        rwa [Option.getD_some.symm.trans zero] at here
      obtain ⟨clean, behind, split⟩ := cString_split member
      have whole : data.drop offset =
          Buffer.cString ((data.drop offset).take width) ++ 0 ::
            (behind ++ (data.drop offset).drop width) := by
        rw [← List.cons_append, ← List.append_assoc, ← split,
          List.take_append_drop]
      have size := congrArg List.length split
      rw [length, List.length_append, List.length_cons] at size
      have gives := readCString_gives clean
        (behind ++ (data.drop offset).drop width) offset
      rw [← whole] at gives
      exact gives.wider (by omega)

/-- A text without NULs in its field, filled up with zeros, between what stands
before and behind it. -/
theorem fixedField_text {before text behind data : Buffer} {width : Nat}
    (clean : (0 : UInt8) ∉ text) (fits : text.length ≤ width)
    (layout : data = before ++ (text ++
      List.replicate (width - text.length) 0 ++ behind)) :
    fixedField data before.length width = text := by
  have field : (data.drop before.length).take width =
      text ++ List.replicate (width - text.length) 0 := by
    rw [layout, List.drop_left]
    apply List.take_left'
    rw [List.length_append, List.length_replicate]
    omega
  unfold fixedField
  dsimp only
  rw [field]
  cases filled : width - text.length with
  | zero =>
      rw [List.replicate_zero, List.append_nil]
      cases text using List.reverseRecOn with
      | nil => rfl
      | append_singleton front last _ =>
          have some : last ≠ 0 := by
            rintro rfl
            exact clean (List.mem_append_right _ (List.mem_singleton_self _))
          rw [List.getLastD_concat, if_pos some]
  | succ count =>
      have last : (text ++ List.replicate (count + 1) 0).getLastD 0 = 0 := by
        rw [List.replicate_succ', ← List.append_assoc, List.getLastD_concat]
      have cut : Buffer.cString (text ++ List.replicate (count + 1) 0) =
          text := by
        rw [Buffer.cString, List.replicate_succ,
          List.takeWhile_append_of_pos, List.takeWhile_cons_of_neg (by simp),
          List.append_nil]
        intro byte member
        exact decide_eq_true fun zero => clean (zero ▸ member)
      rw [last, if_neg (not_not.mpr rfl), cut]

/-! The handlers behind their texts. -/

section

variable (env : Env ω) (s : Connections ω) (fd : Fd)

def loginWith (username password : Buffer) : Exec (Connections ω) := do
  let checked ← Database.loginCheck env s.db username password false true 0
  let s := { s with db := checked.world }
  if checked.ret < 0 then
    .ok (s.parseUnknown fd)
  else
    Connections.loginChecked env (s.noteLogin fd checked.legal checked.uid) fd
      checked.legal checked.first checked.uid

def changePwdWith (oldPwd newPwd : Buffer) : Exec (Connections ω) := do
  let myUid ← s.myUid fd
  let (ret, db) ←
    Database.updatePasswd env s.db (toSigned myUid) newPwd oldPwd
  .ok ({ s with db := db }.push fd (Connections.changePwdMsg (ret = 0)))

def transfileAskRcWith (filename : Buffer) : Exec (Connections ω) := do
  let dstUid ← (s.frame fd).data.wordAt 0
  let myUid ← s.myUid fd
  let filesize ← (s.frame fd).data.wordAt 8
  let (_, db) := Database.insertFileRecord env s.db (toSigned myUid)
    (toSigned dstUid) (toSigned filesize) filename
  { s with db := db }.pushTransfileAskRc dstUid (s.frame fd)

end

/-! What the user types. -/

/-- An encoding in which these characters have one byte each, NUL alone the
byte zero. -/
structure SingleByte (host : Host) (encode : UInt16 → UInt8)
    (single : UInt16 → Prop) : Prop where
  encodes : ∀ text : QString, (∀ unit ∈ text, single unit) →
    host.toLocal8Bit text = text.map encode
  nul : single 0 ∧ encode 0 = 0
  others : ∀ unit, single unit → unit ≠ 0 → encode unit ≠ 0

structure Field where
  offset : Nat
  width : Nat
  text : QString

namespace Entry

/-- The fields of the payload and what the user typed for them. -/
def fields : Entry → List Field
  | .login name password => [⟨0, 28, name⟩, ⟨28, 28, password⟩]
  | .changePassword oldPassword newPassword =>
      [⟨0, 28, oldPassword⟩, ⟨28, 28, newPassword⟩]
  | .message _ => []
  | .file filename => [⟨12, 64, filename⟩]

/-- Names and passwords of any length and file names that are not too long, of
single-byte characters without NULs. -/
def Typed (single : UInt16 → Prop) (entry : Entry) : Prop :=
  (∀ field ∈ entry.fields, ∀ unit ∈ field.text, single unit ∧ unit ≠ 0) ∧
    match entry with
    | .message _ => False
    | .file filename => 1 ≤ filename.length ∧ filename.length ≤ 64
    | _ => True

/-- What the server does when the database gets what was typed, or the first
28 characters of it. -/
def handed (env : Env ω) (host : Host) (s : Connections ω) (fd : Fd) :
    Entry → Exec (Connections ω)
  | .login name password =>
      loginWith env s fd (host.toLocal8Bit (name.take 28))
        (host.toLocal8Bit (password.take 28))
  | .changePassword oldPassword newPassword =>
      changePwdWith env s fd (host.toLocal8Bit (oldPassword.take 28))
        (host.toLocal8Bit (newPassword.take 28))
  | .message _ => s.parse env fd
  | .file filename =>
      transfileAskRcWith env s fd (host.toLocal8Bit filename)

end Entry

section

variable {encode : UInt16 → UInt8} {single : UInt16 → Prop}

theorem SingleByte.resized (codec : SingleByte host encode single)
    {text : QString} (typed : ∀ unit ∈ text, single unit ∧ unit ≠ 0)
    (width : Nat) :
    host.toLocal8Bit (text.resize width) =
      host.toLocal8Bit (text.take width) ++ List.replicate
        (width - (host.toLocal8Bit (text.take width)).length) 0 := by
  have front : ∀ unit ∈ text.take width, single unit := fun unit member =>
    (typed unit (List.mem_of_mem_take member)).1
  have whole : ∀ unit ∈ text.resize width, single unit := by
    intro unit member
    cases List.mem_append.mp member with
    | inl early => exact front unit early
    | inr late => exact List.eq_of_mem_replicate late ▸ codec.nul.1
  have left : width - min width text.length = width - text.length := by omega
  rw [codec.encodes _ whole, codec.encodes _ front, QString.resize,
    List.map_append, List.map_replicate, codec.nul.2, List.length_map,
    List.length_take, left]

theorem SingleByte.clean (codec : SingleByte host encode single)
    {text : QString} (typed : ∀ unit ∈ text, single unit ∧ unit ≠ 0) :
    (0 : UInt8) ∉ host.toLocal8Bit text := by
  rw [codec.encodes _ fun unit member => (typed unit member).1]
  intro member
  obtain ⟨unit, here, zero⟩ := List.mem_map.mp member
  exact codec.others unit (typed unit here).1 (typed unit here).2 zero

theorem SingleByte.length_le (codec : SingleByte host encode single)
    {text : QString} (typed : ∀ unit ∈ text, single unit ∧ unit ≠ 0)
    (width : Nat) : (host.toLocal8Bit (text.take width)).length ≤ width := by
  rw [codec.encodes _ fun unit member =>
    (typed unit (List.mem_of_mem_take member)).1, List.length_map]
  exact List.length_take_le width text

theorem SingleByte.two_fields (codec : SingleByte host encode single)
    {first second : QString} (typed : ∀ unit ∈ first, single unit ∧ unit ≠ 0)
    (typed' : ∀ unit ∈ second, single unit ∧ unit ≠ 0) {data : Buffer}
    (layout : data = host.toLocal8Bit (first.resize 28) ++
      host.toLocal8Bit (second.resize 28)) :
    data.length = 56 ∧
      fixedField data 0 28 = host.toLocal8Bit (first.take 28) ∧
      fixedField data 28 28 = host.toLocal8Bit (second.take 28) := by
  have front {text : QString} (typed : ∀ unit ∈ text, single unit ∧ unit ≠ 0) :
      ∀ unit ∈ text.take 28, single unit ∧ unit ≠ 0 := fun unit member =>
    typed unit (List.mem_of_mem_take member)
  have short := codec.length_le typed 28
  have short' := codec.length_le typed' 28
  have size {text : QString} (typed : ∀ unit ∈ text, single unit ∧ unit ≠ 0) :
      (host.toLocal8Bit (text.resize 28)).length = 28 := by
    have short := codec.length_le typed 28
    rw [codec.resized typed, List.length_append, List.length_replicate]
    omega
  refine ⟨by rw [layout, List.length_append, size typed, size typed'], ?_, ?_⟩
  · exact @fixedField_text [] (host.toLocal8Bit (first.take 28))
      (host.toLocal8Bit (second.resize 28)) data 28
      (codec.clean (front typed)) short
      (by rw [layout, ← codec.resized typed, List.nil_append])
  · have second := @fixedField_text (host.toLocal8Bit (first.resize 28))
      (host.toLocal8Bit (second.take 28)) [] data 28
      (codec.clean (front typed')) short'
      (by rw [layout, ← codec.resized typed', List.append_nil])
    rwa [size typed] at second

/-! What arrives. -/

/-- The fields of a payload hold what was typed for them, and are read without
a look at another byte. -/
def Holds (host : Host) (data : Buffer) (fields : List Field) : Prop :=
  ∀ field ∈ fields, Yields (readChars data field.offset field.width)
    field.offset field.width (host.toLocal8Bit (field.text.take field.width))

theorem holds_two {data : Buffer} {first second : QString}
    (fits : data.length = 56 ∧
      fixedField data 0 28 = host.toLocal8Bit (first.take 28) ∧
      fixedField data 28 28 = host.toLocal8Bit (second.take 28)) :
    Holds host data [⟨0, 28, first⟩, ⟨28, 28, second⟩] := by
  obtain ⟨size, here, there⟩ := fits
  have left : Yields (readChars data 0 28) 0 28 (fixedField data 0 28) :=
    readChars_gives (by decide) (by rw [size]; decide)
  have right : Yields (readChars data 28 28) 28 28 (fixedField data 28 28) :=
    readChars_gives (by decide) (by rw [size])
  intro field member
  cases List.mem_cons.mp member with
  | inl same =>
      rw [same]
      exact here ▸ left
  | inr member =>
      rw [List.mem_singleton.mp member]
      exact there ▸ right

variable {s : Connections ω} {fd : Fd}

theorem login_handed (codec : SingleByte host encode single) (c : TcpClient)
    {name password : QString} (typed : (Entry.login name password).Typed single)
    (arrived : (s.frame fd).wire =
      (((c.setName name).setPassword password).composeLogin host).sendMsg) :
    s.parse env fd = (Entry.login name password).handed env host s fd ∧
      Holds host (s.frame fd).data (Entry.login name password).fields := by
  have frame : s.frame fd = ⟨⟨0x10, 0x00, 60⟩,
      host.toLocal8Bit (name.resize 28) ++
        host.toLocal8Bit (password.resize 28)⟩ := by
    apply wire_injective
    rw [arrived, TcpClient.composeLogin, TcpClient.compose_eq]
    rfl
  have fits := codec.two_fields
    (typed.1 _ (List.mem_cons_self ..))
    (typed.1 ⟨28, 28, password⟩
      (List.mem_cons_of_mem _ (List.mem_singleton_self _)))
    (congrArg Message.data frame)
  refine ⟨?_, holds_two fits⟩
  have header : (s.frame fd).header = ⟨0x10, 0x00, 60⟩ :=
    congrArg Message.header frame
  have shape : ¬ ((s.frame fd).header.subType ≠ 0x00 ∨
      (s.frame fd).header.length.toNat ≠ sizeofHeader + 56) := by
    rw [header]
    decide
  rw [Connections.parse, header]
  change s.parseLogin env fd = _
  unfold Connections.parseLogin
  dsimp only
  rw [if_neg shape, Exec.require_of fits.1, Exec.bind_ok, fits.2.1, fits.2.2]
  rfl

theorem changePassword_handed (codec : SingleByte host encode single)
    (c : TcpClient) {oldPassword newPassword : QString}
    (typed : (Entry.changePassword oldPassword newPassword).Typed single)
    (arrived : (s.frame fd).wire = (((c.setPassword newPassword).setOldPassword
      oldPassword).composeChangePassword host).sendMsg) :
    s.parse env fd =
        (Entry.changePassword oldPassword newPassword).handed env host s fd ∧
      Holds host (s.frame fd).data
        (Entry.changePassword oldPassword newPassword).fields := by
  have frame : s.frame fd = ⟨⟨0x15, 0x00, 60⟩,
      host.toLocal8Bit (oldPassword.resize 28) ++
        host.toLocal8Bit (newPassword.resize 28)⟩ := by
    apply wire_injective
    rw [arrived, TcpClient.composeChangePassword, TcpClient.compose_eq]
    rfl
  have fits := codec.two_fields
    (typed.1 _ (List.mem_cons_self ..))
    (typed.1 ⟨28, 28, newPassword⟩
      (List.mem_cons_of_mem _ (List.mem_singleton_self _)))
    (congrArg Message.data frame)
  refine ⟨?_, holds_two fits⟩
  have header : (s.frame fd).header = ⟨0x15, 0x00, 60⟩ :=
    congrArg Message.header frame
  have shape : ¬ ((s.frame fd).header.subType ≠ 0x00 ∨
      (s.frame fd).header.length.toNat ≠ sizeofHeader + 56) := by
    rw [header]
    decide
  rw [Connections.parse, header]
  change s.parseChangePwd env fd = _
  unfold Connections.parseChangePwd Entry.handed changePwdWith
  dsimp only
  rw [if_neg shape]
  congr 1
  funext myUid
  rw [Exec.require_of fits.1, Exec.bind_ok, fits.2.1, fits.2.2]

theorem file_handed (codec : SingleByte host encode single) (c : TcpClient)
    {filename : QString} (typed : (Entry.file filename).Typed single)
    {composed : TcpClient}
    (made : (c.setToFilename filename).composeFileRequest host = .ok composed)
    (arrived : (s.frame fd).wire = composed.sendMsg) :
    s.parse env fd = (Entry.file filename).handed env host s fd ∧
      Holds host (s.frame fd).data (Entry.file filename).fields := by
  obtain ⟨_, rfl⟩ := TcpClient.composeFileRequest_ok made
  have frame : s.frame fd = TcpClient.fileRequest host c.toUid c.uid
      c.toFilesize filename := by
    apply wire_injective
    rw [arrived, TcpClient.compose_eq]
    rfl
  have units : ∀ unit ∈ filename, single unit ∧ unit ≠ 0 :=
    typed.1 _ (List.mem_cons_self ..)
  have whole : filename.take 64 = filename :=
    List.take_of_length_le typed.2.2
  have short := codec.length_le units 64
  rw [whole] at short
  have data : (s.frame fd).data = (Buffer.ofWord c.toUid ++
      (Buffer.ofWord c.uid ++ Buffer.ofWord c.toFilesize)) ++
        (host.toLocal8Bit filename ++ List.replicate
          (64 - (host.toLocal8Bit filename).length) 0 ++ []) := by
    rw [frame, TcpClient.fileRequest, TcpClient.fileFrame, TcpClient.nameField]
    simp only [List.append_assoc, List.append_nil]
  have size : (s.frame fd).data.length = 76 := by
    rw [data]
    simp only [List.length_append, Buffer.length_ofWord, List.length_replicate,
      List.length_nil]
    omega
  have field : fixedField (s.frame fd).data 12 64 =
      host.toLocal8Bit filename :=
    fixedField_text (codec.clean units) short data
  constructor
  · have header : (s.frame fd).header = ⟨0x17, 0x00, 80⟩ :=
      congrArg Message.header frame
    have shape : ¬ (s.frame fd).header.length.toNat ≠ sizeofHeader + 76 := by
      rw [header]
      decide
    rw [Connections.parse, header]
    change s.parseTransfileAskRc env fd = _
    unfold Connections.parseTransfileAskRc
    dsimp only
    rw [if_neg shape, Exec.require_of size, Exec.bind_ok, field]
    rfl
  · intro place member
    rw [List.mem_singleton.mp member]
    dsimp only
    rw [whole, ← field]
    exact readChars_gives (by decide) (by rw [size])

end

/-- Whatever was typed is handed to the database as it is, or its first 28
characters; each field is read without a look at another byte. -/
theorem fields_round_trip {encode : UInt16 → UInt8} {single : UInt16 → Prop}
    (codec : SingleByte host encode single) (env : Env ω) (c : TcpClient)
    {entry : Entry} (typed : entry.Typed single) {composed : TcpClient}
    (made : entry.compose host c = .ok composed) {s : Connections ω} {fd : Fd}
    (arrived : (s.frame fd).wire = composed.sendMsg) :
    s.parse env fd = entry.handed env host s fd ∧
      Holds host (s.frame fd).data entry.fields := by
  cases entry with
  | login name password =>
      cases made
      exact login_handed codec c typed arrived
  | changePassword oldPassword newPassword =>
      cases made
      exact changePassword_handed codec c typed arrived
  | message _ => exact absurd typed.2 not_false
  | file filename => exact file_handed codec c typed made arrived

theorem latin1_single : SingleByte .latin1 UInt16.toUInt8 (· < 256) where
  encodes := fun _ _ => rfl
  nul := by decide
  others := by
    intro unit small some zero
    apply some
    apply UInt16.toNat.inj
    have low := congrArg UInt8.toNat zero
    have bound : unit.toNat < 256 := small
    rw [UInt16.toNat_toUInt8, Nat.mod_eq_of_lt bound] at low
    exact low

def longName : QString := List.replicate 28 97

def typedLogin : Connections Tables :=
  threeUsers.conns.setConn 4 { recvMsg := ⟨⟨0x10, 0x00, 60⟩,
    Host.latin1.toLocal8Bit (longName.resize 28) ++
      Host.latin1.toLocal8Bit ((QString.ofText "pw").resize 28)⟩ }

theorem longName_typed :
    (Entry.login longName (.ofText "pw")).Typed (· < 256) := by
  refine ⟨?_, trivial⟩
  intro field member
  cases List.mem_cons.mp member with
  | inl same =>
      rw [same]
      intro unit inside
      rw [List.eq_of_mem_replicate inside]
      decide
  | inr member =>
      rw [List.mem_singleton.mp member]
      intro unit inside
      change unit ∈ [112, 119] at inside
      cases List.mem_cons.mp inside with
      | inl first =>
          rw [first]
          decide
      | inr second =>
          rw [List.mem_singleton.mp second]
          decide

theorem fields_round_trip_long :
    typedLogin.parse Tables.env 4 =
      loginWith Tables.env typedLogin 4 (List.replicate 28 97)
        (Buffer.ofText "pw") ∧
    Holds .latin1 (typedLogin.frame 4).data
      (Entry.login longName (.ofText "pw")).fields :=
  fields_round_trip latin1_single Tables.env {} longName_typed rfl rfl

end GroupChat.System
