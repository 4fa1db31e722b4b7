import GroupChat.System.Transfer

namespace GroupChat.System

/-! Whole files on their way from one client to another. -/

open Client
open Server hiding Uid machine Record

variable {ω : Type} {env : Env ω} {host : Host}

/-- A name that the field for it holds and the local encoding gives back. -/
structure Named (host : Host) (name : QString) : Prop where
  empty : host.toLocal8Bit [] = []
  some : 1 ≤ (host.toLocal8Bit name).length
  short : (host.toLocal8Bit name).length ≤ 64
  ended : 0 ∉ host.toLocal8Bit name
  back : host.toUnicode (host.toLocal8Bit name) = name

theorem Named.ne_nil {name : QString} (named : Named host name) :
    name ≠ [] := by
  intro none
  have some := named.some
  rw [none, named.empty] at some
  exact absurd some (by decide)

theorem Named.fromLocal8Bit {name : QString} (named : Named host name) :
    host.fromLocal8Bit (host.toLocal8Bit name) = name := by
  rw [Host.fromLocal8Bit, Buffer.cString_of_clean named.ended, named.back]

/-- A file that is read to its end, in parts that are never longer than what is
asked for. -/
structure Content (source : SourceFile) (content : Buffer) : Prop where
  existing : source.existing = true
  size : source.size = content.length
  parts : ∀ part ∈ source.reads,
    part ≠ [] ∧ part.length ≤ TcpClient.filepartMaxSize
  whole : source.reads.flatten = content

/-- A client that is about to send a file. -/
structure Upload (host : Host) where
  client : TcpClient
  source : SourceFile
  content : Buffer
  opened : client.isOpen = true
  named : Named host source.filename
  read : Content source content
  small : content.length < 4294967296

namespace Upload

variable (upload : Upload host)

def request : Message :=
  TcpClient.fileRequest host upload.client.toUid upload.client.uid
    (UInt32.ofNat upload.content.length) upload.source.filename

def frames : List Message :=
  upload.request ::
    upload.source.reads.map
      (TcpClient.filePart upload.client.toUid upload.client.uid)

theorem sendFile_sends : ∃ after,
    upload.client.sendFile host upload.source = .ok after ∧
      after.sent = upload.client.sent ++ upload.frames.map Message.wire := by
  have source : upload.source = ⟨upload.source.filename, true,
      upload.source.reads.flatten.length, upload.source.reads⟩ := by
    rw [upload.read.whole, ← upload.read.size, ← upload.read.existing]
  rw [source, frames, request, ← upload.read.whole]
  exact TcpClient.sendFile_completes upload.opened upload.named.ne_nil
    upload.named.short upload.read.parts
    (upload.read.whole.symm ▸ upload.small)

theorem framed : ∀ frame ∈ upload.frames,
    frame.header.length.toNat = sizeofHeader + frame.data.length := by
  intro frame member
  cases List.mem_cons.mp member with
  | inl first =>
      rw [first]
      exact TcpClient.fileRequest_framed upload.named.short
  | inr later =>
      obtain ⟨part, read, rfl⟩ := List.mem_map.mp later
      exact TcpClient.filePart_framed (upload.read.parts part read).2

end Upload

/-- The type under which the server forwards a request or a part. -/
def forwardType (type : UInt8) : UInt8 :=
  if type = 0x17 then 0xA7 else 0xA9

/-- What the server forwards of a frame with a file. -/
def forwardMsg (frame : Message) : Message :=
  Connections.transfileMsg (forwardType frame.header.type) frame

/-- Every server that gets the frame from a user forwards it to the receiver, if
that one is online. -/
def Forwards (env : Env ω) (toUid : Client.Uid) (frame : Message) : Prop :=
  ∀ (s : Connections ω) (fd target : Fd) (uid : Client.Uid),
    s.frame fd = frame → s.myUid fd = .ok uid →
    s.uidToFd.lookup toUid = some target →
    ∃ db, s.parse env fd =
      .ok ({ s with db := db }.push target (forwardMsg frame))

namespace Upload

variable (upload : Upload host)

theorem forwards (env : Env ω) : ∀ frame ∈ upload.frames,
    Forwards env upload.client.toUid frame := by
  intro frame member s fd target uid arrived mine online
  have whole := upload.framed frame member
  cases List.mem_cons.mp member with
  | inl first =>
      rw [first] at arrived whole ⊢
      exact @Stage.parse_forwards host { upload.client with
        toFilesize := UInt32.ofNat upload.content.length
        toFilename := upload.source.filename } ω .request env s fd target uid
          whole arrived mine online
  | inr later =>
      obtain ⟨part, read, rfl⟩ := List.mem_map.mp later
      exact @Stage.parse_forwards host { upload.client with
        toFilepart := part } ω .part env s fd target uid whole arrived mine
          online

def arrivals : List Message :=
  upload.frames.map fun frame => received (forwardMsg frame)

theorem arrivals_eq : upload.arrivals =
    TcpClient.forwarded 0xA7 upload.request ::
      upload.source.reads.map fun part => TcpClient.forwarded 0xA9
        (TcpClient.filePart upload.client.toUid upload.client.uid part) := by
  rw [arrivals, frames, List.map_cons, List.map_map]
  congr 1
  · exact received_transfileMsg _ _
  · apply List.map_congr_left
    intro part _
    exact received_transfileMsg _ _

/-- A receiver `r` that has come to `r'` when `done` of the frames had
arrived. -/
structure Progress (r r' : TcpClient) (done : List Message) : Prop where
  untouched : done = [] → TcpClient.SameFile r r'
  receives : ∀ parts, done.length = parts + 1 →
    r'.Receives upload.client.toUid upload.source.filename
      upload.content.length (upload.source.reads.take parts).flatten r.written

variable {upload}

theorem length_flatten_take (upload : Upload host) (parts : Nat) :
    (upload.source.reads.take parts).flatten.length +
      (upload.source.reads.drop parts).flatten.length =
        upload.content.length := by
  rw [← List.length_append, ← List.flatten_append, List.take_append_drop,
    upload.read.whole]

theorem next_part {r : TcpClient} {parts : Nat} {part : Buffer}
    {older : List WrittenFile} (now : Int)
    (receives : r.Receives upload.client.toUid upload.source.filename
      upload.content.length (upload.source.reads.take parts).flatten older)
    (next : upload.source.reads[parts]? = some part) :
    ∃ r', r.parseHeader host now (TcpClient.forwarded 0xA9
        (TcpClient.filePart upload.client.toUid upload.client.uid part)) =
        .ok r' ∧
      r'.Receives upload.client.toUid upload.source.filename
        upload.content.length
        (upload.source.reads.take (parts + 1)).flatten older := by
  obtain ⟨some, fits⟩ :=
    upload.read.parts part (List.mem_of_getElem? next)
  have longer : (upload.source.reads.take (parts + 1)).flatten =
      (upload.source.reads.take parts).flatten ++ part := by
    rw [List.take_add_one, next, List.flatten_append]
    simp
  have within := upload.length_flatten_take (parts + 1)
  rw [longer, List.length_append] at within
  rw [longer]
  exact TcpClient.parseHeader_filePart_receives receives some fits (by omega)
    upload.small

theorem next_request {r : TcpClient} (upload : Upload host) (now : Int)
    (mine : r.uid = upload.client.toUid)
    (opens : host.writable upload.source.filename = true) :
    ∃ r', r.parseHeader host now (TcpClient.forwarded 0xA7 upload.request) =
        .ok r' ∧
      r'.Receives upload.client.toUid upload.source.filename
        upload.content.length [] r.written := by
  have name := upload.named.fromLocal8Bit
  have step := @TcpClient.parseHeader_fileRequest r upload.client.toUid
    upload.client.uid upload.content.length host now upload.source.filename
    mine upload.named.short (name.symm ▸ opens)
  rw [name] at step
  exact step

theorem Progress.next {r r' : TcpClient} {done : List Message}
    {frame : Message} (now : Int)
    (mine : r.uid = upload.client.toUid)
    (opens : host.writable upload.source.filename = true)
    (progress : upload.Progress r r' done)
    (ahead : done ++ [frame] <+: upload.arrivals) :
    ∃ r'', r'.parseHeader host now frame = .ok r'' ∧
      upload.Progress r r'' (done ++ [frame]) := by
  have next : upload.arrivals[done.length]? = some frame := by
    obtain ⟨rest, same⟩ := ahead
    rw [← same, List.append_assoc, List.getElem?_append_right (Nat.le_refl _),
      Nat.sub_self]
    rfl
  rw [arrivals_eq] at next
  cases done with
  | nil =>
      cases next
      have same := progress.untouched rfl
      obtain ⟨r'', parsed, receives⟩ :=
        upload.next_request now (same.uid.trans mine) opens
      refine ⟨r'', parsed, ⟨fun none => (nomatch none), ?_⟩⟩
      intro parts one
      cases one
      exact same.written ▸ receives
  | cons first parts =>
      rw [List.length_cons, List.getElem?_cons_succ, List.getElem?_map,
        Option.map_eq_some_iff] at next
      obtain ⟨part, read, rfl⟩ := next
      obtain ⟨r'', parsed, receives⟩ :=
        next_part now (progress.receives parts.length rfl) read
      refine ⟨r'', parsed, ⟨fun none => (nomatch none), ?_⟩⟩
      intro count counted
      have same : count = parts.length + 1 := by
        simp only [List.cons_append, List.length_cons, List.length_append,
          List.length_nil] at counted
        omega
      exact same ▸ receives

theorem run_progress {r r' : TcpClient} {events : List Client.Event}
    (mine : r.uid = upload.client.toUid)
    (opens : host.writable upload.source.filename = true)
    (keeps : ∀ event ∈ events, TcpClient.KeepsUser upload.client.toUid event)
    (ahead : TcpClient.fileFrames events <+: upload.arrivals)
    (completed : TcpClient.run host r events = .ok r') :
    upload.Progress r r' (TcpClient.fileFrames events) := by
  have first : r.uid = upload.client.toUid ∧ upload.Progress r r [] :=
    ⟨mine, fun _ => .refl r, fun parts one => nomatch one⟩
  have step := @TcpClient.run_files host r upload.client.toUid r'
    (fun done r' => r'.uid = upload.client.toUid ∧ upload.Progress r r' done)
    upload.arrivals [] events (fun _ _ holds => holds.1) ?_ ?_ keeps ahead
    first completed
  · exact step.2
  · intro done middle after holds same
    obtain ⟨user, untouched, receives⟩ := holds
    exact ⟨same.uid.trans user, fun none => (untouched none).trans same,
      fun parts counted => (receives parts counted).of_sameFile same⟩
  · intro done now frame middle after next holds parsed
    obtain ⟨user, progress⟩ := holds
    obtain ⟨after', parsed', progressed⟩ :=
      progress.next now mine opens next
    cases parsed.symm.trans parsed'
    refine ⟨?_, progressed⟩
    exact (progressed.receives done.length (by simp)).uid

/-- What the receiver `r` has of the file when it has come to `r'` with so many
parts of it. -/
structure Received (upload : Upload host) (r r' : TcpClient) (parts : Nat) :
    Prop where
  fileName : r'.file.fileName = upload.source.filename
  written : r'.written = ⟨upload.source.filename,
    (upload.source.reads.take parts).flatten⟩ :: r.written
  counted : r'.fileRecvCnt.toNat =
    (upload.source.reads.take parts).flatten.length
  within : r'.fileRecvCnt.toNat ≤ upload.content.length
  closed : 0 < upload.content.length →
    (r'.file.isOpen = false ↔ parts = upload.source.reads.length)

theorem take_shorter {parts : Nat}
    (more : parts < upload.source.reads.length) :
    (upload.source.reads.take parts).flatten.length <
      upload.content.length := by
  obtain ⟨some, _⟩ := upload.read.parts _ (List.getElem_mem more)
  have positive := List.length_pos_iff.mpr some
  have sizes := upload.length_flatten_take parts
  rw [List.drop_eq_getElem_cons more, List.flatten_cons,
    List.length_append] at sizes
  omega

theorem Received.of_receives {r r' : TcpClient} {parts : Nat}
    (known : parts ≤ upload.source.reads.length)
    (receives : r'.Receives upload.client.toUid upload.source.filename
      upload.content.length (upload.source.reads.take parts).flatten
      r.written) : upload.Received r r' parts := by
  have sizes := upload.length_flatten_take parts
  have small := upload.small
  have counted : r'.fileRecvCnt.toNat =
      (upload.source.reads.take parts).flatten.length := by
    rw [receives.fileRecvCnt, UInt32.toNat_ofNat', Nat.mod_eq_of_lt (by omega)]
  refine ⟨receives.fileName, receives.written, counted, by omega, ?_⟩
  intro some
  rw [← Bool.not_eq_true, receives.isOpen]
  constructor
  · intro closed
    cases Nat.lt_or_eq_of_le known with
    | inl more => exact absurd (.inl (take_shorter more)) closed
    | inr all => exact all
  · intro all remains
    rw [all, List.take_length, upload.read.whole] at remains
    omega

end Upload

/-- A file is sent in frames of the announced lengths; the server forwards
them, and a receiver that gets them, with no other frame about files between
them, has written as much of the file as has arrived. -/
theorem file_transferred (env : Env ω) (host : Host) (upload : Upload host) :
    (∃ after, upload.client.sendFile host upload.source = .ok after ∧
      after.sent = upload.client.sent ++ upload.frames.map Message.wire) ∧
    (∀ frame ∈ upload.frames,
      frame.header.length.toNat = sizeofHeader + frame.data.length ∧
      Forwards env upload.client.toUid frame) ∧
    ∀ (r r' : TcpClient) (early late : List Client.Event),
      r.uid = upload.client.toUid →
      host.writable upload.source.filename = true →
      (∀ event ∈ early ++ late,
        TcpClient.KeepsUser upload.client.toUid event) →
      TcpClient.fileFrames (early ++ late) = upload.arrivals →
      TcpClient.run host r early = .ok r' →
      (TcpClient.fileFrames early = [] → TcpClient.SameFile r r') ∧
      (∀ parts, (TcpClient.fileFrames early).length = parts + 1 →
        upload.Received r r' parts) ∧
      (∀ event rest frame, late = event :: rest →
        TcpClient.asFileFrame event = some frame →
        ∃ r'', r'.next host event = .ok r'') ∧
      (TcpClient.fileFrames late = [] →
        r'.file.fileName = upload.source.filename ∧
        r'.written =
          ⟨upload.source.filename, upload.content⟩ :: r.written ∧
        r'.fileRecvCnt.toNat = upload.content.length) := by
  refine ⟨upload.sendFile_sends, fun frame member =>
    ⟨upload.framed frame member, upload.forwards env frame member⟩, ?_⟩
  intro r r' early late mine opens keeps arrived completed
  have split : TcpClient.fileFrames (early ++ late) =
      TcpClient.fileFrames early ++ TcpClient.fileFrames late :=
    List.filterMap_append
  have ahead : TcpClient.fileFrames early <+: upload.arrivals :=
    ⟨_, split.symm.trans arrived⟩
  have progress := Upload.run_progress mine opens (fun event member =>
    keeps event (List.mem_append_left late member)) ahead completed
  have received : ∀ parts,
      (TcpClient.fileFrames early).length = parts + 1 →
      upload.Received r r' parts := by
    intro parts counted
    have known := ahead.length_le
    rw [counted, Upload.arrivals_eq, List.length_cons,
      List.length_map] at known
    exact .of_receives (by omega) (progress.receives parts counted)
  refine ⟨progress.untouched, received, ?_, ?_⟩
  · intro event rest frame following file
    obtain ⟨now, rfl⟩ := TcpClient.asFileFrame_eq_some file
    have next : TcpClient.fileFrames early ++ [frame] <+: upload.arrivals := by
      refine ⟨TcpClient.fileFrames rest, ?_⟩
      rw [← arrived, split, following, List.append_assoc]
      exact congrArg _ (List.filterMap_cons_some file).symm
    obtain ⟨r'', parsed, _⟩ := progress.next now mine opens next
    exact ⟨r'', parsed⟩
  · intro none
    rw [none, List.append_nil] at split
    have all : (TcpClient.fileFrames early).length =
        upload.source.reads.length + 1 := by
      rw [← split, arrived, Upload.arrivals_eq, List.length_cons,
        List.length_map]
    have last := received _ all
    have whole := last.written
    have counted := last.counted
    rw [List.take_length, upload.read.whole] at whole counted
    exact ⟨last.fileName, whole, counted⟩

def uploadHi : Upload Host.latin1 where
  client := { isOpen := true, uid := 1, toUid := 2 }
  source := ⟨.ofText "a.txt", true, 2, [[104, 105]]⟩
  content := [104, 105]
  opened := rfl
  named := ⟨rfl, by decide, by decide, by decide, by decide⟩
  read := ⟨rfl, rfl, by decide, rfl⟩
  small := by decide

def arriving (frames : List Message) : List Client.Event :=
  frames.map (Event.frame 0)

theorem file_transferred_hi : ∃ r',
    TcpClient.run Host.latin1 { uid := 2 } (arriving uploadHi.arrivals) =
      .ok r' ∧
    r'.written = [⟨.ofText "a.txt", [104, 105]⟩] ∧
    r'.fileRecvCnt.toNat = 2 := by
  have completes : (TcpClient.run Host.latin1 { uid := 2 }
      (arriving uploadHi.arrivals)).completes = true := by
    decide +kernel
  obtain ⟨r', completed⟩ := Exec.completes_iff.mp completes
  obtain ⟨_, _, receives⟩ :=
    file_transferred (Tables.keptEnv threeAccounts) Host.latin1 uploadHi
  have keeps : ∀ event ∈ arriving uploadHi.arrivals ++ [],
      TcpClient.KeepsUser uploadHi.client.toUid event := by
    intro event member now frame same type
    rw [List.append_nil, same] at member
    obtain ⟨other, arrived, same⟩ := List.mem_map.mp member
    cases same
    have none : ∀ frame ∈ uploadHi.arrivals, frame.header.type ≠ 0x90 := by
      decide +kernel
    exact absurd type (none frame arrived)
  obtain ⟨_, _, _, whole⟩ := receives { uid := 2 } r'
    (arriving uploadHi.arrivals) [] rfl rfl keeps (by decide +kernel) completed
  obtain ⟨_, written, counted⟩ := whole rfl
  exact ⟨r', completed, written, counted⟩

end GroupChat.System
