import GroupChat.Client.Run

namespace GroupChat.Client

/-! A file on its way: the frames it is sent in, and the file the receiver
writes. -/

open Server (Header Message sizeofHeader)

/-! What the handlers take out of a frame about a file. -/

namespace TcpClient

variable {host : Host} {r : TcpClient} {toUid uid : Uid}
  {rest : Buffer}

theorem fetchUids_fileFrame
    (data : r.receivedData = Buffer.ofWord toUid ++ (Buffer.ofWord uid ++ rest))
    (mine : r.uid = toUid) :
    r.fetchUids = .ok (rest, { r with fromUid := uid }) := by
  unfold fetchUids
  rw [data, DataStream.readWord_ofWord]
  dsimp only
  rw [DataStream.readWord_ofWord]
  dsimp only
  rw [Exec.require_of mine.symm, Exec.bind_ok]

theorem fromLocal8Bit_nameField (host : Host) (filename : QString) :
    host.fromLocal8Bit (nameField host filename) =
      host.fromLocal8Bit (host.toLocal8Bit filename) := by
  have cut : ∀ (bytes : Buffer) (count : Nat),
      Buffer.cString (bytes ++ List.replicate count 0) = bytes.cString := by
    intro bytes count
    unfold Buffer.cString
    induction bytes with
    | nil => cases count <;> simp [List.replicate_succ]
    | cons b bytes induction =>
        rw [List.cons_append, List.takeWhile_cons, List.takeWhile_cons,
          induction]
  rw [Host.fromLocal8Bit, nameField, cut]
  rfl

theorem fetchFileRequest_fileFrame {filesize : UInt32} {filename : QString}
    (data : r.receivedData = Buffer.ofWord toUid ++ (Buffer.ofWord uid ++
      (Buffer.ofWord filesize ++ nameField host filename)))
    (mine : r.uid = toUid)
    (short : (host.toLocal8Bit filename).length ≤ 64) :
    r.fetchFileRequest host = .ok { r with
      fromUid := uid
      toFilesize := filesize
      toFilename := host.fromLocal8Bit (host.toLocal8Bit filename) } := by
  have size : (nameField host filename).length =
      filenameByteLength := by
    simp only [nameField, List.length_append, List.length_replicate,
      filenameByteLength]
    omega
  have name : right r.receivedData filenameByteLength =
      nameField host filename := by
    rw [data, ← List.append_assoc, ← List.append_assoc]
    exact right_append size
  unfold fetchFileRequest
  rw [fetchUids_fileFrame data mine, Exec.bind_ok]
  simp only [name, fromLocal8Bit_nameField, DataStream.readWord_ofWord]

theorem fetchFilePartRequest_fileFrame
    (data : r.receivedData = Buffer.ofWord toUid ++ (Buffer.ofWord uid ++ rest))
    (mine : r.uid = toUid) :
    r.fetchFilePartRequest = .ok { r with
      fromUid := uid
      toFilepart := rest } := by
  have part : right r.receivedData
      (r.receivedData.length - uidByteLength * 2) = rest := by
    rw [data, ← List.append_assoc]
    apply right_append
    simp only [List.length_append, Buffer.length_ofWord,
      uidByteLength]
    omega
  unfold fetchFilePartRequest
  rw [fetchUids_fileFrame data mine, Exec.bind_ok]
  simp only [part]

/-! Sending. -/

variable {c c' : TcpClient}

theorem lt_ofNat {first second : Nat} (less : first < second)
    (small : second < 4294967296) :
    UInt32.ofNat first < UInt32.ofNat second := by
  rw [UInt32.lt_iff_toNat_lt, UInt32.toNat_ofNat', UInt32.toNat_ofNat',
    Nat.mod_eq_of_lt (by omega), Nat.mod_eq_of_lt (by omega)]
  exact less

theorem filePart_framed {toUid uid : Uid} {part : Buffer}
    (fits : part.length ≤ filepartMaxSize) :
    (filePart toUid uid part).header.length.toNat =
      sizeofHeader + (filePart toUid uid part).data.length := by
  have announced : (filePart toUid uid part).header.length.toNat =
      (8 + part.length + 4) % 2 ^ 16 := UInt16.toNat_ofNat'
  have size : (filePart toUid uid part).data.length = 8 + part.length := by
    simp only [filePart, fileFrame, List.length_append, Buffer.length_ofWord]
    omega
  rw [announced, size, sizeofHeader]
  rw [filepartMaxSize] at fits
  omega

theorem fileRequest_framed {toUid uid : Uid} {filesize : UInt32}
    {filename : QString} (short : (host.toLocal8Bit filename).length ≤ 64) :
    (fileRequest host toUid uid filesize filename).header.length.toNat =
      sizeofHeader +
        (fileRequest host toUid uid filesize filename).data.length := by
  have announced :
      (fileRequest host toUid uid filesize filename).header.length.toNat =
        80 := rfl
  rw [announced]
  simp only [fileRequest, fileFrame, nameField, List.length_append,
    Buffer.length_ofWord, List.length_replicate, sizeofHeader]
  omega

theorem sendParts_completes {reads : List Buffer} {cnt : Nat}
    (opened : c.isOpen = true)
    (parts : ∀ part ∈ reads, part ≠ [] ∧ part.length ≤ filepartMaxSize)
    (small : cnt + reads.flatten.length < 4294967296)
    (size : c.toFilesize = UInt32.ofNat (cnt + reads.flatten.length)) :
    ∃ c', sendParts c (UInt32.ofNat cnt) reads = .ok (c.toFilesize, c') ∧
      partsSent c.toFilesize (UInt32.ofNat cnt) reads = reads := by
  induction reads generalizing c cnt with
  | nil =>
      have all : UInt32.ofNat cnt = c.toFilesize := by
        rw [size]
        rfl
      exact ⟨_, by rw [sendParts, all], rfl⟩
  | cons part reads induction =>
      obtain ⟨some, fits⟩ := parts part (List.mem_cons_self ..)
      have positive : 0 < part.length := List.length_pos_iff.mpr some
      rw [List.flatten_cons, List.length_append, ← Nat.add_assoc] at small size
      have more : UInt32.ofNat cnt < c.toFilesize := by
        rw [size]
        exact lt_ofNat (by omega) small
      have next : UInt32.ofNat cnt + UInt32.ofNat part.length =
          UInt32.ofNat (cnt + part.length) := (UInt32.ofNat_add _ _).symm
      have sent : ({ c with toFilepart := part }.composeFilePartRequest
          ).sendWholeFrame = .ok ({ c with toFilepart := part }.delivered
            (filePart c.toUid c.uid part)) := by
        rw [composeFilePartRequest_eq]
        exact sendWholeFrame_eq.mpr ⟨filePart_framed fits, opened, rfl⟩
      obtain ⟨c', completed, all⟩ := @induction
        ({ c with toFilepart := part }.delivered
          (filePart c.toUid c.uid part)) (cnt + part.length) opened
        (fun other member => parts other (List.mem_cons_of_mem part member))
        small size
      refine ⟨c', ?_, ?_⟩
      · rw [sendParts, if_pos more]
        dsimp only
        rw [if_neg (by omega), sent, Exec.bind_ok, next]
        exact completed
      · rw [partsSent, if_pos ⟨more, some⟩, next]
        exact congrArg (part :: ·) all

theorem sendFile_completes {filename : QString} {reads : List Buffer}
    (opened : c.isOpen = true) (named : filename ≠ [])
    (short : (host.toLocal8Bit filename).length ≤ 64)
    (parts : ∀ part ∈ reads, part ≠ [] ∧ part.length ≤ filepartMaxSize)
    (small : reads.flatten.length < 4294967296) :
    ∃ c', c.sendFile host ⟨filename, true, reads.flatten.length, reads⟩ =
        .ok c' ∧
      c'.sent = c.sent ++ (fileRequest host c.toUid c.uid
        (UInt32.ofNat reads.flatten.length) filename ::
          reads.map (filePart c.toUid c.uid)).map Message.wire := by
  have size : UInt32.ofNat reads.flatten.length =
      UInt32.ofNat (0 + reads.flatten.length) := by rw [Nat.zero_add]
  have requested : ∃ middle : TcpClient,
      (do
        let c ← { { c with fromUid := c.uid }.setToFilename filename with
          toFilesize := UInt32.ofNat reads.flatten.length }.composeFileRequest
            host
        c.sendWholeFrame) = .ok middle ∧ middle.isOpen = true ∧
      middle.toFilesize = UInt32.ofNat reads.flatten.length := by
    have composed := @composeFileRequest_eq host
      { { c with fromUid := c.uid }.setToFilename filename with
        toFilesize := UInt32.ofNat reads.flatten.length } named
    rw [composed, Exec.bind_ok]
    exact ⟨_, sendWholeFrame_eq.mpr ⟨fileRequest_framed short, opened, rfl⟩,
      opened, rfl⟩
  obtain ⟨middle, requested, ready, announced⟩ := requested
  obtain ⟨c', completed, all⟩ := @sendParts_completes middle reads 0 ready
    parts (by omega) (announced.trans size)
  have framed : c.sendFileFrames host
      ⟨filename, true, reads.flatten.length, reads⟩ =
        .ok (middle.toFilesize, c') := by
    obtain ⟨composed, first, second⟩ := Exec.of_bind_ok requested
    unfold sendFileFrames
    rw [Exec.require_of rfl, Exec.bind_ok]
    dsimp only
    rw [first, Exec.bind_ok, second, Exec.bind_ok]
    exact completed
  obtain ⟨same, sends⟩ := sendFileFrames_sends framed
  refine ⟨c', ?_, ?_⟩
  · have whole : middle.toFilesize = c'.toFilesize :=
      announced.trans same.symm
    rw [sendFile, framed, Exec.bind_ok]
    dsimp only
    rw [Exec.require_of whole, Exec.bind_ok]
  · rw [announced] at all
    rw [sends.sent]
    exact congrArg (fun parts => c.sent ++ (fileRequest host c.toUid c.uid
      (UInt32.ofNat reads.flatten.length) filename ::
        parts.map (filePart c.toUid c.uid)).map Message.wire) all

/-! Receiving. -/

def forwarded (type : UInt8) (frame : Message) : Message :=
  { frame with header := { frame.header with type := type } }

theorem forwarded_whole (type : UInt8) {frame : Message}
    (whole : frame.header.length.toNat = sizeofHeader + frame.data.length) :
    (forwarded type frame).header.length.toNat =
      (forwarded type frame).data.length + sizeofHeader :=
  whole.trans (Nat.add_comm _ _)

/-- The file that is open, and what has been written to it. -/
structure Receives (r : TcpClient) (toUid : Uid) (name : QString)
    (size : Nat) (bytes : Buffer) (older : List WrittenFile) : Prop where
  uid : r.uid = toUid
  fileName : r.file.fileName = name
  isOpen : r.file.isOpen = true ↔ bytes.length < size ∨ size = 0
  fileSize : r.fileSize = UInt32.ofNat size
  fileRecvCnt : r.fileRecvCnt = UInt32.ofNat bytes.length
  written : r.written = ⟨name, bytes⟩ :: older

variable {r' : TcpClient} {name : QString} {size : Nat} {bytes part : Buffer}
  {older : List WrittenFile}

theorem Receives.of_sameFile (receives : r.Receives toUid name size bytes older)
    (same : SameFile r r') : r'.Receives toUid name size bytes older where
  uid := same.uid.trans receives.uid
  fileName := by rw [same.file, receives.fileName]
  isOpen := by rw [same.file, receives.isOpen]
  fileSize := same.fileSize.trans receives.fileSize
  fileRecvCnt := same.fileRecvCnt.trans receives.fileRecvCnt
  written := same.written.trans receives.written

theorem parseFileRequest_receives {c r : TcpClient}
    (kind : c.receivedHeader.subType = 0x00)
    (fetched : c.fetchFileRequest host = .ok r)
    (announced : r.toFilesize = UInt32.ofNat size)
    (opens : host.writable r.toFilename = true) :
    ∃ r', c.parseFileRequest host = .ok r' ∧
      r'.Receives r.uid r.toFilename size [] r.written := by
  unfold parseFileRequest
  rw [Exec.require_of kind, Exec.bind_ok, fetched, Exec.bind_ok]
  refine ⟨_, rfl, ⟨rfl, rfl, ?_, announced, rfl, ?_⟩⟩
  · have some : 0 < size ∨ size = 0 := by omega
    exact ⟨fun _ => some, fun _ => opens⟩
  · dsimp only
    rw [if_pos opens]

theorem parseHeader_fileRequest (host : Host) (now : Int) {filename : QString}
    (mine : r.uid = toUid) (short : (host.toLocal8Bit filename).length ≤ 64)
    (opens : host.writable (host.fromLocal8Bit
      (host.toLocal8Bit filename)) = true) :
    ∃ r', r.parseHeader host now (forwarded 0xA7 (fileRequest host toUid uid
        (UInt32.ofNat size) filename)) = .ok r' ∧
      r'.Receives toUid (host.fromLocal8Bit (host.toLocal8Bit filename)) size
        [] r.written := by
  have whole := @fileRequest_framed host toUid uid (UInt32.ofNat size)
    filename short
  have fetched := @fetchFileRequest_fileFrame host (r.holding (forwarded 0xA7
    (fileRequest host toUid uid (UInt32.ofNat size) filename))) toUid uid
    (UInt32.ofNat size) filename rfl mine short
  have found : handlerOf (forwarded 0xA7 (fileRequest host toUid uid
      (UInt32.ofNat size) filename)).header.type = some .parseFileRequest := rfl
  have kind : (r.holding (forwarded 0xA7 (fileRequest host toUid uid
      (UInt32.ofNat size) filename))).receivedHeader.subType = 0x00 := rfl
  obtain ⟨r', parsed, receives⟩ :=
    parseFileRequest_receives kind fetched rfl opens
  rw [parseHeader_eq (forwarded_whole 0xA7 whole) found]
  exact ⟨r', parsed, mine ▸ receives⟩

def taking (r : TcpClient) (frame : Message) (uid : Uid) (part : Buffer) :
    TcpClient :=
  { r.holding frame with
    fromUid := uid
    toFilepart := part }

theorem parseHeader_filePart {host : Host} {now : Int} (mine : r.uid = toUid)
    (fits : part.length ≤ filepartMaxSize) :
    r.parseHeader host now (forwarded 0xA9 (filePart toUid uid part)) = (do
      Exec.require (r.file.isOpen = true) .assertion
      (r.taking (forwarded 0xA9 (filePart toUid uid part)) uid
        part).writePart.countPart) := by
  have whole := @filePart_framed toUid uid part fits
  have fetched := @fetchFilePartRequest_fileFrame (r.holding (forwarded 0xA9
    (filePart toUid uid part))) toUid uid part rfl mine
  have found : handlerOf (forwarded 0xA9 (filePart toUid uid
      part)).header.type = some .parseFilePartRequest := rfl
  have kind : (r.holding (forwarded 0xA9 (filePart toUid uid
      part))).receivedHeader.subType = 0x00 := rfl
  rw [parseHeader_eq (forwarded_whole 0xA9 whole) found, Handler.run,
    parseFilePartRequest, Exec.require_of kind, Exec.bind_ok, fetched,
    Exec.bind_ok]
  rfl

theorem writePart_taking {file : WrittenFile} (frame : Message) (uid : Uid)
    (part : Buffer) (last : r.written = file :: older) :
    (r.taking frame uid part).writePart = { r.taking frame uid part with
      written := ⟨file.name, file.bytes ++ part⟩ :: older } := by
  have same : (r.taking frame uid part).written = file :: older := last
  unfold writePart
  rw [same]
  rfl

theorem countPart_more {c : TcpClient}
    (more : c.fileRecvCnt + UInt32.ofNat c.toFilepart.length < c.fileSize) :
    c.countPart = .ok { c with
      fileRecvCnt := c.fileRecvCnt + UInt32.ofNat c.toFilepart.length } :=
  if_neg (UInt32.not_le.mpr more)

theorem countPart_last {c : TcpClient}
    (last : c.fileRecvCnt + UInt32.ofNat c.toFilepart.length = c.fileSize) :
    c.countPart = .ok { c with
      fileRecvCnt := c.fileSize
      file := { c.file with isOpen := false } } := by
  unfold countPart
  dsimp only
  rw [if_pos (by rw [last]; exact UInt32.le_refl _), Exec.require_of last,
    Exec.bind_ok, last]

theorem countPart_written {c c' : TcpClient}
    (counted : c.countPart = .ok c') :
    c'.written = c.written ∧ c'.uid = c.uid := by
  unfold countPart at counted
  dsimp only at counted
  split at counted
  · obtain ⟨_, _, made⟩ := Exec.of_bind_ok counted
    cases made
    exact ⟨rfl, rfl⟩
  · cases counted
    exact ⟨rfl, rfl⟩

theorem writePart_uid (c : TcpClient) : c.writePart.uid = c.uid := by
  unfold writePart
  split <;> rfl

theorem parseHeader_filePart_written {host : Host} {now : Int}
    {file : WrittenFile} (mine : r.uid = toUid)
    (fits : part.length ≤ filepartMaxSize)
    (parsed : r.parseHeader host now
      (forwarded 0xA9 (filePart toUid uid part)) = .ok r') :
    r'.uid = toUid ∧ (r.written = file :: older →
      r'.written = ⟨file.name, file.bytes ++ part⟩ :: older) := by
  rw [parseHeader_filePart mine fits] at parsed
  obtain ⟨_, _, counted⟩ := Exec.of_bind_ok parsed
  obtain ⟨written, user⟩ := countPart_written counted
  constructor
  · exact user.trans ((writePart_uid _).trans mine)
  · intro last
    rw [written, writePart_taking _ _ _ last]

theorem parseHeader_filePart_receives {host : Host} {now : Int}
    (receives : r.Receives toUid name size bytes older)
    (some : part ≠ []) (fits : part.length ≤ filepartMaxSize)
    (within : bytes.length + part.length ≤ size) (small : size < 4294967296) :
    ∃ r', r.parseHeader host now (forwarded 0xA9 (filePart toUid uid part)) =
        .ok r' ∧ r'.Receives toUid name size (bytes ++ part) older := by
  have positive : 0 < part.length := List.length_pos_iff.mpr some
  have opened : r.file.isOpen = true :=
    receives.isOpen.mpr (.inl (by omega))
  rw [parseHeader_filePart receives.uid fits, Exec.require_of opened,
    Exec.bind_ok, writePart_taking _ _ _ receives.written]
  have counted : r.fileRecvCnt + UInt32.ofNat part.length =
      UInt32.ofNat (bytes ++ part).length := by
    rw [receives.fileRecvCnt, List.length_append, UInt32.ofNat_add]
  have size' : (bytes ++ part).length = bytes.length + part.length :=
    List.length_append
  cases Nat.eq_or_lt_of_le within with
  | inl last =>
      have all : r.fileRecvCnt + UInt32.ofNat part.length = r.fileSize := by
        rw [counted, receives.fileSize, size', last]
      have closed : ¬ ((bytes ++ part).length < size ∨ size = 0) := by omega
      exact ⟨_, countPart_last all, ⟨receives.uid, receives.fileName,
        ⟨fun impossible => (nomatch impossible),
          fun remains => absurd remains closed⟩, receives.fileSize,
        all ▸ counted, rfl⟩⟩
  | inr more =>
      have below : r.fileRecvCnt + UInt32.ofNat part.length < r.fileSize := by
        rw [counted, receives.fileSize, size']
        exact lt_ofNat more small
      have remains : (bytes ++ part).length < size ∨ size = 0 :=
        .inl (size' ▸ more)
      exact ⟨_, countPart_more below, ⟨receives.uid, receives.fileName,
        ⟨fun _ => remains, fun _ => opened⟩, receives.fileSize, counted, rfl⟩⟩

/-! The frames with files among the events of a receiver. -/

def run (host : Host) (r : TcpClient) (events : List Event) : Exec TcpClient :=
  events.foldlM (next host) r

def asFileFrame : Event → Option Message
  | .frame _ frame =>
      if frame.header.type ∈ fileTypes then some frame else none
  | _ => none

def fileFrames (events : List Event) : List Message :=
  events.filterMap asFileFrame

/-- An event that does not make the client another user's. -/
def KeepsUser (uid : Uid) (event : Event) : Prop :=
  ∀ now frame, event = .frame now frame → frame.header.type = 0x90 →
    (DataStream.readWord frame.data).1 = uid

theorem run_cons (host : Host) (r : TcpClient) (event : Event)
    (events : List Event) :
    run host r (event :: events) = (r.next host event >>= fun r =>
      run host r events) := rfl

theorem asFileFrame_eq_some {event : Event} {frame : Message}
    (file : asFileFrame event = some frame) :
    ∃ now, event = .frame now frame := by
  cases event with
  | frame now other =>
      by_cases member : other.header.type ∈ fileTypes
      · rw [asFileFrame, if_pos member] at file
        cases file
        exact ⟨now, rfl⟩
      · rw [asFileFrame, if_neg member] at file
        cases file
  | _ => cases file

theorem run_append (host : Host) (r : TcpClient) (early late : List Event) :
    run host r (early ++ late) = (run host r early >>= fun r =>
      run host r late) :=
  List.foldlM_append

theorem next_other {event : Event} (other : asFileFrame event = none)
    (keeps : KeepsUser r.uid event) (moved : r.next host event = .ok r') :
    SameFile r r' := by
  apply next_sameFile moved
  intro now frame same
  refine ⟨?_, keeps now frame same⟩
  intro member
  rw [same, asFileFrame, if_pos member] at other
  cases other

/-- What holds after a run of a receiver depends on the frames with files in
it, if each of these and everything else keeps it so. -/
theorem run_files {property : List Message → TcpClient → Prop}
    {expected done : List Message} {events : List Event}
    (user : ∀ done r, property done r → r.uid = toUid)
    (kept : ∀ done r r', property done r → SameFile r r' → property done r')
    (file : ∀ done now frame r r', done ++ [frame] <+: expected →
      property done r → r.parseHeader host now frame = .ok r' →
      property (done ++ [frame]) r')
    (keeps : ∀ event ∈ events, KeepsUser toUid event)
    (ahead : done ++ fileFrames events <+: expected)
    (holds : property done r) (completed : run host r events = .ok r') :
    property (done ++ fileFrames events) r' := by
  induction events generalizing done r with
  | nil =>
      cases completed
      exact (List.append_nil done).symm ▸ holds
  | cons event events induction =>
      rw [run_cons] at completed
      obtain ⟨middle, moved, rest⟩ := Exec.of_bind_ok completed
      have later : ∀ event ∈ events, KeepsUser toUid event :=
        fun other member => keeps other (List.mem_cons_of_mem event member)
      cases kind : asFileFrame event with
      | none =>
          rw [fileFrames, List.filterMap_cons_none kind] at ahead ⊢
          have mine := keeps event (List.mem_cons_self ..)
          rw [← user done r holds] at mine
          exact induction later ahead
            (kept done r middle holds (next_other kind mine moved)) rest
      | some frame =>
          rw [fileFrames, List.filterMap_cons_some kind,
            List.append_cons] at ahead ⊢
          obtain ⟨now, rfl⟩ := asFileFrame_eq_some kind
          have first : done ++ [frame] <+: expected :=
            (List.prefix_append _ _).trans ahead
          exact induction later ahead
            (file done now frame r middle first holds moved) rest

end TcpClient

end GroupChat.Client
