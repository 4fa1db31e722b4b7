import GroupChat.System.Sharing

namespace GroupChat.System

/-! Two clients that send a file each to the same receiver.  The frames are in
the order in which the server forwards them, each with its side. -/

open Client
open Server hiding Uid machine Record

variable {ω : Type} {env : Env ω} {host : Host}

def sentBy (side : Bool) (merged : List (Bool × Message)) : List Message :=
  (merged.filter fun sent => sent.1 = side).map Prod.snd

def tagged (side : Bool) (frames : List Message) : List (Bool × Message) :=
  frames.map fun frame => (side, frame)

theorem sentBy_append (side : Bool) (first second : List (Bool × Message)) :
    sentBy side (first ++ second) = sentBy side first ++ sentBy side second := by
  rw [sentBy, List.filter_append, List.map_append]
  rfl

theorem sentBy_cons_self (side : Bool) (frame : Message)
    (merged : List (Bool × Message)) :
    sentBy side ((side, frame) :: merged) = frame :: sentBy side merged := by
  rw [sentBy, List.filter_cons_of_pos (by simp), List.map_cons]
  rfl

theorem sentBy_cons_not (side : Bool) (frame : Message)
    (merged : List (Bool × Message)) :
    sentBy side ((!side, frame) :: merged) = sentBy side merged := by
  rw [sentBy, List.filter_cons_of_neg (by simp)]
  rfl

theorem sentBy_split {side : Bool} {merged : List (Bool × Message)}
    {frame : Message} {frames : List Message}
    (sent : sentBy side merged = frame :: frames) :
    ∃ early late, merged = tagged (!side) early ++ (side, frame) :: late ∧
      sentBy side late = frames := by
  induction merged with
  | nil => cases sent
  | cons entry merged induction =>
      obtain ⟨other, front⟩ := entry
      by_cases own : other = side
      · subst own
        rw [sentBy_cons_self] at sent
        cases sent
        exact ⟨[], merged, rfl, rfl⟩
      · cases Bool.eq_not_of_ne own
        rw [sentBy_cons_not] at sent
        obtain ⟨early, late, rfl, rest⟩ := induction sent
        exact ⟨front :: early, late, rfl, rest⟩

theorem sentBy_tagged (side : Bool) (frames : List Message) :
    sentBy side (tagged side frames) = frames := by
  induction frames with
  | nil => rfl
  | cons frame frames induction =>
      rw [tagged, List.map_cons, sentBy_cons_self]
      exact congrArg (frame :: ·) induction

theorem tagged_of_sentBy {side : Bool} {merged : List (Bool × Message)}
    (none : sentBy (!side) merged = []) :
    merged = tagged side (sentBy side merged) := by
  induction merged with
  | nil => rfl
  | cons entry merged induction =>
      obtain ⟨other, front⟩ := entry
      by_cases own : other = side
      · subst own
        have rest : sentBy (!other) merged = [] := by
          have same := sentBy_cons_not (!other) front merged
          rw [Bool.not_not] at same
          exact same.symm.trans none
        rw [sentBy_cons_self, tagged, List.map_cons]
        exact congrArg ((other, front) :: ·) (induction rest)
      · cases Bool.eq_not_of_ne own
        rw [sentBy_cons_self] at none
        cases none

/-- All frames of one side come before those of the other. -/
def Sequential (uploads : Bool → Upload host)
    (merged : List (Bool × Message)) : Prop :=
  ∃ first, merged = tagged first (uploads first).frames ++
    tagged (!first) (uploads !first).frames

/-- How the frames reach the receiver. -/
def mergedArrivals (merged : List (Bool × Message)) : List Message :=
  merged.map fun sent => received (forwardMsg sent.2)

def Upload.written (upload : Upload host) : WrittenFile :=
  ⟨upload.source.filename, upload.content⟩

/-- Whatever else happens at the receiver, it takes each of the frames, and has
written both files in the end. -/
def Intact (uploads : Bool → Upload host) (toUid : Client.Uid)
    (merged : List (Bool × Message)) : Prop :=
  ∀ (r r' : TcpClient) (early late : List Client.Event), r.uid = toUid →
    (∀ event ∈ early ++ late, TcpClient.KeepsUser toUid event) →
    TcpClient.fileFrames (early ++ late) = mergedArrivals merged →
    TcpClient.run host r early = .ok r' →
    (∀ event rest frame, late = event :: rest →
      TcpClient.asFileFrame event = some frame →
      ∃ r'', r'.next host event = .ok r'') ∧
    (TcpClient.fileFrames late = [] →
      ∃ first frames, merged = (first, (uploads first).request) :: frames ∧
        r'.written = (uploads !first).written :: (uploads first).written ::
          r.written)

theorem mergedArrivals_append (first second : List (Bool × Message)) :
    mergedArrivals (first ++ second) =
      mergedArrivals first ++ mergedArrivals second :=
  List.map_append

theorem mergedArrivals_tagged (side : Bool) (upload : Upload host) :
    mergedArrivals (tagged side upload.frames) = upload.arrivals := by
  rw [mergedArrivals, tagged, List.map_map]
  rfl

theorem Upload.Progress.written {upload : Upload host} {r r' : TcpClient}
    (progress : upload.Progress r r' upload.arrivals) :
    r'.written = upload.written :: r.written := by
  have receives := progress.receives upload.source.reads.length (by
    rw [Upload.arrivals_eq, List.length_cons, List.length_map])
  rw [List.take_length, upload.read.whole] at receives
  exact receives.written

/-- A receiver of two files, one after the other. -/
inductive InTurn (first second : Upload host) (r r' : TcpClient)
    (done : List Message) : Prop
  | one (ahead : done <+: first.arrivals) (more : done ≠ first.arrivals)
      (progress : first.Progress r r' done)
  | two (middle : TcpClient) (rest : List Message)
      (all : done = first.arrivals ++ rest)
      (mine : middle.uid = first.client.toUid)
      (written : middle.written = first.written :: r.written)
      (progress : second.Progress middle r' rest)

namespace InTurn

variable {first second : Upload host} {r r' : TcpClient}
  {done : List Message}

theorem start (r : TcpClient) : InTurn first second r r [] := by
  refine .one (List.nil_prefix) ?_ ⟨fun _ => .refl r, fun _ one => nomatch one⟩
  rw [Upload.arrivals_eq]
  exact fun none => nomatch none

theorem of_sameFile {r'' : TcpClient} (turn : InTurn first second r r' done)
    (same : TcpClient.SameFile r' r'') : InTurn first second r r'' done := by
  cases turn with
  | one ahead more progress =>
      exact .one ahead more ⟨fun none => (progress.untouched none).trans same,
        fun parts counted => (progress.receives parts counted).of_sameFile same⟩
  | two middle rest all mine written progress =>
      exact .two middle rest all mine written
        ⟨fun none => (progress.untouched none).trans same,
        fun parts counted => (progress.receives parts counted).of_sameFile same⟩

theorem next {frame : Message} (now : Int)
    (mine : r.uid = first.client.toUid)
    (same : second.client.toUid = first.client.toUid)
    (opens : host.writable first.source.filename = true)
    (opens' : host.writable second.source.filename = true)
    (turn : InTurn first second r r' done)
    (ahead : done ++ [frame] <+: first.arrivals ++ second.arrivals) :
    ∃ r'', r'.parseHeader host now frame = .ok r'' ∧
      r''.uid = first.client.toUid ∧
      InTurn first second r r'' (done ++ [frame]) := by
  cases turn with
  | one part more progress =>
      have shorter : (done ++ [frame]).length ≤ first.arrivals.length := by
        have lengths := part.length_le
        have different : done.length ≠ first.arrivals.length :=
          fun all => more (part.eq_of_length all)
        rw [List.length_append, List.length_singleton]
        omega
      have ahead : done ++ [frame] <+: first.arrivals :=
        List.prefix_of_prefix_length_le ahead (List.prefix_append _ _) shorter
      obtain ⟨r'', parsed, progressed⟩ := progress.next now mine opens ahead
      have user := (progressed.receives done.length (by simp)).uid
      refine ⟨r'', parsed, user, ?_⟩
      by_cases all : done ++ [frame] = first.arrivals
      · rw [all] at progressed ⊢
        exact .two r'' [] (List.append_nil _).symm user progressed.written
          ⟨fun _ => .refl r'', fun _ one => nomatch one⟩
      · exact .one ahead all progressed
  | two middle rest all user written progress =>
      subst all
      rw [List.append_assoc, List.prefix_append_right_inj] at ahead
      obtain ⟨r'', parsed, progressed⟩ :=
        progress.next now (user.trans same.symm) opens' ahead
      have user' := (progressed.receives rest.length (by simp)).uid
      exact ⟨r'', parsed, user'.trans same, .two middle (rest ++ [frame])
        (List.append_assoc _ _ _) user written progressed⟩

theorem written (turn : InTurn first second r r'
      (first.arrivals ++ second.arrivals)) :
    r'.written = second.written :: first.written :: r.written := by
  cases turn with
  | one ahead more _ =>
      have longer := ahead.length_le
      rw [List.length_append, Upload.arrivals_eq second,
        List.length_cons] at longer
      omega
  | two middle rest all _ written progress =>
      rw [← List.append_cancel_left all] at progress
      rw [progress.written, written]

end InTurn

theorem run_inTurn {first second : Upload host} {r r' : TcpClient}
    {events : List Client.Event}
    (mine : r.uid = first.client.toUid)
    (same : second.client.toUid = first.client.toUid)
    (opens : host.writable first.source.filename = true)
    (opens' : host.writable second.source.filename = true)
    (keeps : ∀ event ∈ events, TcpClient.KeepsUser first.client.toUid event)
    (ahead : TcpClient.fileFrames events <+:
      first.arrivals ++ second.arrivals)
    (completed : TcpClient.run host r events = .ok r') :
    InTurn first second r r' (TcpClient.fileFrames events) := by
  have step := @TcpClient.run_files host r first.client.toUid r'
    (fun done r' => r'.uid = first.client.toUid ∧
      InTurn first second r r' done)
    (first.arrivals ++ second.arrivals) [] events (fun _ _ holds => holds.1)
    ?_ ?_ keeps ahead ⟨mine, .start r⟩ completed
  · exact step.2
  · intro done middle after holds unchanged
    obtain ⟨user, turn⟩ := holds
    exact ⟨unchanged.uid.trans user, turn.of_sameFile unchanged⟩
  · intro done now frame middle after following holds parsed
    obtain ⟨_, turn⟩ := holds
    obtain ⟨after', parsed', user, turned⟩ :=
      turn.next now mine same opens opens' following
    cases parsed.symm.trans parsed'
    exact ⟨user, turned⟩

theorem Sequential.intact {uploads : Bool → Upload host}
    {toUid : Client.Uid} {merged : List (Bool × Message)}
    (sequential : Sequential uploads merged)
    (same : ∀ side, (uploads side).client.toUid = toUid)
    (opens : ∀ side, host.writable (uploads side).source.filename = true) :
    Intact uploads toUid merged := by
  obtain ⟨first, rfl⟩ := sequential
  intro r r' early late mine keeps arrived completed
  have mine : r.uid = (uploads first).client.toUid :=
    mine.trans (same first).symm
  have one : (uploads !first).client.toUid = (uploads first).client.toUid :=
    (same !first).trans (same first).symm
  rw [mergedArrivals_append, mergedArrivals_tagged,
    mergedArrivals_tagged] at arrived
  rw [← same first] at keeps
  have split : TcpClient.fileFrames (early ++ late) =
      TcpClient.fileFrames early ++ TcpClient.fileFrames late :=
    List.filterMap_append
  have turn := run_inTurn mine one (opens first) (opens !first)
    (fun event member => keeps event (List.mem_append_left late member))
    ⟨_, split.symm.trans arrived⟩ completed
  constructor
  · intro event rest frame following file
    obtain ⟨now, rfl⟩ := TcpClient.asFileFrame_eq_some file
    have ahead : TcpClient.fileFrames early ++ [frame] <+:
        (uploads first).arrivals ++ (uploads !first).arrivals := by
      refine ⟨TcpClient.fileFrames rest, ?_⟩
      rw [← arrived, split, following, List.append_assoc]
      exact congrArg _ (List.filterMap_cons_some file).symm
    obtain ⟨r'', parsed, _⟩ :=
      turn.next now mine one (opens first) (opens !first) ahead
    exact ⟨r'', parsed⟩
  · intro none
    rw [none, List.append_nil, arrived] at split
    exact ⟨first, _, rfl, (split.symm ▸ turn).written⟩

theorem forwardMsg_type (frame : Message) :
    (received (forwardMsg frame)).header.type ∈ TcpClient.fileTypes := by
  change forwardType frame.header.type ∈ TcpClient.fileTypes
  unfold forwardType
  split <;> decide

theorem fileFrames_arriving (merged : List (Bool × Message)) :
    TcpClient.fileFrames (arriving (mergedArrivals merged)) =
      mergedArrivals merged := by
  induction merged with
  | nil => rfl
  | cons sent merged induction =>
      have file : TcpClient.asFileFrame (.frame 0
          (received (forwardMsg sent.2))) =
          some (received (forwardMsg sent.2)) :=
        if_pos (forwardMsg_type sent.2)
      exact (List.filterMap_cons_some file).trans
        (congrArg (_ :: ·) induction)

theorem keepsUser_arriving (toUid : Client.Uid)
    (merged : List (Bool × Message)) :
    ∀ event ∈ arriving (mergedArrivals merged),
      TcpClient.KeepsUser toUid event := by
  intro event member now frame same type
  obtain ⟨_, arrived, rfl⟩ := List.mem_map.mp member
  obtain ⟨sent, _, rfl⟩ := List.mem_map.mp arrived
  cases same
  have file := forwardMsg_type sent.2
  rw [type] at file
  exact absurd file (by decide)

/-- A receiver that takes each of the frames takes them all. -/
theorem Intact.completes {uploads : Bool → Upload host} {toUid : Client.Uid}
    {merged : List (Bool × Message)} (intact : Intact uploads toUid merged)
    {r : TcpClient} (mine : r.uid = toUid) :
    ∃ r', TcpClient.run host r (arriving (mergedArrivals merged)) =
      .ok r' := by
  have onwards : ∀ (late early : List Client.Event) (middle : TcpClient),
      arriving (mergedArrivals merged) = early ++ late →
      TcpClient.run host r early = .ok middle →
      ∃ r', TcpClient.run host r (arriving (mergedArrivals merged)) =
        .ok r' := by
    intro late
    induction late with
    | nil =>
        intro early middle whole completed
        rw [whole, List.append_nil]
        exact ⟨middle, completed⟩
    | cons event late induction =>
        intro early middle whole completed
        have keeps := keepsUser_arriving toUid merged
        have files := fileFrames_arriving merged
        rw [whole] at keeps files
        have member : event ∈ arriving (mergedArrivals merged) := by
          rw [whole]
          exact List.mem_append_right early (List.mem_cons_self ..)
        obtain ⟨frame, arrived, rfl⟩ := List.mem_map.mp member
        obtain ⟨sent, _, rfl⟩ := List.mem_map.mp arrived
        obtain ⟨takes, _⟩ := intact r middle early _ mine keeps files completed
        obtain ⟨next, moved⟩ := takes _ late _ rfl
          (if_pos (forwardMsg_type sent.2))
        apply induction (early ++ [_]) next
        · rw [whole, List.append_assoc]
          rfl
        · rw [TcpClient.run_append, completed, Exec.bind_ok,
            TcpClient.run_cons, moved]
          rfl
  exact onwards _ [] r rfl rfl

/-- What a frame with a part carries. -/
def bodyOf (frame : Message) : Buffer := frame.data.drop 8

theorem bodyOf_filePart (toUid uid : Client.Uid) (part : Buffer) :
    bodyOf (TcpClient.filePart toUid uid part) = part := by
  unfold bodyOf TcpClient.filePart TcpClient.fileFrame
  rw [← List.append_assoc]
  exact List.drop_left' (by simp)

namespace Upload

variable {upload : Upload host} {r r' : TcpClient} {frame : Message}

/-- The frames behind the request. -/
def parts (upload : Upload host) : List Message :=
  upload.source.reads.map
    (TcpClient.filePart upload.client.toUid upload.client.uid)

theorem part_taken {now : Int} {file : WrittenFile}
    {older : List WrittenFile} (member : frame ∈ upload.parts)
    (mine : r.uid = upload.client.toUid)
    (parsed : r.parseHeader host now (received (forwardMsg frame)) = .ok r') :
    r'.uid = upload.client.toUid ∧ (r.written = file :: older →
      r'.written = ⟨file.name, file.bytes ++ bodyOf frame⟩ :: older) := by
  obtain ⟨part, read, rfl⟩ := List.mem_map.mp member
  rw [bodyOf_filePart]
  have same : received (forwardMsg (TcpClient.filePart upload.client.toUid
      upload.client.uid part)) = TcpClient.forwarded 0xA9
        (TcpClient.filePart upload.client.toUid upload.client.uid part) :=
    received_transfileMsg _ _
  rw [same] at parsed
  exact TcpClient.parseHeader_filePart_written mine
    (upload.read.parts part read).2 parsed

theorem request_taken {now : Int}
    (mine : r.uid = upload.client.toUid)
    (opens : host.writable upload.source.filename = true)
    (parsed : r.parseHeader host now (received (forwardMsg upload.request)) =
      .ok r') :
    r'.uid = upload.client.toUid ∧
      r'.written = ⟨upload.source.filename, []⟩ :: r.written := by
  have same : received (forwardMsg upload.request) =
      TcpClient.forwarded 0xA7 upload.request :=
    received_transfileMsg _ _
  obtain ⟨r'', parsed', receives⟩ := upload.next_request now mine opens
  rw [same] at parsed
  cases parsed.symm.trans parsed'
  exact ⟨receives.uid, receives.written⟩

theorem frame_taken {now : Int} (member : frame ∈ upload.frames)
    (mine : r.uid = upload.client.toUid)
    (opens : host.writable upload.source.filename = true)
    (parsed : r.parseHeader host now (received (forwardMsg frame)) = .ok r') :
    r'.uid = upload.client.toUid := by
  cases List.mem_cons.mp member with
  | inl first =>
      rw [first] at parsed
      exact (request_taken mine opens parsed).1
  | inr later => exact (@part_taken host upload r r' frame now ⟨[], []⟩ []
      later mine parsed).1

theorem flatten_parts (upload : Upload host) :
    (upload.parts.map bodyOf).flatten = upload.content := by
  have bodies : upload.parts.map bodyOf = upload.source.reads := by
    rw [parts, List.map_map]
    exact List.map_id'' (fun part => bodyOf_filePart _ _ part) _
  rw [bodies, upload.read.whole]

theorem body_of_part (member : frame ∈ upload.parts) :
    0 < (bodyOf frame).length := by
  obtain ⟨part, read, rfl⟩ := List.mem_map.mp member
  rw [bodyOf_filePart]
  exact List.length_pos_iff.mpr (upload.read.parts part read).1

end Upload

theorem mem_sentBy {side : Bool} {frame : Message}
    {merged : List (Bool × Message)} (member : (side, frame) ∈ merged) :
    frame ∈ sentBy side merged :=
  List.mem_map.mpr ⟨_, List.mem_filter.mpr ⟨member, by simp⟩, rfl⟩

theorem run_arriving_cons (r : TcpClient) (sent : Bool × Message)
    (merged : List (Bool × Message)) :
    TcpClient.run host r (arriving (mergedArrivals (sent :: merged))) =
      (r.parseHeader host 0 (received (forwardMsg sent.2)) >>= fun r =>
        TcpClient.run host r (arriving (mergedArrivals merged))) := rfl

section Merged

variable {uploads : Bool → Upload host} {toUid : Client.Uid}
  {merged : List (Bool × Message)} {r r' : TcpClient}

theorem run_user
    (same : ∀ side, (uploads side).client.toUid = toUid)
    (opens : ∀ side, host.writable (uploads side).source.filename = true)
    (frames : ∀ sent ∈ merged, sent.2 ∈ (uploads sent.1).frames)
    (mine : r.uid = toUid)
    (completed : TcpClient.run host r (arriving (mergedArrivals merged)) =
      .ok r') : r'.uid = toUid := by
  induction merged generalizing r with
  | nil =>
      cases completed
      exact mine
  | cons sent merged induction =>
      rw [run_arriving_cons] at completed
      obtain ⟨middle, parsed, rest⟩ := Exec.of_bind_ok completed
      have user := Upload.frame_taken (frames sent (List.mem_cons_self ..))
        (mine.trans (same sent.1).symm) (opens sent.1) parsed
      exact induction (fun other member =>
        frames other (List.mem_cons_of_mem sent member))
        (user.trans (same sent.1)) rest

/-- Parts of either file are all written to the one that was opened last. -/
theorem run_parts {file : WrittenFile} {older : List WrittenFile}
    (same : ∀ side, (uploads side).client.toUid = toUid)
    (parts : ∀ sent ∈ merged, sent.2 ∈ (uploads sent.1).parts)
    (mine : r.uid = toUid) (last : r.written = file :: older)
    (completed : TcpClient.run host r (arriving (mergedArrivals merged)) =
      .ok r') :
    r'.written = ⟨file.name, file.bytes ++
      (merged.map fun sent => bodyOf sent.2).flatten⟩ :: older := by
  induction merged generalizing r file with
  | nil =>
      cases completed
      rw [List.map_nil, List.flatten_nil, List.append_nil]
      exact last
  | cons sent merged induction =>
      rw [run_arriving_cons] at completed
      obtain ⟨middle, parsed, rest⟩ := Exec.of_bind_ok completed
      obtain ⟨user, written⟩ := Upload.part_taken
        (parts sent (List.mem_cons_self ..)) (mine.trans (same sent.1).symm)
        parsed
      rw [List.map_cons, List.flatten_cons, ← List.append_assoc]
      exact induction (fun other member =>
        parts other (List.mem_cons_of_mem sent member))
        (user.trans (same sent.1)) (written last) rest

theorem length_bodies (side : Bool) (merged : List (Bool × Message)) :
    (merged.map fun sent => bodyOf sent.2).flatten.length =
      ((sentBy side merged).map bodyOf).flatten.length +
        ((sentBy (!side) merged).map bodyOf).flatten.length := by
  induction merged with
  | nil => rfl
  | cons entry merged induction =>
      obtain ⟨other, frame⟩ := entry
      by_cases own : other = side
      · subst own
        have skip := sentBy_cons_not (!other) frame merged
        rw [Bool.not_not] at skip
        rw [sentBy_cons_self, skip]
        simp only [List.map_cons, List.flatten_cons, List.length_append,
          induction]
        omega
      · cases Bool.eq_not_of_ne own
        rw [sentBy_cons_self, sentBy_cons_not]
        simp only [List.map_cons, List.flatten_cons, List.length_append,
          induction]
        omega

theorem Intact.sequential (intact : Intact uploads toUid merged)
    (same : ∀ side, (uploads side).client.toUid = toUid)
    (opens : ∀ side, host.writable (uploads side).source.filename = true)
    (sent : ∀ side, sentBy side merged = (uploads side).frames) :
    Sequential uploads merged := by
  have frames : ∀ sent ∈ merged, sent.2 ∈ (uploads sent.1).frames :=
    fun entry member => sent entry.1 ▸ mem_sentBy member
  obtain ⟨r', completed⟩ := @Intact.completes host uploads toUid merged intact
    { uid := toUid } rfl
  obtain ⟨_, ends⟩ := intact { uid := toUid } r' _ [] rfl
    (by rw [List.append_nil]; exact keepsUser_arriving toUid merged)
    (by rw [List.append_nil]; exact fileFrames_arriving merged) completed
  obtain ⟨first, rest, front, written⟩ := ends rfl
  -- The frames from the second request on.
  obtain ⟨early, late, split, following⟩ := sentBy_split (sent !first)
  rw [Bool.not_not] at split
  have own : early ++ sentBy first late = (uploads first).frames := by
    have skip := sentBy_cons_not first (uploads !first).request late
    rw [← sent first, split, sentBy_append, sentBy_tagged, skip]
  cases early with
  | nil =>
      rw [front] at split
      simp [tagged] at split
  | cons request early =>
      have behind : early ++ sentBy first late = (uploads first).parts :=
        (List.cons.inj own).2
      have parts : ∀ sent ∈ late, sent.2 ∈ (uploads sent.1).parts := by
        intro entry member
        obtain ⟨side, frame⟩ := entry
        have listed := mem_sentBy member
        by_cases first' : side = first
        · subst first'
          rw [← behind]
          exact List.mem_append_right early listed
        · cases Bool.eq_not_of_ne first'
          rw [following] at listed
          exact listed
      rw [split, mergedArrivals_append, arriving, List.map_append,
        TcpClient.run_append] at completed
      obtain ⟨middle, opened, completed⟩ := Exec.of_bind_ok completed
      obtain ⟨r'', requested, completed⟩ := Exec.of_bind_ok completed
      have user : middle.uid = toUid := by
        apply @run_user host uploads toUid
          (tagged first (request :: early)) { uid := toUid } middle same opens
          (fun entry member => frames entry ?_) rfl opened
        rw [split]
        exact List.mem_append_left _ member
      obtain ⟨user', written'⟩ := Upload.request_taken
        (user.trans (same !first).symm) (opens !first) requested
      have all := run_parts same parts (user'.trans (same !first)) written'
        completed
      rw [written] at all
      have bodies : (uploads !first).content =
          (late.map fun sent => bodyOf sent.2).flatten :=
        congrArg WrittenFile.bytes (List.cons.inj all).1
      -- Nothing of the first file is left.
      have lengths := length_bodies first late
      rw [← bodies, following] at lengths
      have content := congrArg List.length (uploads !first).flatten_parts
      have none : sentBy first late = [] := by
        cases left : sentBy first late with
        | nil => rfl
        | cons frame others =>
            have member : frame ∈ (uploads first).parts := by
              rw [← behind, left]
              exact List.mem_append_right early (List.mem_cons_self ..)
            have some := Upload.body_of_part member
            rw [left, List.map_cons, List.flatten_cons,
              List.length_append] at lengths
            rw [Upload.parts] at content
            omega
      refine ⟨first, ?_⟩
      have late' := @tagged_of_sentBy (!first) late
        (by rw [Bool.not_not]; exact none)
      rw [none, List.append_nil] at own
      rw [split, ← own, late', following]
      rfl

end Merged

/-- Two files sent to the same receiver arrive intact exactly if all frames of
one are forwarded before those of the other. -/
theorem files_intact_iff (env : Env ω) (host : Host)
    (uploads : Bool → Upload host) (toUid : Client.Uid)
    (same : ∀ side, (uploads side).client.toUid = toUid)
    (opens : ∀ side, host.writable (uploads side).source.filename = true)
    (merged : List (Bool × Message))
    (sent : ∀ side, sentBy side merged = (uploads side).frames) :
    (∀ entry ∈ merged, Forwards env toUid entry.2) ∧
      (Intact uploads toUid merged ↔ Sequential uploads merged) := by
  refine ⟨?_, fun intact => intact.sequential same opens sent,
    fun sequential => sequential.intact same opens⟩
  intro entry member
  rw [← same entry.1]
  exact (uploads entry.1).forwards env entry.2
    (sent entry.1 ▸ mem_sentBy member)

def uploadJ : Upload Host.latin1 where
  client := { isOpen := true, uid := 3, toUid := 2 }
  source := ⟨.ofText "b.txt", true, 1, [[106]]⟩
  content := [106]
  opened := rfl
  named := ⟨rfl, by decide, by decide, by decide, by decide⟩
  read := ⟨rfl, rfl, by decide, rfl⟩
  small := by decide

def uploadsHiJ (side : Bool) : Upload Host.latin1 :=
  if side then uploadHi else uploadJ

theorem files_intact_in_turn : Intact uploadsHiJ 2
    (tagged true uploadHi.frames ++ tagged false uploadJ.frames) := by
  have same : ∀ side, (uploadsHiJ side).client.toUid = 2 := by decide
  have sent : ∀ side, sentBy side (tagged true uploadHi.frames ++
      tagged false uploadJ.frames) = (uploadsHiJ side).frames := by
    decide +kernel
  exact (files_intact_iff (Tables.keptEnv threeAccounts) Host.latin1
    uploadsHiJ 2 same (fun _ => rfl) _ sent).2.mpr ⟨true, rfl⟩

/-- Both requests before both parts. -/
def requestsFirst : List (Bool × Message) :=
  [(true, uploadHi.request), (false, uploadJ.request)] ++
    tagged true uploadHi.parts ++ tagged false uploadJ.parts

/-- The part for the first file is written to the second, and is too long for
it. -/
theorem interleaved_files_mixed :
    (∀ side, sentBy side requestsFirst = (uploadsHiJ side).frames) ∧
    (TcpClient.run Host.latin1 { uid := 2 }
      (arriving (mergedArrivals (requestsFirst.take 3)))).stop =
        some .assertion ∧
    ¬ Intact uploadsHiJ 2 requestsFirst := by
  have stops : (TcpClient.run Host.latin1 { uid := 2 }
      (arriving (mergedArrivals (requestsFirst.take 3)))).stop =
        some .assertion := by
    decide +kernel
  refine ⟨by decide +kernel, stops, ?_⟩
  intro intact
  obtain ⟨r', completed⟩ := @Intact.completes Host.latin1 uploadsHiJ 2 requestsFirst intact
    { uid := 2 } rfl
  have split : requestsFirst =
      requestsFirst.take 3 ++ requestsFirst.drop 3 :=
    (List.take_append_drop 3 _).symm
  rw [split, mergedArrivals_append, arriving, List.map_append,
    TcpClient.run_append] at completed
  obtain ⟨middle, early, _⟩ := Exec.of_bind_ok completed
  rw [arriving, early] at stops
  cases stops

end GroupChat.System
