import GroupChat.Client.Run
import GroupChat.Server.Frames

namespace GroupChat.Client

/-! The loops that read frames from the socket. -/

open Server (Header Message sizeofHeader wireOf wireOf_cons wireOf_append)

/-- An execution whose loops have a bound on their passes; `none` tells that it
is used up. -/
abbrev Bounded (α : Type) := Except (Option Fault) α

namespace Bounded

variable {α β : Type}

def ofExec : Exec α → Bounded α
  | .ok result => .ok result
  | .error fault => .error (some fault)

@[simp] theorem bind_ok (value : α) (next : α → Bounded β) :
    (Except.ok value >>= next) = next value := rfl

theorem of_bind_ok {run : Bounded α} {next : α → Bounded β} {result : β}
    (completed : run >>= next = .ok result) :
    ∃ middle, run = .ok middle ∧ next middle = .ok result := by
  cases run with
  | error fault => cases completed
  | ok middle => exact ⟨middle, rfl, completed⟩

theorem of_ofExec {run : Exec α} {result : α}
    (completed : ofExec run = .ok result) : run = .ok result := by
  cases run with
  | error fault => cases completed
  | ok middle => cases completed; rfl

end Bounded

/-- A socket: the bytes that can be read, and what each wait for more brings
until the connection ends.  An empty arrival is a wait that times out. -/
structure Socket where
  buffered : Buffer := []
  arrivals : List Buffer := []
  deriving DecidableEq, Repr

namespace Socket

def stream (socket : Socket) : Buffer :=
  socket.buffered ++ socket.arrivals.flatten

/-- On a disconnected socket nothing arrives. -/
def waitForReadyRead (socket : Socket) : Bool × Socket :=
  match socket.arrivals with
  | [] => (false, socket)
  | bytes :: arrivals =>
      (decide (bytes ≠ []), ⟨socket.buffered ++ bytes, arrivals⟩)

/-- A negative number of bytes reads as nothing. -/
def read (readLength : Int) (socket : Socket) : Buffer × Socket :=
  if readLength < 0 then
    ([], socket)
  else
    (socket.buffered.take readLength.toNat,
      { socket with buffered := socket.buffered.drop readLength.toNat })

end Socket

/-- The error a failed wait is answered with does not end the loop. -/
def blockRead (readLength : Int) : Nat → Socket → Bounded (Buffer × Socket)
  | 0, socket =>
      if socket.buffered.length < readLength then
        .error none
      else
        .ok (socket.read readLength)
  | fuel + 1, socket =>
      if socket.buffered.length < readLength then
        blockRead readLength fuel socket.waitForReadyRead.2
      else
        .ok (socket.read readLength)

def readHeader : Buffer → Header
  | type :: subType :: high :: low :: _ =>
      ⟨type, subType, UInt16.ofNat (high.toNat * 256 + low.toNat)⟩
  | _ => {}

def receiveData (fuel : Nat) (header : Header) (socket : Socket) :
    Bounded (Buffer × Socket) :=
  if header.length.toNat = sizeofHeader then
    .ok ([], socket)
  else
    blockRead (header.length.toNat - sizeofHeader) fuel socket

/-- The client, its socket and, for the record, the frames that were
dispatched. -/
structure Receiver where
  client : TcpClient
  socket : Socket
  dispatched : List Message := []

section

variable (host : Host) (clock : Nat → Int)

/-- One pass of the loop of `receiveHeader`.  A handler that closes the
connection aborts the socket, which discards what it has. -/
def receiveFrame (fuel : Nat) (r : Receiver) : Bounded Receiver := do
  let (header, socket) ← blockRead sizeofHeader fuel r.socket
  Bounded.ofExec (Exec.require (header.length = sizeofHeader) .assertion)
  let header := readHeader header
  let (data, socket) ← receiveData fuel header socket
  let client ← Bounded.ofExec (r.client.parseHeader host
    (clock r.dispatched.length) ⟨header, data⟩)
  .ok ⟨client, if client.isOpen then socket else {},
    r.dispatched ++ [⟨header, data⟩]⟩

def receiveHeader (fuel : Nat) : Nat → Receiver → Bounded Receiver
  | 0, r => if r.socket.buffered = [] then .ok r else .error none
  | passes + 1, r =>
      if r.socket.buffered = [] then
        .ok r
      else do
        let r ← receiveFrame host clock fuel r
        receiveHeader fuel passes r

/-- The slot is called for each arrival that it has not waited for itself,
until the connection has ended. -/
def receive (fuel : Nat) : Nat → Receiver → Bounded Receiver
  | 0, r => if r.socket.arrivals = [] then .ok r else .error none
  | events + 1, r =>
      if r.socket.arrivals = [] then
        .ok r
      else do
        let r ← receiveHeader host clock fuel fuel
          { r with socket := r.socket.waitForReadyRead.2 }
        receive fuel events r

/-- The handlers of these frames, up to one that closes the connection. -/
def handleAll : Nat → TcpClient → List Message → Exec TcpClient
  | _, c, [] => .ok c
  | earlier, c, frame :: frames => do
      let c ← c.parseHeader host (clock earlier) frame
      if c.isOpen then handleAll (earlier + 1) c frames else .ok c

end

def Whole (frame : Message) : Prop :=
  frame.header.length.toNat = sizeofHeader + frame.data.length

/-- A part of a stream at whose front there is no whole frame. -/
def Incomplete (rest : Buffer) : Prop :=
  ∀ frame tail, Whole frame → rest ≠ frame.wire ++ tail

/-! Headers. -/

theorem readHeader_wire (header : Header) (rest : Buffer) :
    readHeader (header.wire ++ rest) = header := by
  have range := header.length.toNat_lt
  have length : UInt16.ofNat ((UInt8.ofNat
      (header.length.toNat / 256)).toNat * 256 +
        (UInt8.ofNat header.length.toNat).toNat) = header.length := by
    apply UInt16.toNat.inj
    rw [UInt16.toNat_ofNat', UInt8.toNat_ofNat', UInt8.toNat_ofNat']
    omega
  rw [wire_eq]
  simp only [DataStream.ofShort, List.cons_append, List.nil_append, readHeader,
    length]

theorem wire_readHeader {bytes : Buffer} (four : bytes.length = 4) :
    (readHeader bytes).wire = bytes := by
  match bytes, four with
  | [type, subType, high, low], _ =>
      have above := high.toNat_lt
      have below := low.toNat_lt
      have length : (UInt16.ofNat (high.toNat * 256 + low.toNat)).toNat =
          high.toNat * 256 + low.toNat := by
        rw [UInt16.toNat_ofNat']
        omega
      have first : (high.toNat * 256 + low.toNat) / 256 = high.toNat := by
        omega
      have second : UInt8.ofNat (high.toNat * 256 + low.toNat) = low := by
        apply UInt8.toNat.inj
        rw [UInt8.toNat_ofNat']
        omega
      rw [wire_eq]
      simp only [readHeader, DataStream.ofShort, length, first, second,
        UInt8.ofNat_toNat, List.cons_append, List.nil_append]

theorem wire_split {first second : Message} {x y : Buffer}
    (whole : Whole first) (whole' : Whole second)
    (same : first.wire ++ x = second.wire ++ y) : first = second ∧ x = y := by
  rw [Message.wire, Message.wire, List.append_assoc, List.append_assoc] at same
  obtain ⟨headers, behind⟩ := List.append_inj same
    (by rw [Header.length_wire, Header.length_wire])
  have headers := Header.wire_injective headers
  have size : first.data.length = second.data.length := by
    rw [Whole, headers, whole'] at whole
    omega
  obtain ⟨data, ends⟩ := List.append_inj behind size
  obtain ⟨header, data'⟩ := first
  cases headers
  cases data
  exact ⟨rfl, ends⟩

/-- The whole frames at the front of a stream are among those it is cut
into. -/
theorem frames_split {done frames : List Message} {tail rest : Buffer}
    (wholeDone : ∀ frame ∈ done, Whole frame)
    (whole : ∀ frame ∈ frames, Whole frame) (incomplete : Incomplete rest)
    (same : wireOf done ++ tail = wireOf frames ++ rest) :
    ∃ more, frames = done ++ more ∧ tail = wireOf more ++ rest := by
  induction done generalizing frames with
  | nil => exact ⟨frames, rfl, same⟩
  | cons first done induction =>
      have here := wholeDone first (List.mem_cons_self ..)
      rw [wireOf_cons, List.append_assoc] at same
      cases frames with
      | nil => exact absurd same.symm (incomplete first _ here)
      | cons second frames =>
          rw [wireOf_cons, List.append_assoc] at same
          obtain ⟨rfl, behind⟩ := wire_split here
            (whole second (List.mem_cons_self ..)) same
          obtain ⟨more, rfl, left⟩ := induction
            (fun frame member => wholeDone frame (List.mem_cons_of_mem _ member))
            (fun frame member => whole frame (List.mem_cons_of_mem _ member))
            behind
          exact ⟨more, rfl, left⟩

/-- Every stream is cut into whole frames and a part of one. -/
theorem exists_cut (stream : Buffer) : ∃ frames rest,
    (∀ frame ∈ frames, Whole frame) ∧ Incomplete rest ∧
      stream = wireOf frames ++ rest := by
  induction size : stream.length using Nat.strongRecOn generalizing stream with
  | ind size' induction =>
      by_cases incomplete : Incomplete stream
      · exact ⟨[], stream, fun _ member => absurd member List.not_mem_nil,
          incomplete, rfl⟩
      · unfold Incomplete at incomplete
        push Not at incomplete
        obtain ⟨frame, tail, whole, rfl⟩ := incomplete
        have shorter : tail.length < size' := by
          rw [← size, Message.wire, List.length_append, List.length_append,
            Header.length_wire]
          omega
        obtain ⟨frames, rest, wholes, incomplete, rfl⟩ :=
          induction _ shorter tail rfl
        refine ⟨frame :: frames, rest, ?_, incomplete, ?_⟩
        · intro other member
          cases List.mem_cons.mp member with
          | inl same => exact same ▸ whole
          | inr member => exact wholes other member
        · rw [wireOf_cons, List.append_assoc]

/-! What the loops read. -/

theorem Socket.stream_waited (socket : Socket) :
    socket.waitForReadyRead.2.stream = socket.stream := by
  obtain ⟨buffered, arrivals⟩ := socket
  cases arrivals with
  | nil => rfl
  | cons bytes arrivals =>
      simp only [waitForReadyRead, stream, List.flatten_cons,
        List.append_assoc]

theorem Socket.arrivals_waited (socket : Socket) :
    socket.waitForReadyRead.2.arrivals.length =
      socket.arrivals.length - 1 := by
  obtain ⟨buffered, arrivals⟩ := socket
  cases arrivals <;> rfl

theorem Socket.read_eq {socket : Socket} {size : Nat}
    (enough : size ≤ socket.buffered.length) :
    ∃ after, socket.read size = (socket.stream.take size, after) ∧
      after.stream = socket.stream.drop size ∧
      after.arrivals = socket.arrivals := by
  refine ⟨{ socket with buffered := socket.buffered.drop size }, ?_, ?_, rfl⟩
  · rw [Socket.read, if_neg (Int.not_lt.mpr (Int.natCast_nonneg size)),
      Int.toNat_natCast, Socket.stream,
      List.take_append_of_le_length enough]
  · rw [Socket.stream, Socket.stream, List.drop_append_of_le_length enough]

/-- What is left of a stream after some bytes were read. -/
structure ReadFrom (size : Nat) (socket after : Socket) (bytes : Buffer) :
    Prop where
  enough : size ≤ socket.stream.length
  bytes : bytes = socket.stream.take size
  stream : after.stream = socket.stream.drop size
  arrivals : after.arrivals.length ≤ socket.arrivals.length

theorem ReadFrom.split {size : Nat} {socket after : Socket} {bytes : Buffer}
    (read : ReadFrom size socket after bytes) :
    bytes.length = size ∧ socket.stream = bytes ++ after.stream := by
  constructor
  · rw [read.bytes, List.length_take]
    exact Nat.min_eq_left read.enough
  · rw [read.stream, read.bytes, List.take_append_drop]

theorem ReadFrom.of_read {size : Nat} {socket : Socket}
    (enough : size ≤ socket.buffered.length) :
    ReadFrom size socket (socket.read size).2 (socket.read size).1 := by
  obtain ⟨after, read, stream, arrivals⟩ := Socket.read_eq enough
  rw [read]
  refine ⟨?_, rfl, stream, by rw [arrivals]⟩
  rw [Socket.stream, List.length_append]
  omega

theorem ReadFrom.waited {size : Nat} {socket after : Socket} {bytes : Buffer}
    (read : ReadFrom size socket.waitForReadyRead.2 after bytes) :
    ReadFrom size socket after bytes := by
  obtain ⟨enough, bytes, stream, arrivals⟩ := read
  rw [Socket.stream_waited] at enough bytes stream
  rw [Socket.arrivals_waited] at arrivals
  exact ⟨enough, bytes, stream, by omega⟩

theorem blockRead_ok {size fuel : Nat} {socket after : Socket} {bytes : Buffer}
    (read : blockRead size fuel socket = .ok (bytes, after)) :
    ReadFrom size socket after bytes := by
  induction fuel generalizing socket with
  | zero =>
      unfold blockRead at read
      split at read
      · cases read
      · rename_i enough
        have read := Except.ok.inj read
        have whole := @ReadFrom.of_read size socket
          (Int.ofNat_le.mp (Int.not_lt.mp enough))
        rwa [read] at whole
  | succ fuel induction =>
      unfold blockRead at read
      split at read
      · exact (induction read).waited
      · rename_i enough
        have read := Except.ok.inj read
        have whole := @ReadFrom.of_read size socket
          (Int.ofNat_le.mp (Int.not_lt.mp enough))
        rwa [read] at whole

theorem blockRead_ends {size fuel : Nat} {socket : Socket}
    (enough : size ≤ socket.stream.length)
    (waits : socket.arrivals.length ≤ fuel) :
    ∃ bytes after, blockRead size fuel socket = .ok (bytes, after) := by
  induction fuel generalizing socket with
  | zero =>
      have none : socket.arrivals = [] :=
        List.length_eq_zero_iff.mp (Nat.le_zero.mp waits)
      have here : ¬ (socket.buffered.length : Int) < size := by
        rw [Socket.stream, none, List.flatten_nil, List.append_nil] at enough
        omega
      exact ⟨_, _, by rw [blockRead, if_neg here]⟩
  | succ fuel induction =>
      by_cases here : (socket.buffered.length : Int) < size
      · obtain ⟨bytes, after, read⟩ := @induction socket.waitForReadyRead.2
          (by rw [Socket.stream_waited]; exact enough)
          (by rw [Socket.arrivals_waited]; omega)
        exact ⟨bytes, after, by rw [blockRead, if_pos here, read]⟩
      · exact ⟨_, _, by rw [blockRead, if_neg here]⟩

section

variable {host : Host} {clock : Nat → Int} {fuel : Nat}

theorem whole_of_parseHeader {now : Int} {c c' : TcpClient} {frame : Message}
    (parsed : c.parseHeader host now frame = .ok c') : Whole frame := by
  obtain ⟨_, announced, _⟩ := Exec.of_bind_ok parsed
  rw [Exec.require_eq_ok] at announced
  rw [Whole, announced, Nat.add_comm]

theorem receiveData_ok {header : Header} {socket after : Socket}
    {data : Buffer}
    (received : receiveData fuel header socket = .ok (data, after))
    (announced : Whole ⟨header, data⟩) :
    socket.stream = data ++ after.stream ∧
      after.arrivals.length ≤ socket.arrivals.length := by
  unfold receiveData at received
  split at received
  · cases received
    exact ⟨rfl, Nat.le_refl _⟩
  · have size : (header.length.toNat : Int) - sizeofHeader =
        (data.length : Nat) := by
      have length : header.length.toNat = sizeofHeader + data.length :=
        announced
      omega
    rw [size] at received
    have read := blockRead_ok received
    exact ⟨read.split.2, read.arrivals⟩

theorem receiveFrame_ok {r r' : Receiver}
    (received : receiveFrame host clock fuel r = .ok r') :
    ∃ frame after, Whole frame ∧
      r.socket.stream = frame.wire ++ after.stream ∧
      after.arrivals.length ≤ r.socket.arrivals.length ∧
      r.client.parseHeader host (clock r.dispatched.length) frame =
        .ok r'.client ∧
      r'.dispatched = r.dispatched ++ [frame] ∧
      r'.socket = if r'.client.isOpen then after else {} := by
  obtain ⟨⟨bytes, middle⟩, front, received⟩ := Bounded.of_bind_ok received
  obtain ⟨_, _, received⟩ := Bounded.of_bind_ok received
  obtain ⟨⟨data, after⟩, payload, received⟩ := Bounded.of_bind_ok received
  obtain ⟨client, parsed, made⟩ := Bounded.of_bind_ok received
  cases made
  have parsed := Bounded.of_ofExec parsed
  have whole := whole_of_parseHeader parsed
  have front := blockRead_ok front
  have payload := receiveData_ok payload whole
  obtain ⟨four, here⟩ := front.split
  refine ⟨⟨readHeader bytes, data⟩, after, whole, ?_,
    payload.2.trans front.arrivals, parsed, rfl, rfl⟩
  have behind : middle.stream = data ++ after.stream := payload.1
  rw [Message.wire, wire_readHeader four, List.append_assoc, ← behind, here]

theorem receiveData_ends {frame : Message} {socket : Socket} {tail : Buffer}
    (whole : Whole frame) (stream : socket.stream = frame.data ++ tail)
    (waits : socket.arrivals.length ≤ fuel) :
    ∃ after, receiveData fuel frame.header socket =
      .ok (frame.data, after) := by
  have length : frame.header.length.toNat =
      sizeofHeader + frame.data.length := whole
  unfold receiveData
  split
  · have none : frame.data = [] := List.length_eq_zero_iff.mp (by omega)
    exact ⟨socket, by rw [none]⟩
  · have size : (frame.header.length.toNat : Int) - sizeofHeader =
        (frame.data.length : Nat) := by
      omega
    obtain ⟨bytes, after, read⟩ := @blockRead_ends frame.data.length fuel
      socket (by rw [stream, List.length_append]; omega) waits
    refine ⟨after, ?_⟩
    rw [size, read, (blockRead_ok read).bytes, stream, List.take_left]

theorem receiveFrame_ends {r : Receiver} {frame : Message} {tail : Buffer}
    {c : TcpClient} (whole : Whole frame)
    (stream : r.socket.stream = frame.wire ++ tail)
    (waits : r.socket.arrivals.length ≤ fuel)
    (parsed : r.client.parseHeader host (clock r.dispatched.length) frame =
      .ok c) :
    ∃ r', receiveFrame host clock fuel r = .ok r' := by
  rw [Message.wire, List.append_assoc] at stream
  obtain ⟨bytes, middle, front⟩ := @blockRead_ends sizeofHeader fuel r.socket
    (by rw [stream, List.length_append, Header.length_wire, sizeofHeader]
        omega) waits
  have read := blockRead_ok front
  obtain ⟨four, split⟩ := read.split
  rw [stream] at split
  obtain ⟨header, behind⟩ := List.append_inj split
    (by rw [Header.length_wire, four, sizeofHeader])
  obtain ⟨after, payload⟩ := receiveData_ends whole behind.symm
    (read.arrivals.trans waits)
  have header : readHeader bytes = frame.header := by
    have again := readHeader_wire frame.header []
    rwa [List.append_nil, header] at again
  unfold receiveFrame
  rw [front, Bounded.bind_ok]
  dsimp only
  rw [Exec.require_of four, Bounded.ofExec, Bounded.bind_ok, header, payload,
    Bounded.bind_ok]
  dsimp only
  rw [parsed, Bounded.ofExec, Bounded.bind_ok]
  exact ⟨_, rfl⟩

/-- What a receiver that was open has dispatched since. -/
structure Progress (host : Host) (clock : Nat → Int) (r r' : Receiver)
    (done : List Message) : Prop where
  dispatched : r'.dispatched = r.dispatched ++ done
  whole : ∀ frame ∈ done, Whole frame
  stream : ∃ tail, r.socket.stream = wireOf done ++ tail ∧
    (r'.client.isOpen = true → tail = r'.socket.stream)
  arrivals : r'.socket.arrivals.length ≤ r.socket.arrivals.length
  closed : r'.client.isOpen = false → r'.socket = {}
  handled : ∀ more, handleAll host clock r.dispatched.length r.client
      (done ++ more) =
    if r'.client.isOpen then
      handleAll host clock r'.dispatched.length r'.client more
    else
      .ok r'.client

theorem Progress.refl {r : Receiver} (opened : r.client.isOpen = true) :
    Progress host clock r r [] where
  dispatched := (List.append_nil _).symm
  whole := fun _ member => absurd member List.not_mem_nil
  stream := ⟨_, rfl, fun _ => rfl⟩
  arrivals := Nat.le_refl _
  closed := fun shut => absurd opened (by rw [shut]; exact Bool.false_ne_true)
  handled := fun more => by rw [opened]; rfl

theorem Progress.trans {r r' r'' : Receiver} {first second : List Message}
    (before : Progress host clock r r' first)
    (opened : r'.client.isOpen = true)
    (after : Progress host clock r' r'' second) :
    Progress host clock r r'' (first ++ second) where
  dispatched := by
    rw [after.dispatched, before.dispatched, List.append_assoc]
  whole := by
    intro frame member
    cases List.mem_append.mp member with
    | inl early => exact before.whole frame early
    | inr late => exact after.whole frame late
  stream := by
    obtain ⟨_, stream, same⟩ := before.stream
    obtain ⟨tail, later, same'⟩ := after.stream
    refine ⟨tail, ?_, same'⟩
    rw [stream, same opened, later, wireOf_append, List.append_assoc]
  arrivals := after.arrivals.trans before.arrivals
  closed := after.closed
  handled := by
    intro more
    rw [List.append_assoc, before.handled, opened, if_pos rfl, after.handled]

theorem receiveFrame_progress {r r' : Receiver}
    (received : receiveFrame host clock fuel r = .ok r') :
    ∃ frame, Progress host clock r r' [frame] := by
  obtain ⟨frame, after, whole, stream, waits, parsed, dispatched, socket⟩ :=
    receiveFrame_ok received
  refine ⟨frame, dispatched, ?_, ⟨after.stream, ?_, ?_⟩, ?_, ?_, ?_⟩
  · intro other member
    exact List.mem_singleton.mp member ▸ whole
  · rw [stream, wireOf_cons, Server.wireOf_nil, List.append_nil]
  · intro opened
    rw [socket, opened, if_pos rfl]
  · rw [socket]
    split
    · exact waits
    · exact Nat.zero_le _
  · intro shut
    rw [socket, shut]
    exact if_neg Bool.false_ne_true
  · intro more
    rw [List.singleton_append, handleAll, parsed, Exec.bind_ok, dispatched,
      List.length_append, List.length_singleton]

/-- The loop dispatches whole frames until nothing is left to read, or the
connection is closed. -/
theorem receiveHeader_progress {passes : Nat} {r r' : Receiver}
    (opened : r.client.isOpen = true)
    (received : receiveHeader host clock fuel passes r = .ok r') :
    r'.socket.buffered = [] ∧ ∃ done, Progress host clock r r' done := by
  induction passes generalizing r with
  | zero =>
      unfold receiveHeader at received
      split at received
      · rename_i none
        cases received
        exact ⟨none, [], .refl opened⟩
      · cases received
  | succ passes induction =>
      unfold receiveHeader at received
      split at received
      · rename_i none
        cases received
        exact ⟨none, [], .refl opened⟩
      · obtain ⟨middle, here, received⟩ := Bounded.of_bind_ok received
        obtain ⟨frame, first⟩ := receiveFrame_progress here
        cases still : middle.client.isOpen with
        | true =>
            obtain ⟨none, done, later⟩ := induction still received
            exact ⟨none, _, first.trans still later⟩
        | false =>
            have empty := first.closed still
            have same : receiveHeader host clock fuel passes middle =
                .ok middle := by
              cases passes <;> rw [receiveHeader, empty] <;> rfl
            rw [same] at received
            cases received
            exact ⟨by rw [empty], _, first⟩

theorem receive_progress {events : Nat} {r r' : Receiver}
    (opened : r.client.isOpen = true) (empty : r.socket.buffered = [])
    (received : receive host clock fuel events r = .ok r') :
    r'.socket = {} ∧ ∃ done, Progress host clock r r' done := by
  have ended {r : Receiver} (empty : r.socket.buffered = [])
      (none : r.socket.arrivals = []) : r.socket = {} := by
    obtain ⟨client, ⟨buffered, arrivals⟩, dispatched⟩ := r
    cases empty
    cases none
    rfl
  induction events generalizing r with
  | zero =>
      unfold receive at received
      split at received
      · rename_i none
        cases received
        exact ⟨ended empty none, [], .refl opened⟩
      · cases received
  | succ events induction =>
      unfold receive at received
      split at received
      · rename_i none
        cases received
        exact ⟨ended empty none, [], .refl opened⟩
      · obtain ⟨middle, here, received⟩ := Bounded.of_bind_ok received
        obtain ⟨none, done, first⟩ := @receiveHeader_progress host clock fuel
          fuel { r with socket := r.socket.waitForReadyRead.2 } middle opened
          here
        have waited : Progress host clock r
            { r with socket := r.socket.waitForReadyRead.2 } [] := {
          Progress.refl opened with
          stream := ⟨_, rfl, fun _ => r.socket.stream_waited.symm⟩
          arrivals := by
            rw [Socket.arrivals_waited]
            omega
          closed := fun shut => absurd opened
            (by rw [shut]; exact Bool.false_ne_true) }
        have first := waited.trans opened first
        cases still : middle.client.isOpen with
        | true =>
            obtain ⟨whole, _, later⟩ := induction still none received
            exact ⟨whole, _, first.trans still later⟩
        | false =>
            have empty := first.closed still
            have same : receive host clock fuel events middle =
                .ok middle := by
              cases events <;> rw [receive, empty] <;> rfl
            rw [same] at received
            cases received
            exact ⟨empty, _, first⟩

/-! The loops end. -/

/-- A stream of whole frames and a part of one, with handlers that run to their
end. -/
structure Handled (host : Host) (clock : Nat → Int) (r : Receiver)
    (frames : List Message) (rest : Buffer) (c : TcpClient) : Prop where
  stream : r.socket.stream = wireOf frames ++ rest
  whole : ∀ frame ∈ frames, Whole frame
  incomplete : Incomplete rest
  ran : handleAll host clock r.dispatched.length r.client frames = .ok c
  ending : rest = [] ∨ c.isOpen = false

theorem Handled.later {r r' : Receiver} {done frames : List Message}
    {rest : Buffer} {c : TcpClient}
    (handled : Handled host clock r frames rest c)
    (progress : Progress host clock r r' done)
    (opened : r'.client.isOpen = true) :
    ∃ more, Handled host clock r' more rest c := by
  obtain ⟨tail, stream, same⟩ := progress.stream
  rw [handled.stream] at stream
  obtain ⟨more, rfl, left⟩ := frames_split progress.whole handled.whole
    handled.incomplete stream.symm
  refine ⟨more, (same opened).symm.trans left,
    fun frame member => handled.whole frame (List.mem_append_right _ member),
    handled.incomplete, ?_, handled.ending⟩
  have ran := handled.ran
  rwa [progress.handled, opened, if_pos rfl] at ran

theorem receiveHeader_ends {passes : Nat} {r : Receiver}
    {frames : List Message} {rest : Buffer} {c : TcpClient}
    (opened : r.client.isOpen = true)
    (handled : Handled host clock r frames rest c)
    (enough : r.socket.stream.length ≤ passes)
    (waits : r.socket.arrivals.length ≤ fuel) :
    ∃ r', receiveHeader host clock fuel passes r = .ok r' := by
  induction passes generalizing r frames with
  | zero =>
      have none : r.socket.stream = [] :=
        List.length_eq_zero_iff.mp (Nat.le_zero.mp enough)
      have empty := (List.append_eq_nil_iff.mp none).1
      exact ⟨r, by rw [receiveHeader, if_pos empty]⟩
  | succ passes induction =>
      by_cases empty : r.socket.buffered = []
      · exact ⟨r, by rw [receiveHeader, if_pos empty]⟩
      cases frames with
      | nil =>
          have same := handled.ran
          cases same
          have none := handled.ending.resolve_right
            (by rw [opened]; exact Bool.noConfusion)
          have stream := handled.stream
          rw [none] at stream
          exact absurd (List.append_eq_nil_iff.mp stream).1 empty
      | cons frame frames =>
          have stream := handled.stream
          rw [wireOf_cons, List.append_assoc] at stream
          obtain ⟨client, parsed, _⟩ := Exec.of_bind_ok handled.ran
          obtain ⟨middle, here⟩ := receiveFrame_ends
            (handled.whole frame (List.mem_cons_self ..)) stream waits parsed
          obtain ⟨first, progress⟩ := receiveFrame_progress here
          rw [receiveHeader, if_neg empty, here, Bounded.bind_ok]
          cases still : middle.client.isOpen with
          | true =>
              obtain ⟨more, later⟩ := handled.later progress still
              apply induction still later _
                (progress.arrivals.trans waits)
              obtain ⟨tail, split, same⟩ := progress.stream
              rw [split, same still, List.length_append, wireOf_cons,
                List.length_append, Message.wire, List.length_append,
                Header.length_wire] at enough
              omega
          | false =>
              refine ⟨middle, ?_⟩
              cases passes <;> rw [receiveHeader, progress.closed still] <;> rfl

theorem receive_ends {events : Nat} {r : Receiver} {frames : List Message}
    {rest : Buffer} {c : TcpClient} (opened : r.client.isOpen = true)
    (handled : Handled host clock r frames rest c)
    (enough : r.socket.stream.length ≤ fuel)
    (waits : r.socket.arrivals.length ≤ fuel)
    (arrivals : r.socket.arrivals.length ≤ events) :
    ∃ r', receive host clock fuel events r = .ok r' := by
  induction events generalizing r frames with
  | zero =>
      have none : r.socket.arrivals = [] :=
        List.length_eq_zero_iff.mp (Nat.le_zero.mp arrivals)
      exact ⟨r, by rw [receive, if_pos none]⟩
  | succ events induction =>
      by_cases none : r.socket.arrivals = []
      · exact ⟨r, by rw [receive, if_pos none]⟩
      have some := List.length_pos_iff.mpr none
      have waited := r.socket.arrivals_waited
      obtain ⟨middle, here⟩ := @receiveHeader_ends host clock fuel fuel
        { r with socket := r.socket.waitForReadyRead.2 } frames rest c opened
        { handled with
          stream := r.socket.stream_waited.trans handled.stream }
        (by rw [Socket.stream_waited]; exact enough)
        (by rw [waited]; omega)
      obtain ⟨_, done, progress⟩ := @receiveHeader_progress host clock fuel
        fuel { r with socket := r.socket.waitForReadyRead.2 } middle opened
        here
      rw [receive, if_neg none, here, Bounded.bind_ok]
      cases still : middle.client.isOpen with
      | true =>
          obtain ⟨more, later⟩ := Handled.later (r := { r with
            socket := r.socket.waitForReadyRead.2 })
            { handled with
              stream := r.socket.stream_waited.trans handled.stream }
            progress still
          have fewer := progress.arrivals
          rw [waited] at fewer
          obtain ⟨tail, split, same⟩ := progress.stream
          rw [Socket.stream_waited] at split
          rw [split, same still, List.length_append] at enough
          exact induction still later (by omega) (by omega) (by omega)
      | false =>
          refine ⟨middle, ?_⟩
          cases events <;> rw [receive, progress.closed still] <;> rfl

theorem Progress.cut {r r' : Receiver} {done frames : List Message}
    {rest : Buffer} (progress : Progress host clock r r' done)
    (ended : r'.socket = {}) (whole : ∀ frame ∈ frames, Whole frame)
    (incomplete : Incomplete rest)
    (stream : r.socket.stream = wireOf frames ++ rest) :
    ∃ more, frames = done ++ more ∧
      (r'.client.isOpen = true → more = [] ∧ rest = []) := by
  obtain ⟨tail, split, same⟩ := progress.stream
  obtain ⟨more, rfl, left⟩ := frames_split progress.whole whole incomplete
    (split.symm.trans stream)
  refine ⟨more, rfl, fun still => ?_⟩
  rw [same still, ended] at left
  obtain ⟨wires, none⟩ := List.append_eq_nil_iff.mp left.symm
  cases more with
  | nil => exact ⟨rfl, none⟩
  | cons frame more =>
      rw [wireOf_cons, Message.wire] at wires
      have headers := (List.append_eq_nil_iff.mp
        (List.append_eq_nil_iff.mp wires).1).1
      exact absurd (congrArg List.length headers) (by
        rw [Header.length_wire]
        exact Nat.noConfusion)

/-- The receiver returns, and has dispatched the whole frames of the stream, or
those up to one at which the client closed the connection itself. -/
def Dispatched (host : Host) (clock : Nat → Int) (c : TcpClient)
    (arrivals : List Buffer) (frames : List Message) : Prop :=
  ∃ fuel r, receive host clock fuel fuel ⟨c, ⟨[], arrivals⟩, []⟩ = .ok r ∧
    (r.dispatched = frames ∨
      r.client.isOpen = false ∧ r.dispatched <+: frames)

section Cut

variable {c : TcpClient} {arrivals : List Buffer} {frames : List Message}
variable {rest : Buffer} (opened : c.isOpen = true)
variable (whole : ∀ frame ∈ frames, Whole frame) (incomplete : Incomplete rest)
variable (stream : arrivals.flatten = wireOf frames ++ rest)

include opened whole incomplete stream

theorem Dispatched.handled
    (dispatched : Dispatched host clock c arrivals frames) :
    ∃ c', handleAll host clock 0 c frames = .ok c' ∧
      (rest = [] ∨ c'.isOpen = false) := by
  obtain ⟨fuel, r, received, _⟩ := dispatched
  obtain ⟨ended, done, progress⟩ := receive_progress opened rfl received
  obtain ⟨more, rfl, last⟩ := progress.cut ended whole incomplete stream
  have handled := progress.handled more
  refine ⟨r.client, ?_⟩
  cases still : r.client.isOpen with
  | false =>
      rw [still] at handled
      exact ⟨handled, .inr rfl⟩
  | true =>
      obtain ⟨rfl, none⟩ := last still
      rw [still] at handled
      exact ⟨handled, .inl none⟩

/-- As many passes as the stream has bytes are enough. -/
theorem dispatched_of_handled {c' : TcpClient}
    (ran : handleAll host clock 0 c frames = .ok c')
    (ending : rest = [] ∨ c'.isOpen = false) :
    Dispatched host clock c arrivals frames := by
  let start : Receiver := ⟨c, ⟨[], arrivals⟩, []⟩
  let fuel := start.socket.stream.length + arrivals.length
  obtain ⟨r, received⟩ := @receive_ends host clock fuel fuel start frames
    rest c' opened ⟨stream, whole, incomplete, ran, ending⟩
    (Nat.le_add_right _ _) (Nat.le_add_left _ _) (Nat.le_add_left _ _)
  obtain ⟨ended, done, progress⟩ := receive_progress opened rfl received
  obtain ⟨more, rfl, last⟩ := progress.cut ended whole incomplete stream
  have dispatched : r.dispatched = done := progress.dispatched
  refine ⟨fuel, r, received, ?_⟩
  rw [dispatched]
  cases still : r.client.isOpen with
  | false => exact .inr ⟨rfl, List.prefix_append done more⟩
  | true =>
      rw [(last still).1, List.append_nil]
      exact .inl rfl

end Cut

/-- The receiver returns exactly where the handlers run to their end and the
stream ends behind a whole frame, if the client does not close the connection
before. -/
theorem dispatched_iff {c : TcpClient} {arrivals : List Buffer}
    {frames : List Message} {rest : Buffer} (opened : c.isOpen = true)
    (whole : ∀ frame ∈ frames, Whole frame) (incomplete : Incomplete rest)
    (stream : arrivals.flatten = wireOf frames ++ rest) :
    Dispatched host clock c arrivals frames ↔
      ∃ c', handleAll host clock 0 c frames = .ok c' ∧
        (rest = [] ∨ c'.isOpen = false) := by
  constructor
  · intro dispatched
    exact dispatched.handled opened whole incomplete stream
  · rintro ⟨c', ran, ending⟩
    exact dispatched_of_handled opened whole incomplete stream ran ending

/-- Whatever arrives is cut into frames, which decide so. -/
theorem arrivals_cut {c : TcpClient} (opened : c.isOpen = true)
    (arrivals : List Buffer) : ∃ frames rest,
    (∀ frame ∈ frames, Whole frame) ∧ Incomplete rest ∧
      arrivals.flatten = wireOf frames ++ rest ∧
      (Dispatched host clock c arrivals frames ↔
        ∃ c', handleAll host clock 0 c frames = .ok c' ∧
          (rest = [] ∨ c'.isOpen = false)) := by
  obtain ⟨frames, rest, whole, incomplete, stream⟩ :=
    exists_cut arrivals.flatten
  refine ⟨frames, rest, whole, incomplete, stream, ?_, ?_⟩
  · intro dispatched
    exact dispatched.handled opened whole incomplete stream
  · rintro ⟨c', ran, ending⟩
    exact dispatched_of_handled opened whole incomplete stream ran ending

theorem blockRead_hangs {size : Nat} {socket : Socket}
    (short : socket.stream.length < size) :
    blockRead size fuel socket = .error none := by
  have here : (socket.buffered.length : Int) < size := by
    rw [Socket.stream, List.length_append] at short
    omega
  induction fuel generalizing socket with
  | zero => rw [blockRead, if_pos here]
  | succ fuel induction =>
      rw [blockRead, if_pos here]
      have waited : socket.waitForReadyRead.2.stream.length < size := by
        rw [Socket.stream_waited]
        exact short
      refine induction waited ?_
      rw [Socket.stream, List.length_append] at waited
      omega

end

theorem incomplete_nil : Incomplete [] := by
  intro frame tail _ same
  have headers := congrArg List.length same
  rw [Message.wire, List.length_append, List.length_append,
    Header.length_wire, List.length_nil] at headers
  omega

def connectedClient : TcpClient := { isOpen := true }

theorem dispatched_confirmation : Dispatched .latin1 (fun _ => 0)
    connectedClient [[0x93, 0x00, 0x00], [], [0x04]]
    [⟨⟨0x93, 0x00, 4⟩, []⟩] :=
  (dispatched_iff rfl (fun frame member => by
    cases List.mem_singleton.mp member
    rfl) incomplete_nil (by decide)).mpr ⟨_, rfl, .inl rfl⟩

/-- The connection ends inside a header: no number of passes is enough. -/
theorem partial_header_hangs : (∀ fuel, receive .latin1 (fun _ => 0) fuel fuel
      ⟨connectedClient, ⟨[], [[0x93]]⟩, []⟩ = .error none) ∧
    ¬ Dispatched .latin1 (fun _ => 0) connectedClient [[0x93]] [] := by
  have hangs (fuel : Nat) : receive .latin1 (fun _ => 0) fuel fuel
      ⟨connectedClient, ⟨[], [[0x93]]⟩, []⟩ = .error none := by
    cases fuel with
    | zero => rfl
    | succ fuel =>
        have frame : receiveFrame .latin1 (fun _ => 0) (fuel + 1)
            ⟨connectedClient, ⟨[0x93], []⟩, []⟩ = .error none := by
          rw [receiveFrame, blockRead_hangs (by decide)]
          rfl
        have header : receiveHeader .latin1 (fun _ => 0) (fuel + 1) (fuel + 1)
            ⟨connectedClient, ⟨[0x93], []⟩, []⟩ = .error none := by
          rw [receiveHeader, if_neg (List.cons_ne_nil _ _), frame]
          rfl
        rw [receive, if_neg (List.cons_ne_nil _ _)]
        exact congrArg (fun run : Bounded Receiver => run >>= fun r =>
          receive .latin1 (fun _ => 0) (fuel + 1) fuel r) header
  refine ⟨hangs, ?_⟩
  rintro ⟨fuel, r, received, _⟩
  rw [hangs fuel] at received
  cases received

end GroupChat.Client
