import GroupChat.Server.Forwarding
import GroupChat.Server.Login

namespace GroupChat.Server

/-! Frames with files for a user who has no session. -/

variable {ω : Type} {env : Env ω}

namespace Connections

variable {s : Connections ω} {fd : Fd}

/-- A frame with a file as its handler accepts it, and the user it is for. -/
structure FileFrame (frame : Message) (dstUid : Uid) : Prop where
  type : frame.header.type ∈ ([0x17, 0x18, 0x19, 0x1A] : List UInt8)
  size : frame.header.length.toNat = sizeofHeader + frame.data.length
  fits : TransfileFits frame.header.type frame.data.length
  read : frame.data.wordAt 0 = .ok dstUid

theorem pushTransfile_absent {dstUid : Uid} (type : UInt8) (msg : Message)
    (absent : s.uidToFd.lookup dstUid = none) :
    pushTransfile type s dstUid msg = .error .assertion := by
  rw [pushTransfile, absent]
  rfl

theorem FileFrame.kind {frame : Message} {dstUid : Uid}
    (file : FileFrame frame dstUid) :
    ∃ answer, (frame.header.type, answer) ∈ transfileTypes := by
  have type := file.type
  simp only [List.mem_cons, List.not_mem_nil, or_false] at type
  simp only [transfileTypes, List.mem_cons, Prod.mk.injEq,
    List.not_mem_nil, or_false]
  rcases type with same | same | same | same
  · exact ⟨0xA7, .inl ⟨same, rfl⟩⟩
  · exact ⟨0xA8, .inr (.inl ⟨same, rfl⟩)⟩
  · exact ⟨0xA9, .inr (.inr (.inl ⟨same, rfl⟩))⟩
  · exact ⟨0xA9, .inr (.inr (.inr ⟨same, rfl⟩))⟩

theorem parse_absent {uid dstUid : Uid}
    (file : FileFrame (s.frame fd) dstUid) (mine : s.myUid fd = .ok uid)
    (absent : s.uidToFd.lookup dstUid = none) :
    s.parse env fd = .error .assertion := by
  obtain ⟨answer, kind⟩ := file.kind
  obtain ⟨db, pushes⟩ := parse_pushes file.size file.read mine kind file.fits
  rw [pushes]
  exact pushTransfile_absent answer _ absent

end Connections

open Connections

/-- The frame leaves the server running, the queues of the other connections
as they are and, if it is a request, no row behind. -/
def State.FileHarmless {File : Type} (env : Env ω) (files : ω → List File)
    (s : State ω) (fd : Fd) (net : List ReadResult) (frame : Message) : Prop :=
  ∃ s', s.next env (.recvMsg fd net) = .ok s' ∧
    (∀ other, other ≠ fd →
      (s'.conns.conns other).sendQue = (s.conns.conns other).sendQue) ∧
    (frame.header.type = 0x17 → files s'.conns.db = files s.conns.db)

/-- A frame with a file for a user without a session stops the server. -/
theorem absent_files_stop {File : Type} (env : Env ω)
    (files : ω → List File) (s : State ω) (reached : (machine env).Reachable s)
    (fd : Fd) (opened : s.clientFds fd = true) (net : List ReadResult)
    (frame : Message) (handed : s.conns.Handed fd net frame) (uid dstUid : Uid)
    (file : FileFrame frame dstUid)
    (bound : s.conns.fdToUid.lookup fd = some uid)
    (absent : s.conns.uidToFd.lookup dstUid = none) :
    ¬ s.FileHarmless env files fd net frame := by
  rintro ⟨s', moved, _⟩
  have inside := opened_inside reached fd opened
  obtain ⟨conns, handled, _⟩ := (State.next_handed inside handed).mp moved
  have same := frame_handed handed
  rw [← same] at file
  have inverse := (sessions_invariant.holds reached).inverse
  have mine : (s.conns.setConn fd ((s.conns.conns fd).receive net).2).myUid
      fd = .ok uid :=
    myUid_eq.mpr ⟨bound, (inverse fd uid).mp bound⟩
  rw [parse_absent file mine absent] at handled
  cases handled

def partFrame : Message :=
  .ofData 0x19 0x00 (Buffer.ofWord 2 ++ Buffer.ofWord 1 ++ Buffer.ofText "x")

def requestFrame : Message :=
  .ofData 0x17 0x00 (Buffer.ofWord 2 ++ Buffer.ofWord 1 ++ Buffer.ofWord 5 ++
    (Buffer.ofText "x").resize 64)

theorem absent_files_stop_part : ∃ s, (machine Tables.env).Reachable s ∧
    ¬ s.FileHarmless Tables.env Tables.records 4 (whole partFrame)
      partFrame := by
  have replayed : ((machine Tables.env).replay threeUsers
      (arrives 4 [loginFrame "a"] ++ arrives 5 [loginFrame "b"] ++
        [.closeConn 5])).any (fun s => handsOver s 4 partFrame ∧
          s.conns.fdToUid.lookup 4 = some 1 ∧
          s.conns.uidToFd.lookup 2 = none) = true := by
    decide +kernel
  obtain ⟨s, reached, holds⟩ :=
    Machine.Reachable.of_replay replayed threeUsers_initial
  obtain ⟨ended, bound, absent⟩ := of_decide_eq_true holds
  obtain ⟨opened, handed⟩ := of_decide_eq_true ended
  exact ⟨s, reached, absent_files_stop Tables.env Tables.records s reached 4
    opened _ partFrame handed 1 2
    ⟨by decide, by decide, ⟨by decide, by decide, by decide⟩, by decide⟩ bound
    absent⟩

theorem absent_request_stops : ¬ ∀ (s : State Tables) (fd : Fd)
    (frame : Message) (uid dstUid : Uid), (machine Tables.env).Reachable s →
    s.clientFds fd = true → s.conns.Handed fd (whole frame) frame →
    FileFrame frame dstUid → s.conns.fdToUid.lookup fd = some uid →
    s.conns.uidToFd.lookup dstUid = none →
    s.FileHarmless Tables.env Tables.records fd (whole frame) frame := by
  intro always
  have replayed : ((machine Tables.env).replay threeUsers
      (arrives 4 [loginFrame "a"])).any (fun s => handsOver s 4 requestFrame ∧
        s.conns.fdToUid.lookup 4 = some 1 ∧
        s.conns.uidToFd.lookup 2 = none ∧
        (s.next Tables.env (.recvMsg 4 (whole requestFrame))).stop =
          some .assertion) = true := by
    decide +kernel
  obtain ⟨s, reached, holds⟩ :=
    Machine.Reachable.of_replay replayed threeUsers_initial
  obtain ⟨ended, bound, absent, stops⟩ := of_decide_eq_true holds
  obtain ⟨opened, handed⟩ := of_decide_eq_true ended
  obtain ⟨s', moved, _⟩ := always s 4 requestFrame 1 2 reached opened handed
    ⟨by decide, by decide, ⟨by decide, by decide, by decide⟩, by decide⟩ bound
    absent
  rw [moved] at stops
  cases stops

end GroupChat.Server
