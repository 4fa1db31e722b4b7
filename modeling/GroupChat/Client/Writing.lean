import Mathlib.Algebra.Ring.Int.Defs
import GroupChat.Client.Run

namespace GroupChat.Client

/-! The loop that writes a frame to the socket. -/

structure WriteCall where
  offset : Int
  requested : Int
  result : Int
  deriving DecidableEq, Repr

/-- The bytes of the frame that a call has accepted. -/
def WriteCall.accepted (frame : Buffer) (call : WriteCall) : Buffer :=
  (frame.drop call.offset.toNat).take call.result.toNat

structure Sending where
  hasRead : Int := 0
  calls : List WriteCall := []
  deriving DecidableEq, Repr

namespace Sending

def write (expectedLength res : Int) (s : Sending) : Sending where
  hasRead := s.hasRead + res
  calls := s.calls ++ [⟨s.hasRead, expectedLength - s.hasRead, res⟩]

/-- At most `fuel` passes of the loop, with what each call returns. -/
def loop (expectedLength : Int) (results : Nat → Int) :
    Nat → Sending → Sending
  | 0, s => s
  | fuel + 1, s =>
      if s.hasRead < expectedLength then
        loop expectedLength results fuel
          (s.write expectedLength (results s.calls.length))
      else
        s

end Sending

def writeFrame (frame : Buffer) (results : Nat → Int) (fuel : Nat) : Sending :=
  Sending.loop frame.length results fuel {}

def Sending.Ended (frame : Buffer) (s : Sending) : Prop :=
  frame.length ≤ s.hasRead

def Sending.accepted (frame : Buffer) (s : Sending) : Buffer :=
  s.calls.flatMap (WriteCall.accepted frame)

def countAfter (results : Nat → Int) (calls : Nat) : Int :=
  ((List.range calls).map results).sum

theorem countAfter_succ (results : Nat → Int) (calls : Nat) :
    countAfter results (calls + 1) = countAfter results calls + results calls := by
  rw [countAfter, List.range_succ, List.map_append, List.sum_append,
    List.map_singleton, List.sum_singleton, countAfter]

/-- What `write` can return for a frame of this size: a count up to the number
it is asked for, or -1 once the connection is lost. -/
structure Writes (size : Nat) (results : Nat → Int) : Prop where
  counts : ∀ call, results call ≠ -1 →
    0 ≤ results call ∧ countAfter results call + results call ≤ size
  lost : ∀ call, results call = -1 → results (call + 1) = -1

/-- The frame is sent as it should be: a failed call is the last one, every
call asks for bytes of the frame, and what is accepted before a failure is the
front of the frame. -/
structure SentSafely (frame : Buffer) (results : Nat → Int) : Prop where
  ends : ∀ fuel front call back,
    (writeFrame frame results fuel).calls = front ++ call :: back →
    call.result = -1 →
      back = [] ∧ ∃ fuel, (writeFrame frame results fuel).Ended frame
  inside : ∀ fuel, ∀ call ∈ (writeFrame frame results fuel).calls,
    0 ≤ call.offset ∧ call.offset + call.requested ≤ frame.length
  front : ∀ fuel front back,
    (writeFrame frame results fuel).calls = front ++ back →
    (∀ call ∈ front, call.result ≠ -1) →
      front.flatMap (WriteCall.accepted frame) <+: frame

/-- The counts add up to the whole frame when the first call fails. -/
def LostLate (frame : Buffer) (results : Nat → Int) : Prop :=
  ∀ call, results call = -1 → (∀ before < call, results before ≠ -1) →
    frame.length ≤ countAfter results call

section

variable {frame : Buffer} {results : Nat → Int}

def callAt (frame : Buffer) (results : Nat → Int) (before : Nat) : WriteCall :=
  ⟨countAfter results before, frame.length - countAfter results before,
    results before⟩

def afterCalls (frame : Buffer) (results : Nat → Int) (calls : Nat) :
    Sending where
  hasRead := countAfter results calls
  calls := (List.range calls).map (callAt frame results)

theorem write_afterCalls (calls : Nat) :
    (afterCalls frame results calls).write frame.length
        (results (afterCalls frame results calls).calls.length) =
      afterCalls frame results (calls + 1) := by
  have count : (afterCalls frame results calls).calls.length = calls := by
    rw [afterCalls, List.length_map, List.length_range]
  rw [count, Sending.write]
  unfold afterCalls
  rw [countAfter_succ, List.range_succ, List.map_append]
  rfl

theorem loop_afterCalls (calls fuel : Nat) :
    ∃ more, (∀ call < more, calls ≤ call →
        countAfter results call < frame.length) ∧
      (more = calls + fuel ∨ frame.length ≤ countAfter results more) ∧
      Sending.loop frame.length results fuel (afterCalls frame results calls) =
        afterCalls frame results more := by
  induction fuel generalizing calls with
  | zero => exact ⟨calls, fun call early late => by omega, .inl rfl, rfl⟩
  | succ fuel induction =>
      by_cases out : countAfter results calls < frame.length
      · obtain ⟨more, made, stop, looped⟩ := induction (calls + 1)
        refine ⟨more, ?_, ?_, ?_⟩
        · intro call early late
          rcases Nat.eq_or_lt_of_le late with same | later
          · exact same ▸ out
          · exact made call early later
        · exact stop.imp_left fun same => by omega
        · rw [Sending.loop, write_afterCalls, looped]
          exact if_pos out
      · exact ⟨calls, fun call early late => by omega,
          .inr (Int.not_lt.mp out), by rw [Sending.loop]; exact if_neg out⟩

theorem writeFrame_afterCalls (fuel : Nat) :
    ∃ calls, (∀ call < calls, countAfter results call < frame.length) ∧
      (calls = fuel ∨ frame.length ≤ countAfter results calls) ∧
      writeFrame frame results fuel = afterCalls frame results calls := by
  obtain ⟨calls, made, stop, looped⟩ :=
    @loop_afterCalls frame results 0 fuel
  exact ⟨calls, fun call early => made call early (Nat.zero_le call),
    stop.imp_left fun same => same.trans (Nat.zero_add fuel), looped⟩

theorem Writes.count_bounds (writes : Writes frame.length results) {calls : Nat}
    (none : ∀ call < calls, results call ≠ -1) :
    0 ≤ countAfter results calls ∧
      countAfter results calls ≤ frame.length := by
  induction calls with
  | zero => exact ⟨Int.le_refl 0, Int.natCast_nonneg frame.length⟩
  | succ calls induction =>
      have before := induction fun call early => none call (by omega)
      have next := writes.counts calls (none calls (Nat.lt_succ_self calls))
      rw [countAfter_succ]
      omega

theorem Writes.count_mono (writes : Writes frame.length results)
    {calls more : Nat} (none : ∀ call < more, results call ≠ -1)
    (later : calls ≤ more) :
    countAfter results calls ≤ countAfter results more := by
  induction later with
  | refl => exact Int.le_refl _
  | @step more later induction =>
      have before := induction fun call early => none call (by omega)
      have next := writes.counts more (none more (Nat.lt_succ_self more))
      rw [countAfter_succ]
      omega

theorem Writes.accepted_eq (writes : Writes frame.length results) {calls : Nat}
    (none : ∀ call < calls, results call ≠ -1) :
    ((List.range calls).map (callAt frame results)).flatMap
        (WriteCall.accepted frame) =
      frame.take (countAfter results calls).toNat := by
  induction calls with
  | zero => rfl
  | succ calls induction =>
      have earlier : ∀ call < calls, results call ≠ -1 :=
        fun call early => none call (by omega)
      have bounds := writes.count_bounds earlier
      have next := writes.counts calls (none calls (Nat.lt_succ_self calls))
      have whole : (countAfter results (calls + 1)).toNat =
          (countAfter results calls).toNat + (results calls).toNat := by
        rw [countAfter_succ]
        omega
      rw [List.range_succ, List.map_append, List.flatMap_append,
        induction earlier, whole, List.take_add]
      simp [callAt, WriteCall.accepted]

theorem mem_afterCalls {calls : Nat} {call : WriteCall}
    (member : call ∈ (afterCalls frame results calls).calls) :
    ∃ before < calls, call = callAt frame results before := by
  obtain ⟨before, early, rfl⟩ := List.mem_map.mp member
  exact ⟨before, List.mem_range.mp early, rfl⟩

theorem LostLate.unfailed (late : LostLate frame results) {calls : Nat}
    (made : ∀ call < calls, countAfter results call < frame.length) :
    ∀ call < calls, results call ≠ -1 := by
  intro call
  induction call using Nat.strongRecOn with
  | ind call induction =>
      intro early failed
      have out := late call failed fun before earlier =>
        induction before earlier (Nat.lt_trans earlier early)
      have more := made call early
      omega

/-- A failed call inside the frame is repeated one byte before, and the loop
never ends. -/
theorem Writes.never_ends (writes : Writes frame.length results) {failed : Nat}
    (lost : results failed = -1)
    (none : ∀ before < failed, results before ≠ -1)
    (inside : countAfter results failed < frame.length) (call : Nat) :
    countAfter results call < frame.length := by
  rcases Nat.le_total call failed with early | late
  · exact Int.lt_of_le_of_lt (writes.count_mono none early) inside
  · have both : countAfter results call < frame.length ∧
        results call = -1 := by
      induction late with
      | refl => exact ⟨inside, lost⟩
      | @step call late induction =>
          rw [countAfter_succ, induction.2]
          exact ⟨by omega, writes.lost call induction.2⟩
    exact both.1

/-- A frame is sent safely exactly where no call fails before it is out. -/
theorem sentSafely_iff (writes : Writes frame.length results) :
    SentSafely frame results ↔ LostLate frame results := by
  constructor
  · intro safe failed lost none
    by_contra inside
    have made := writes.never_ends lost none (Int.not_le.mp inside)
    obtain ⟨calls, _, stop, same⟩ :=
      @writeFrame_afterCalls frame results (failed + 2)
    have count : calls = failed + 2 :=
      stop.resolve_right (Int.not_le.mpr (made calls))
    have split : (writeFrame frame results (failed + 2)).calls =
        (List.range failed).map (callAt frame results) ++
          callAt frame results failed ::
            [callAt frame results (failed + 1)] := by
      rw [same, count, afterCalls, List.range_succ, List.range_succ]
      simp
    exact absurd (safe.ends _ _ _ _ split lost).1 (List.cons_ne_nil _ _)
  · intro late
    constructor
    · intro fuel front call back split failed
      obtain ⟨calls, made, _, same⟩ := @writeFrame_afterCalls frame results fuel
      have member : call ∈ (afterCalls frame results calls).calls := by
        rw [← same, split]
        exact List.mem_append_right front (List.mem_cons_self ..)
      obtain ⟨before, early, rfl⟩ := mem_afterCalls member
      exact absurd failed (late.unfailed made before early)
    · intro fuel call member
      obtain ⟨calls, made, _, same⟩ := @writeFrame_afterCalls frame results fuel
      rw [same] at member
      obtain ⟨before, early, rfl⟩ := mem_afterCalls member
      have bounds := writes.count_bounds fun call earlier =>
        late.unfailed made call (Nat.lt_trans earlier early)
      refine ⟨bounds.1, ?_⟩
      dsimp only [callAt]
      omega
    · intro fuel front back split none
      obtain ⟨calls, made, _, same⟩ := @writeFrame_afterCalls frame results fuel
      have taken : front = (List.range (min front.length calls)).map
          (callAt frame results) := by
        have calls' : (List.range calls).map (callAt frame results) =
            front ++ back := by
          rw [← split, same]
          rfl
        rw [← List.take_range, List.map_take, calls', List.take_left]
      rw [taken, writes.accepted_eq fun call early =>
        late.unfailed made call (Nat.lt_of_lt_of_le early
          (Nat.min_le_right _ _))]
      exact List.take_prefix _ _

theorem LostLate.accepted_prefix (late : LostLate frame results)
    (writes : Writes frame.length results) (fuel : Nat) :
    (writeFrame frame results fuel).accepted frame <+: frame := by
  obtain ⟨calls, made, _, same⟩ := @writeFrame_afterCalls frame results fuel
  rw [same, Sending.accepted, afterCalls,
    writes.accepted_eq (late.unfailed made)]
  exact List.take_prefix _ _

theorem LostLate.accepted_whole (late : LostLate frame results)
    (writes : Writes frame.length results) {fuel : Nat}
    (ended : (writeFrame frame results fuel).Ended frame) :
    (writeFrame frame results fuel).accepted frame = frame := by
  obtain ⟨calls, made, _, same⟩ := @writeFrame_afterCalls frame results fuel
  have none := late.unfailed made
  have bounds := writes.count_bounds none
  rw [same] at ended ⊢
  have whole : (countAfter results calls).toNat = frame.length := by
    have out : (frame.length : Int) ≤ countAfter results calls := ended
    omega
  rw [Sending.accepted, afterCalls, writes.accepted_eq none, whole,
    List.take_length]

end

/-- On an open socket, `sendWholeFrame` is its loop with calls that do not
fail. -/
theorem TcpClient.sendWholeFrame_written {c c' : TcpClient}
    (completed : c.sendWholeFrame = .ok c') {results : Nat → Int}
    (writes : Writes c.sendMsg.length results)
    (late : LostLate c.sendMsg results) {fuel : Nat}
    (ended : (writeFrame c.sendMsg results fuel).Ended c.sendMsg) :
    c' = { c with sent := c.sent ++
      [(writeFrame c.sendMsg results fuel).accepted c.sendMsg] } := by
  obtain ⟨_, _, rest⟩ := Exec.of_bind_ok completed
  obtain ⟨_, _, made⟩ := Exec.of_bind_ok rest
  cases made
  rw [late.accepted_whole writes ended]

theorem lost_writes (size : Nat) : Writes size (fun _ => -1) :=
  ⟨fun _ other => absurd rfl other, fun _ _ => rfl⟩

/-- On a socket that is not open, its loop does not end. -/
theorem TcpClient.sendWholeFrame_lost {c : TcpClient} (some : c.sendMsg ≠ [])
    (fuel : Nat) :
    ¬ (writeFrame c.sendMsg (fun _ => -1) fuel).Ended c.sendMsg := by
  obtain ⟨calls, _, _, same⟩ :=
    @writeFrame_afterCalls c.sendMsg (fun _ => -1) fuel
  have none : ∀ before < 0, (-1 : Int) ≠ -1 := fun before early =>
    absurd early (Nat.not_lt_zero before)
  have inside := (lost_writes c.sendMsg.length).never_ends rfl none
    (Int.natCast_pos.mpr (List.length_pos_iff.mpr some)) calls
  rw [same]
  exact Int.not_le.mpr inside

theorem sentSafely_halves : SentSafely [1, 2, 3, 4]
    (fun call => if call = 0 ∨ call = 1 then 2 else -1) :=
  sentSafely_iff ⟨by
      intro call counts
      match call with
      | 0 => decide
      | 1 => decide
      | call + 2 => exact absurd rfl counts,
    by
      intro call lost
      match call with
      | 0 => cases lost
      | 1 => cases lost
      | call + 2 => rfl⟩ |>.mpr (by
    intro call lost none
    match call with
    | 0 => cases lost
    | 1 => cases lost
    | 2 => decide
    | call + 3 => exact absurd rfl (none 2 (by omega)))

/-- The connection is lost before the first call: the second one begins before
the frame, and no number of calls is enough. -/
theorem sending_lost : Writes 4 (fun _ => -1) ∧
    ¬ SentSafely [1, 2, 3, 4] (fun _ => -1) ∧
    (writeFrame [1, 2, 3, 4] (fun _ => -1) 2).calls =
      [⟨0, 4, -1⟩, ⟨-1, 5, -1⟩] := by
  refine ⟨lost_writes 4, ?_, by decide⟩
  intro safe
  have outside := safe.inside 2 ⟨-1, 5, -1⟩ (by decide)
  exact absurd outside.1 (by decide)

end GroupChat.Client
