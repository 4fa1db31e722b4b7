import GroupChat.Lib.Bytes

namespace GroupChat.Server

/-! Reading from and writing to a non-blocking descriptor.  What the system
calls report is given by a list, one entry for each call, an exhausted list
standing for a descriptor with nothing to report. -/

/-- What one call to `read` reports.  No bytes at all is the end of stream. -/
inductive ReadResult where
  | data (bytes : Buffer)
  | eintr
  | again
  | error
  deriving DecidableEq, Repr

structure ReadOutcome where
  res : Int
  stored : Buffer
  reported : List ReadResult
  rest : List ReadResult
  deriving DecidableEq, Repr

namespace ReadOutcome

def repeated (outcome : ReadOutcome) : ReadOutcome :=
  { outcome with reported := .eintr :: outcome.reported }

def after (bytes : Buffer) (outcome : ReadOutcome) : ReadOutcome where
  res := if outcome.res = -1 then -1 else bytes.length + outcome.res
  stored := bytes ++ outcome.stored
  reported := .data bytes :: outcome.reported
  rest := outcome.rest

end ReadOutcome

/-- Read up to `len` bytes: the number of bytes read, or -1 for an error. -/
def readFromFd : List ReadResult → Nat → ReadOutcome
  | results, 0 => ⟨0, [], [], results⟩
  | [], _ + 1 => ⟨0, [], [.again], []⟩
  | .eintr :: results, len + 1 => (readFromFd results (len + 1)).repeated
  | .again :: results, _ + 1 => ⟨0, [], [.again], results⟩
  | .error :: results, _ + 1 => ⟨-1, [], [.error], results⟩
  | .data bytes :: results, len + 1 =>
      if bytes = [] then
        ⟨0, [], [.data []], results⟩
      else if bytes.length ≤ len + 1 then
        (readFromFd results (len + 1 - bytes.length)).after bytes
      else
        ⟨len + 1, bytes.take (len + 1), [.data (bytes.take (len + 1))],
          .data (bytes.drop (len + 1)) :: results⟩

/-- The bytes a list of results delivers. -/
def delivered (results : List ReadResult) : Buffer :=
  results.flatMap fun
    | .data bytes => bytes
    | _ => []

/-- The end of stream or a hard error was reported. -/
def ReadResult.ends : ReadResult → Bool
  | .data bytes => bytes.isEmpty
  | .error => true
  | _ => false

/-- Before the next byte there is nothing to read. -/
def readStalls : List ReadResult → Bool
  | [] => true
  | .eintr :: results => readStalls results
  | .again :: _ => true
  | _ => false

structure ReadSpec (results : List ReadResult) (len : Nat)
    (outcome : ReadOutcome) : Prop where
  bound : outcome.stored.length ≤ len
  delivers : delivered outcome.reported = outcome.stored
  front : outcome.stored <+: delivered results
  counts : outcome.res = outcome.stored.length ∨
    outcome.res = -1 ∧ outcome.reported.any ReadResult.ends = true
  silent : outcome.res = 0 → 0 < len →
    outcome.reported.any ReadResult.ends = true ∨ readStalls results = true
  fails : readStalls results = true → 0 < len → outcome.res = 0 ∧
    outcome.reported.any ReadResult.ends = false
  clean : outcome.res = len → outcome.reported.any ReadResult.ends = false

theorem readFromFd_spec (results : List ReadResult) (len : Nat) :
    ReadSpec results len (readFromFd results len) := by
  induction results, len using readFromFd.induct with
  | case1 results =>
      constructor <;> simp [readFromFd, delivered]
  | case2 len =>
      constructor <;>
        simp [readFromFd, delivered, readStalls, ReadResult.ends]
  | case3 results len induction =>
      constructor
      · simpa [readFromFd, ReadOutcome.repeated] using induction.bound
      · simpa [readFromFd, ReadOutcome.repeated, delivered]
          using induction.delivers
      · simpa [readFromFd, ReadOutcome.repeated, delivered]
          using induction.front
      · simpa [readFromFd, ReadOutcome.repeated, ReadResult.ends]
          using induction.counts
      · simpa [readFromFd, ReadOutcome.repeated, ReadResult.ends, readStalls]
          using induction.silent
      · simpa [readFromFd, ReadOutcome.repeated, ReadResult.ends, readStalls]
          using induction.fails
      · simpa [readFromFd, ReadOutcome.repeated, ReadResult.ends]
          using induction.clean
  | case4 results len =>
      constructor <;>
        simp [readFromFd, delivered, readStalls, ReadResult.ends]
  | case5 results len =>
      constructor <;>
        simp [readFromFd, delivered, readStalls, ReadResult.ends]
      omega
  | case6 results len =>
      constructor <;>
        simp [readFromFd, delivered, readStalls, ReadResult.ends]
      omega
  | case7 bytes results len present fits induction =>
      have size : 0 < bytes.length := List.length_pos_iff.mpr present
      rw [readFromFd]
      simp only [present, fits, if_true, if_false]
      constructor
      · have bound := induction.bound
        simp only [ReadOutcome.after, List.length_append]
        omega
      · simpa [ReadOutcome.after, delivered] using induction.delivers
      · simpa [ReadOutcome.after, delivered] using induction.front
      · rcases induction.counts with counted | ⟨failed, ended⟩
        · left
          have positive :
              ¬ (readFromFd results (len + 1 - bytes.length)).res = -1 := by
            omega
          simp only [ReadOutcome.after, positive, if_false,
            List.length_append]
          omega
        · right
          simp [ReadOutcome.after, failed, ended]
      · intro zero
        rcases induction.counts with counted | ⟨failed, _⟩
        · have positive :
              ¬ (readFromFd results (len + 1 - bytes.length)).res = -1 := by
            omega
          simp only [ReadOutcome.after, positive, if_false] at zero
          omega
        · simp [ReadOutcome.after, failed] at zero
      · simp [readStalls]
      · intro whole
        rcases induction.counts with counted | ⟨failed, _⟩
        · have positive :
              ¬ (readFromFd results (len + 1 - bytes.length)).res = -1 := by
            omega
          simp only [ReadOutcome.after, positive, if_false] at whole
          simpa [ReadOutcome.after, ReadResult.ends, present]
            using induction.clean (by omega)
        · simp [ReadOutcome.after, failed] at whole
          omega
  | case8 bytes results len present long =>
      have size : 0 < bytes.length := List.length_pos_iff.mpr present
      have taken : (bytes.take (len + 1)).length = len + 1 := by
        rw [List.length_take]
        omega
      rw [readFromFd]
      simp only [present, long, if_false]
      constructor
      · exact Nat.le_of_eq taken
      · simp [delivered]
      · exact (List.take_prefix _ _).trans (List.prefix_append _ _)
      · left
        simp only [taken]
        omega
      · intro zero
        simp only at zero
        omega
      · simp [readStalls]
      · simp [ReadResult.ends]
        omega

theorem readFromFd_short {results : List ReadResult} {len : Nat}
    (some : 0 < len) (ended : (readFromFd results len).res ≤ 0) :
    (readFromFd results len).stored.length < len := by
  induction results, len using readFromFd.induct with
  | case1 results => contradiction
  | case2 len => exact some
  | case3 results len induction => exact induction some ended
  | case4 results len => exact some
  | case5 results len => exact some
  | case6 results len => simp [readFromFd]
  | case7 bytes results len present fits induction =>
      have size : 0 < bytes.length := List.length_pos_iff.mpr present
      rw [readFromFd, if_neg present, if_pos fits] at ended ⊢
      simp only [ReadOutcome.after, List.length_append] at ended ⊢
      split at ended
      · rename_i failed
        have left : len + 1 - bytes.length ≠ 0 := by
          intro none
          rw [none, readFromFd] at failed
          cases failed
        have fewer := induction (Nat.pos_of_ne_zero left) (by omega)
        omega
      · rename_i going
        have counts := (readFromFd_spec results
          (len + 1 - bytes.length)).counts
        omega
  | case8 bytes results len present long =>
      rw [readFromFd, if_neg present, if_neg long] at ended
      change (len : Int) + 1 ≤ 0 at ended
      omega

/-- The results left once `len` bytes have been read, if all of them can be. -/
def readBehind : List ReadResult → Nat → Option (List ReadResult)
  | results, 0 => some results
  | .eintr :: results, len + 1 => readBehind results (len + 1)
  | .data bytes :: results, len + 1 =>
      if bytes = [] then
        none
      else if bytes.length ≤ len + 1 then
        readBehind results (len + 1 - bytes.length)
      else
        some (.data (bytes.drop (len + 1)) :: results)
  | _, _ + 1 => none

theorem readFromFd_behind (results : List ReadResult) (len : Nat) :
    match readBehind results len with
    | some rest => (readFromFd results len).res = len ∧
        (readFromFd results len).rest = rest
    | none => (readFromFd results len).res < len := by
  induction results, len using readFromFd.induct with
  | case1 results => simp [readBehind, readFromFd]
  | case2 len =>
      simp only [readBehind, readFromFd]
      omega
  | case3 results len induction =>
      simpa [readBehind, readFromFd, ReadOutcome.repeated] using induction
  | case4 results len => simp [readBehind, readFromFd]
  | case5 results len =>
      simp only [readBehind, readFromFd]
      omega
  | case6 results len => simp [readBehind, readFromFd]
  | case7 bytes results len present fits induction =>
      have size : 0 < bytes.length := List.length_pos_iff.mpr present
      rw [readFromFd, readBehind]
      simp only [present, fits, if_true, if_false]
      cases behind : readBehind results (len + 1 - bytes.length) with
      | none =>
          simp only [behind] at induction
          simp only [ReadOutcome.after]
          split <;> omega
      | some rest =>
          simp only [behind] at induction
          obtain ⟨counted, left⟩ := induction
          refine ⟨?_, left⟩
          simp only [ReadOutcome.after]
          split <;> omega
  | case8 bytes results len present long =>
      rw [readFromFd, readBehind]
      simp only [present, long, if_false]
      simp

/-- What one call to `write` reports.  It takes no more than it is offered. -/
inductive WriteResult where
  | took (count : Nat)
  | eintr
  | again
  | error
  deriving DecidableEq, Repr

structure WriteOutcome where
  res : Int
  accepted : Buffer
  reported : List WriteResult
  rest : List WriteResult
  deriving DecidableEq, Repr

namespace WriteOutcome

def repeated (outcome : WriteOutcome) : WriteOutcome :=
  { outcome with reported := .eintr :: outcome.reported }

def after (bytes : Buffer) (outcome : WriteOutcome) : WriteOutcome where
  res := if outcome.res = -1 then -1 else bytes.length + outcome.res
  accepted := bytes ++ outcome.accepted
  reported := .took bytes.length :: outcome.reported
  rest := outcome.rest

end WriteOutcome

/-- Write the data: the number of bytes written, or -1 for an error. -/
def writeToFd : List WriteResult → Buffer → WriteOutcome
  | results, [] => ⟨0, [], [], results⟩
  | [], _ :: _ => ⟨0, [], [.again], []⟩
  | .eintr :: results, first :: data =>
      (writeToFd results (first :: data)).repeated
  | .again :: results, _ :: _ => ⟨0, [], [.again], results⟩
  | .error :: results, _ :: _ => ⟨-1, [], [.error], results⟩
  | .took 0 :: results, _ :: _ => ⟨0, [], [.took 0], results⟩
  | .took (count + 1) :: results, first :: data =>
      (writeToFd results (data.drop count)).after (first :: data.take count)

def WriteResult.fails : WriteResult → Bool
  | .error => true
  | _ => false

/-- Before the next byte there is no room to write. -/
def writeStalls : List WriteResult → Bool
  | [] => true
  | .eintr :: results => writeStalls results
  | .again :: _ => true
  | .took 0 :: _ => true
  | _ => false

/-- The results left once `len` bytes have been written, if all of them can
be. -/
def writeBehind : List WriteResult → Nat → Option (List WriteResult)
  | results, 0 => some results
  | .eintr :: results, len + 1 => writeBehind results (len + 1)
  | .took (count + 1) :: results, len + 1 =>
      writeBehind results (len - count)
  | _, _ + 1 => none

theorem writeToFd_behind (results : List WriteResult) (data : Buffer) :
    match writeBehind results data.length with
    | some rest => (writeToFd results data).res = data.length ∧
        (writeToFd results data).rest = rest
    | none => (writeToFd results data).res < data.length := by
  induction results, data using writeToFd.induct with
  | case1 results => simp [writeBehind, writeToFd]
  | case2 first data =>
      simp only [writeBehind, writeToFd, List.length_cons]
      omega
  | case3 results first data induction =>
      simpa [writeBehind, writeToFd, WriteOutcome.repeated] using induction
  | case4 results first data => simp [writeBehind, writeToFd]
  | case5 results first data =>
      simp only [writeBehind, writeToFd, List.length_cons]
      omega
  | case6 results first data => simp [writeBehind, writeToFd]
  | case7 count results first data induction =>
      rw [writeToFd, List.length_cons, writeBehind]
      rw [List.length_drop] at induction
      cases behind : writeBehind results (data.length - count) with
      | none =>
          simp only [behind] at induction
          simp only [WriteOutcome.after, List.length_cons, List.length_take]
          split <;> omega
      | some rest =>
          simp only [behind] at induction
          obtain ⟨counted, left⟩ := induction
          refine ⟨?_, left⟩
          simp only [WriteOutcome.after, List.length_cons, List.length_take]
          split <;> omega

structure WriteSpec (results : List WriteResult) (data : Buffer)
    (outcome : WriteOutcome) : Prop where
  takes : outcome.accepted <+: data
  counts : outcome.res = outcome.accepted.length ∧
      outcome.reported.any WriteResult.fails = false ∨
    outcome.res = -1 ∧ outcome.reported.any WriteResult.fails = true
  silent : outcome.res = 0 → data ≠ [] → writeStalls results = true
  stalls : writeStalls results = true → data ≠ [] → outcome.res = 0

theorem writeToFd_spec (results : List WriteResult) (data : Buffer) :
    WriteSpec results data (writeToFd results data) := by
  induction results, data using writeToFd.induct with
  | case1 results =>
      constructor <;> simp [writeToFd]
  | case2 first data =>
      constructor <;> simp [writeToFd, writeStalls, WriteResult.fails]
  | case3 results first data induction =>
      constructor
      · simpa [writeToFd, WriteOutcome.repeated] using induction.takes
      · simpa [writeToFd, WriteOutcome.repeated, WriteResult.fails]
          using induction.counts
      · simpa [writeToFd, WriteOutcome.repeated, writeStalls]
          using induction.silent
      · simpa [writeToFd, WriteOutcome.repeated, writeStalls]
          using induction.stalls
  | case4 results first data =>
      constructor <;> simp [writeToFd, writeStalls, WriteResult.fails]
  | case5 results first data =>
      constructor <;> simp [writeToFd, writeStalls, WriteResult.fails]
  | case6 results first data =>
      constructor <;> simp [writeToFd, writeStalls, WriteResult.fails]
  | case7 count results first data induction =>
      rw [writeToFd]
      constructor
      · obtain ⟨rest, whole⟩ := induction.takes
        refine ⟨rest, ?_⟩
        simp only [WriteOutcome.after, List.cons_append, List.append_assoc,
          whole, List.take_append_drop]
      · rcases induction.counts with ⟨counted, clean⟩ | ⟨failed, reported⟩
        · left
          have positive : ¬ (writeToFd results (data.drop count)).res = -1 := by
            omega
          refine ⟨?_, by simpa [WriteOutcome.after, WriteResult.fails]
            using clean⟩
          simp only [WriteOutcome.after, positive, if_false,
            List.length_append]
          omega
        · right
          simpa [WriteOutcome.after, failed, WriteResult.fails] using reported
      · intro zero
        rcases induction.counts with ⟨counted, _⟩ | ⟨failed, _⟩
        · have positive : ¬ (writeToFd results (data.drop count)).res = -1 := by
            omega
          simp only [WriteOutcome.after, positive, if_false,
            List.length_cons] at zero
          omega
        · simp [WriteOutcome.after, failed] at zero
      · simp [writeStalls]

end GroupChat.Server
