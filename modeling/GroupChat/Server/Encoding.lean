import Mathlib.Algebra.GroupWithZero.Nat
import GroupChat.Server.Records

namespace GroupChat.Server

/-! The history with explicit lengths. -/

open Decimal

def storeAt (records : Buffer) (offset : Int) (bytes : Buffer) :
    Exec Buffer :=
  if 0 ≤ offset ∧ offset + bytes.length ≤ records.length then
    .ok (records.overwrite offset.toNat bytes)
  else
    .error .undefined

namespace Database

variable {ω : Type} {env : Env ω}

def serhPairSql (peo1 peo2 : Int) : Buffer :=
  Buffer.ofText "select * from record where sendid=" ++ ofInt peo1 ++
    Buffer.ofText " and recvid=" ++ ofInt peo2 ++
    Buffer.ofText " or sendid=" ++ ofInt peo2 ++
    Buffer.ofText " and recvid=" ++ ofInt peo1 ++
    Buffer.ofText " order by rid asc"

/-- Store one record with its length.  `psiz` is an `int`, the sum in `resize`
a `size_t`; the length is a word that is stored as a 64-bit number. -/
def storeLengthRecord (records : Buffer) (sendid time : Int)
    (message : Buffer) : Exec Buffer := do
  let psiz := Int.bmod records.length 4294967296
  Exec.require (psiz + 16 ≤ 2147483647) .undefined
  let size := (psiz + 16 + message.length) % 18446744073709551616
  Exec.require (size ≤ 9223372036854775807) .exception
  let records := records.resize size.toNat
  let records ← storeAt records psiz (Buffer.ofWord (UInt32.ofInt sendid))
  let records ← storeAt records (psiz + 4) (ofLong time)
  let records ← storeAt records (psiz + 12)
    (Buffer.ofWord (UInt32.ofNat message.length) ++ [0, 0, 0, 0])
  storeAt records (psiz + 16) message

/-- The loop of `serh_message` with a count. -/
def serhCountLoop (count rownum : Int) : List Row → Int → Buffer → Exec Buffer
  | [], _, records => .ok records
  | sqlRow :: rows, tcnt, records =>
      if 2147483647 < tcnt + count ∨ 2147483647 ≤ tcnt then
        .error .undefined
      else if tcnt + count < rownum then
        serhCountLoop count rownum rows (tcnt + 1) records
      else do
        let message ← sqlRow.text 4
        let sendid ← sqlRow.text 1
        let time ← sqlRow.text 3
        let records ←
          storeLengthRecord records (atoi sendid) (atoll time) message
        serhCountLoop count rownum rows (tcnt + 1) records

/-- The overload of `serh_message` with a count. -/
def serhMessageCount (env : Env ω) (world : ω) (peo1 peo2 count : Int) :
    Exec (SerhMessage ω) :=
  let (reply, world) := mysqlQuery env world (serhPairSql peo1 peo2)
  match reply with
  | .failed => .ok ⟨-1, [], world⟩
  | .done => .ok ⟨0, [], world⟩
  | .rows rows => do
      let rownum := Int.bmod rows.length 4294967296
      let records ← serhCountLoop count rownum rows 0 []
      .ok ⟨0, records, world⟩

end Database

namespace Stored

/-- The rows that `serh_message` with a count asks for. -/
def exchanged (peo1 peo2 : Int) (stored : Stored) : Bool :=
  stored.sendid = peo1 ∧ stored.recvid = peo2 ∨
    stored.sendid = peo2 ∧ stored.recvid = peo1

/-- Records with their lengths, one behind the other. -/
def Encodes : Buffer → List Stored → Prop
  | bytes, [] => bytes = []
  | bytes, stored :: rest => ∃ (length : UInt32) (tail : Buffer),
      length.toNat = stored.message.length ∧
      bytes = (Buffer.ofWord (UInt32.ofInt stored.sendid) ++
        (Database.ofLong stored.time ++
          (Buffer.ofWord length ++ stored.message))) ++ tail ∧
      Encodes tail rest

def lengthedSize (stored : Stored) : Nat := 16 + stored.message.length

theorem length_of_encodes {bytes : Buffer} {entries : List Stored}
    (encodes : Encodes bytes entries) :
    bytes.length = (entries.map lengthedSize).sum := by
  induction entries generalizing bytes with
  | nil => rw [encodes]; rfl
  | cons stored rest induction =>
      obtain ⟨length, tail, _, rfl, encodes⟩ := encodes
      rw [List.length_append, induction encodes]
      simp only [List.length_append, Buffer.length_ofWord,
        Database.length_ofLong, List.map_cons, List.sum_cons, lengthedSize]
      omega

end Stored

namespace Database

variable {ω : Type} {env : Env ω}

open Stored (Encodes lengthedSize)

theorem storeAt_zeros {front : Buffer} {offset : Int} (bytes : Buffer)
    {size : Nat} (start : offset = front.length) (fits : bytes.length ≤ size) :
    storeAt (front ++ List.replicate size 0) offset bytes =
      .ok ((front ++ bytes) ++ List.replicate (size - bytes.length) 0) := by
  subst start
  have inside : (0 : Int) ≤ front.length ∧ (front.length : Int) +
      bytes.length ≤ (front ++ List.replicate size (0 : UInt8)).length := by
    simp only [List.length_append, List.length_replicate]
    omega
  rw [storeAt, if_pos inside, Int.toNat_natCast, overwrite_zeros _ _ rfl]

theorem length_storeAt {records : Buffer} {offset : Int} {bytes after : Buffer}
    (stored : storeAt records offset bytes = .ok after) :
    0 ≤ offset ∧ offset + bytes.length ≤ records.length ∧
      after.length = records.length := by
  unfold storeAt at stored
  split at stored
  · rename_i inside
    cases stored
    refine ⟨inside.1, inside.2, Buffer.length_overwrite ?_⟩
    omega
  · cases stored

theorem storeAt_message {front : Buffer} {offset : Int} {message : Buffer}
    {size : Nat} (start : offset = front.length)
    (sized : size + 4 = message.length) :
    storeAt (front ++ [0, 0, 0, 0] ++ List.replicate size 0) offset message =
      .ok (front ++ message) := by
  have zeros : ([0, 0, 0, 0] : Buffer) ++ List.replicate size 0 =
      List.replicate message.length 0 := by
    rw [← sized, Nat.add_comm, List.replicate_add]
    rfl
  rw [List.append_assoc, zeros, storeAt_zeros message start (le_refl _),
    Nat.sub_self, List.replicate_zero, List.append_nil]

theorem storeLengthRecord_eq {records : Buffer} (sendid time : Int)
    {message : Buffer} (place : records.length + 16 ≤ 2147483647)
    (long : 4 ≤ message.length) (short : message.length < 4294967296) :
    storeLengthRecord records sendid time message = .ok (records ++
      (Buffer.ofWord (UInt32.ofInt sendid) ++ (ofLong time ++
        (Buffer.ofWord (UInt32.ofNat message.length) ++ message)))) := by
  have psiz : Int.bmod records.length 4294967296 = records.length := by
    rw [Int.bmod_def]
    omega
  have placed : (records.length : Int) + 16 ≤ 2147483647 := by omega
  have size : ((records.length : Int) + 16 + message.length) %
      18446744073709551616 = (records.length + 16 + message.length : Nat) := by
    omega
  have fits : ((records.length + 16 + message.length : Nat) : Int) ≤
      9223372036854775807 := by
    omega
  have sized : records.resize (records.length + 16 + message.length) =
      records ++ List.replicate (16 + message.length) 0 := by
    have added : records.length + 16 + message.length - records.length =
        16 + message.length := by
      omega
    rw [Buffer.resize, List.take_of_length_le (by omega), added]
  unfold storeLengthRecord
  dsimp only
  rw [psiz, Exec.require_of placed, Exec.bind_ok, size, Exec.require_of fits,
    Exec.bind_ok, Int.toNat_natCast, sized,
    storeAt_zeros _ rfl (by rw [Buffer.length_ofWord]; omega), Exec.bind_ok,
    storeAt_zeros _ (by simp) (by simp; omega), Exec.bind_ok,
    storeAt_zeros _ (by simp) (by simp; omega), Exec.bind_ok]
  rw [← List.append_assoc _ (Buffer.ofWord _) [0, 0, 0, 0],
    storeAt_message (by simp) (by simp; omega)]
  simp only [List.append_assoc]

theorem of_storeLengthRecord {records after : Buffer} {sendid time : Int}
    {message : Buffer}
    (stored : storeLengthRecord records sendid time message = .ok after) :
    after.length ≤ 2147483647 + message.length ∧ 4 ≤ message.length := by
  unfold storeLengthRecord at stored
  dsimp only at stored
  obtain ⟨_, place, stored⟩ := Exec.of_bind_ok stored
  obtain ⟨_, _, stored⟩ := Exec.of_bind_ok stored
  obtain ⟨first, sender, stored⟩ := Exec.of_bind_ok stored
  obtain ⟨second, timed, stored⟩ := Exec.of_bind_ok stored
  obtain ⟨third, lengthed, last⟩ := Exec.of_bind_ok stored
  have place := Exec.require_eq_ok.mp place
  have sender := length_storeAt sender
  have timed := length_storeAt timed
  have lengthed := length_storeAt lengthed
  have last := length_storeAt last
  simp only [Buffer.length_resize, List.length_append, Buffer.length_ofWord,
    length_ofLong, List.length_cons, List.length_nil] at sender timed lengthed
  generalize Int.bmod records.length 4294967296 = psiz at *
  omega

def storeAll : List Stored → Buffer → Exec Buffer
  | [], records => .ok records
  | stored :: rest, records => do
      let records ← storeLengthRecord records stored.sendid stored.time
        stored.message
      storeAll rest records

theorem storeAll_append (front back : List Stored) (records : Buffer) :
    storeAll (front ++ back) records =
      (storeAll front records >>= storeAll back) := by
  induction front generalizing records with
  | nil => rfl
  | cons stored rest induction =>
      rw [List.cons_append, storeAll, storeAll]
      cases storeLengthRecord records stored.sendid stored.time
          stored.message with
      | error fault => rfl
      | ok records => exact induction records

/-- Rows whose messages are long enough, and whose last record begins where
`psiz` can be. -/
structure Lengthed (size : Nat) (entries : List Stored) : Prop where
  lengths : ∀ stored ∈ entries,
    4 ≤ stored.message.length ∧ stored.message.length < 4294967296
  place : entries = [] ∨
    size + (entries.dropLast.map lengthedSize).sum + 16 ≤ 2147483647

theorem Lengthed.head {size : Nat} {stored : Stored} {rest : List Stored}
    (lengthed : Lengthed size (stored :: rest)) : size + 16 ≤ 2147483647 := by
  rcases lengthed.place with none | place
  · cases none
  · omega

theorem Lengthed.tail {size : Nat} {stored : Stored} {rest : List Stored}
    (lengthed : Lengthed size (stored :: rest)) :
    Lengthed (size + lengthedSize stored) rest := by
  refine ⟨fun other member => lengthed.lengths other
    (List.mem_cons_of_mem stored member), ?_⟩
  cases rest with
  | nil => exact .inl rfl
  | cons next rest =>
      rcases lengthed.place with none | place
      · cases none
      · rw [List.dropLast_cons_cons, List.map_cons, List.sum_cons] at place
        exact .inr (by omega)

theorem storeAll_eq {entries : List Stored} {records : Buffer}
    (lengthed : Lengthed records.length entries) :
    ∃ bytes, storeAll entries records = .ok (records ++ bytes) ∧
      Encodes bytes entries := by
  induction entries generalizing records with
  | nil => exact ⟨[], congrArg Except.ok (List.append_nil records).symm, rfl⟩
  | cons stored rest induction =>
      obtain ⟨long, short⟩ := lengthed.lengths stored (List.mem_cons_self ..)
      have next := storeLengthRecord_eq stored.sendid stored.time
        lengthed.head long short
      have grown (bytes : Buffer)
          (size : bytes.length = lengthedSize stored) :
          Lengthed (records ++ bytes).length rest := by
        rw [List.length_append, size]
        exact lengthed.tail
      obtain ⟨bytes, later, encodes⟩ := induction (grown
        (Buffer.ofWord (UInt32.ofInt stored.sendid) ++ (ofLong stored.time ++
          (Buffer.ofWord (UInt32.ofNat stored.message.length) ++
            stored.message))) (by simp [lengthedSize]; omega))
      refine ⟨_, ?_, UInt32.ofNat stored.message.length, bytes, ?_, rfl,
        encodes⟩
      · rw [storeAll, next, Exec.bind_ok, later, List.append_assoc]
      · rw [UInt32.toNat_ofNat']
        exact Nat.mod_eq_of_lt short

theorem long_of_storeAll {entries : List Stored} {records after : Buffer}
    (stored : storeAll entries records = .ok after) :
    ∀ entry ∈ entries, 4 ≤ entry.message.length := by
  induction entries generalizing records with
  | nil => exact fun _ member => absurd member List.not_mem_nil
  | cons first rest induction =>
      obtain ⟨next, here, later⟩ := Exec.of_bind_ok stored
      intro entry member
      cases List.mem_cons.mp member with
      | inl same => exact same ▸ (of_storeLengthRecord here).2
      | inr member => exact induction later entry member

theorem short_of_encodes {bytes : Buffer} {entries : List Stored}
    (encodes : Encodes bytes entries) :
    ∀ entry ∈ entries, entry.message.length < 4294967296 := by
  induction entries generalizing bytes with
  | nil => exact fun _ member => absurd member List.not_mem_nil
  | cons first rest induction =>
      obtain ⟨length, tail, same, _, encodes⟩ := encodes
      intro entry member
      cases List.mem_cons.mp member with
      | inl here => rw [here, ← same]; exact length.toNat_lt
      | inr member => exact induction encodes entry member

theorem lengthed_of_storeAll {entries : List Stored} {records bytes : Buffer}
    (stored : storeAll entries records = .ok (records ++ bytes))
    (encodes : Encodes bytes entries) : Lengthed records.length entries := by
  refine ⟨fun entry member => ⟨long_of_storeAll stored entry member,
    short_of_encodes encodes entry member⟩, ?_⟩
  have size := Stored.length_of_encodes encodes
  cases List.eq_nil_or_concat entries with
  | inl none => exact .inl none
  | inr some =>
      obtain ⟨front, last, rfl⟩ := some
      rw [List.concat_eq_append] at *
      rw [storeAll_append] at stored
      obtain ⟨middle, _, stored⟩ := Exec.of_bind_ok stored
      obtain ⟨after, stored, same⟩ := Exec.of_bind_ok stored
      cases same
      have room := (of_storeLengthRecord stored).1
      rw [List.length_append, size, List.map_append, List.sum_append,
        List.map_singleton, List.sum_singleton, lengthedSize] at room
      rw [List.dropLast_concat]
      exact .inr (by omega)

theorem serhCountLoop_long {count rownum tcnt : Int} {found : List Row}
    {records after : Buffer} (low : tcnt ≤ 2147483647)
    (many : 2147483648 ≤ tcnt + found.length) :
    serhCountLoop count rownum found tcnt records ≠ .ok after := by
  induction found generalizing tcnt records with
  | nil =>
      have none : tcnt + (0 : Nat) = tcnt := Int.add_zero tcnt
      rw [List.length_nil, none] at many
      exact absurd low (Int.not_le.mpr (Int.lt_of_lt_of_le (by decide) many))
  | cons row found induction =>
      rw [List.length_cons] at many
      unfold serhCountLoop
      split
      · intro stored
        cases stored
      · rename_i small
        have low := Int.lt_of_not_ge (not_or.mp small).2
        have next : 2147483648 ≤ tcnt + 1 + found.length := by omega
        split
        · exact induction (by omega) next
        · intro stored
          obtain ⟨_, _, stored⟩ := Exec.of_bind_ok stored
          obtain ⟨_, _, stored⟩ := Exec.of_bind_ok stored
          obtain ⟨_, _, stored⟩ := Exec.of_bind_ok stored
          obtain ⟨_, _, stored⟩ := Exec.of_bind_ok stored
          exact induction (by omega) next stored

/-- The loop stores the last rows, unless its count gets too large. -/
theorem serhCountLoop_iff {count rownum tcnt : Int} {found : List Row}
    {table : List Stored} {records after : Buffer}
    (shown : List.Forall₂ Stored.Shown found table)
    (proper : ∀ stored ∈ table, stored.Proper)
    (left : tcnt + table.length = rownum) (few : rownum ≤ 2147483647) :
    serhCountLoop count rownum found tcnt records = .ok after ↔
      (table = [] ∨ rownum + count ≤ 2147483648) ∧
        storeAll (lastOf count.toNat table) records = .ok after := by
  induction shown generalizing tcnt records with
  | nil => simp [serhCountLoop, lastOf, storeAll]
  | @cons row stored found table front shown induction =>
      have rest : ∀ stored ∈ table, stored.Proper := fun other member =>
        proper other (List.mem_cons_of_mem stored member)
      obtain ⟨sendid, time, message⟩ := proper stored (List.mem_cons_self ..)
      rw [List.length_cons] at left
      have next : tcnt + 1 + table.length = rownum := by omega
      have before : ¬ 2147483647 ≤ tcnt := by omega
      have last : table = [] → tcnt + 1 = rownum := by
        intro none
        rw [none] at next
        simpa using next
      by_cases exceeds : 2147483647 < tcnt + count
      · rw [serhCountLoop, if_pos (.inl exceeds)]
        constructor
        · intro impossible
          cases impossible
        · rintro ⟨none | small, _⟩
          · cases none
          · omega
      have same : (stored :: table = [] ∨ rownum + count ≤ 2147483648) ↔
          (table = [] ∨ rownum + count ≤ 2147483648) := by
        constructor
        · rintro (none | small)
          · cases none
          · exact .inr small
        · rintro (none | small)
          · exact .inr (by have := last none; omega)
          · exact .inr small
      rw [serhCountLoop, if_neg (not_or_intro exceeds before), same]
      by_cases skipped : tcnt + count < rownum
      · rw [if_pos skipped, induction rest next,
          lastOf_cons stored (by rw [List.length_cons]; omega)]
      · have all : lastOf count.toNat (stored :: table) = stored :: table :=
          lastOf_of_length_le (by rw [List.length_cons]; omega)
        have later : lastOf count.toNat table = table :=
          lastOf_of_length_le (by omega)
        rw [if_neg skipped, row_text front.message message, Exec.bind_ok,
          row_text front.sendid (clean_ofInt _), Exec.bind_ok,
          row_text front.time (clean_ofInt _), Exec.bind_ok,
          atoi_ofInt sendid.1 sendid.2, atoll,
          strtol_ofInt time.1 time.2, all, storeAll]
        cases storeLengthRecord records stored.sendid stored.time
            stored.message with
        | error fault => simp
        | ok records =>
            rw [Exec.bind_ok, Exec.bind_ok, induction rest next, later]

/-- The database server answers the query with the rows of a table. -/
structure PairAnswers (env : Env ω) (world : ω) (peo1 peo2 : Int)
    (table : List Stored) : Prop where
  proper : ∀ stored ∈ table, stored.Proper
  selected : ∃ found,
    (mysqlQuery env world (serhPairSql peo1 peo2)).1 = .rows found ∧
    List.Forall₂ Stored.Shown found (table.filter (Stored.exchanged peo1 peo2))

/-- What the encoder can take of the rows it finds. -/
structure Encodable (count : Int) (entries : List Stored) : Prop where
  few : entries.length < 2147483648
  counted : entries = [] ∨ entries.length + count ≤ 2147483648
  lengthed : Lengthed 0 (lastOf count.toNat entries)

/-- The history with explicit lengths is what it is documented to be exactly
where each of its messages has a length of at least four bytes and the sizes
stay in their types. -/
theorem serhMessageCount_iff {world : ω} {peo1 peo2 : Int} (count : Int)
    {table : List Stored} (answers : PairAnswers env world peo1 peo2 table) :
    (∃ found, serhMessageCount env world peo1 peo2 count = .ok found ∧
      found.ret = 0 ∧ Encodes found.records (lastOf count.toNat
        (table.filter (Stored.exchanged peo1 peo2)))) ↔
      Encodable count (table.filter (Stored.exchanged peo1 peo2)) := by
  obtain ⟨found, selected, shown⟩ := answers.selected
  have proper : ∀ stored ∈ table.filter (Stored.exchanged peo1 peo2),
      stored.Proper := fun stored member =>
    answers.proper stored (List.mem_of_mem_filter member)
  generalize table.filter (Stored.exchanged peo1 peo2) = entries at *
  have size := shown.length_eq
  unfold serhMessageCount
  dsimp only
  rw [selected]
  dsimp only
  constructor
  · rintro ⟨_, ran, _, encodes⟩
    obtain ⟨records, looped, ran⟩ := Exec.of_bind_ok ran
    cases ran
    have few : entries.length < 2147483648 := by
      by_contra many
      exact serhCountLoop_long (by decide) (by omega) looped
    have rownum : 0 + (entries.length : Int) =
        Int.bmod found.length 4294967296 := by
      rw [Int.bmod_def]
      omega
    have looped := (serhCountLoop_iff shown proper rownum (by omega)).mp looped
    rw [← rownum, Int.zero_add] at looped
    exact ⟨few, looped.1, lengthed_of_storeAll looped.2 encodes⟩
  · intro encodable
    have few := encodable.few
    have rownum : 0 + (entries.length : Int) =
        Int.bmod found.length 4294967296 := by
      rw [Int.bmod_def]
      omega
    obtain ⟨bytes, stored, encodes⟩ := @storeAll_eq _ []
      encodable.lengthed
    have looped := (serhCountLoop_iff shown proper rownum (by omega)).mpr
      ⟨by rw [← rownum, Int.zero_add]; exact encodable.counted, stored⟩
    exact ⟨_, by rw [looped]; rfl, rfl, encodes⟩

/-! A history with a short message. -/

/-- A database server that answers every query with these rows. -/
def fixedEnv (found : List Row) : Env Unit where
  query := fun _ _ => (.rows found, ())
  time := fun _ => 0
  stray := fun _ => false

def shownRow (stored : Stored) : Row :=
  [none, some (ofInt stored.sendid), some (ofInt stored.recvid),
    some (ofInt stored.time), some stored.message]

theorem fixedEnv_answers {table : List Stored} {peo1 peo2 : Int}
    (proper : ∀ stored ∈ table, stored.Proper) :
    PairAnswers (fixedEnv ((table.filter (Stored.exchanged peo1 peo2)).map
      shownRow)) () peo1 peo2 table := by
  refine ⟨proper, _, rfl, ?_⟩
  rw [List.forall₂_map_left_iff]
  exact List.forall₂_same.mpr fun _ _ => ⟨rfl, rfl, rfl⟩

def oneText (message : Buffer) : Stored := ⟨1, 2, 3, message⟩

theorem oneText_proper {message : Buffer} (clean : (0 : UInt8) ∉ message) :
    ∀ stored ∈ [oneText message], stored.Proper := by
  intro stored member
  cases List.mem_singleton.mp member
  exact ⟨⟨by simp [oneText], by simp [oneText]⟩,
    ⟨by simp [oneText], by simp [oneText]⟩, clean⟩

theorem serhMessageCount_hello : ∃ found,
    serhMessageCount (fixedEnv [shownRow (oneText (Buffer.ofText "hello"))])
      () 1 2 10 = .ok found ∧ found.ret = 0 ∧
    Encodes found.records [oneText (Buffer.ofText "hello")] :=
  (serhMessageCount_iff 10
    (@fixedEnv_answers _ 1 2 (oneText_proper (by decide)))).mpr
    ⟨by decide, by decide, by
      constructor
      · intro stored member
        cases List.mem_singleton.mp member
        exact ⟨by decide, by decide⟩
      · exact .inr (by decide)⟩

/-- The store of the length of a message of two bytes ends behind the
buffer. -/
theorem serhMessageCount_hi : ¬ ∀ (env : Env Unit) (table : List Stored)
    (count : Int), PairAnswers env () 1 2 table → ∃ found,
      serhMessageCount env () 1 2 count = .ok found ∧ found.ret = 0 ∧
        Encodes found.records (lastOf count.toNat
          (table.filter (Stored.exchanged 1 2))) := by
  intro always
  obtain ⟨found, ran, _⟩ := always _ _ 10 (@fixedEnv_answers
    [oneText (Buffer.ofText "hi")] 1 2 (oneText_proper (by decide)))
  have stopped : (serhMessageCount
      (fixedEnv (([oneText (Buffer.ofText "hi")].filter
        (Stored.exchanged 1 2)).map shownRow)) () 1 2 10).completes =
          false := by
    decide +kernel
  rw [ran] at stopped
  cases stopped

end Database

end GroupChat.Server
