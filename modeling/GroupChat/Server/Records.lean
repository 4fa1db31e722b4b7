import Mathlib.Data.List.Forall2
import GroupChat.Server.Database

namespace GroupChat.Server

/-! The record table, and the history made of its rows. -/

open Buffer (ofText)
open Decimal

structure Stored where
  sendid : Int
  recvid : Int
  time : Int
  message : Buffer
  deriving DecidableEq, Repr

namespace Stored

/-- What the columns hold: an `int`, a `bigint` and a text. -/
structure Proper (stored : Stored) : Prop where
  sendid : -2147483648 ≤ stored.sendid ∧ stored.sendid < 2147483648
  time : -9223372036854775808 ≤ stored.time ∧
    stored.time ≤ 9223372036854775807
  message : (0 : UInt8) ∉ stored.message

/-- A row as it is fetched, a text for each column. -/
structure Shown (row : Row) (stored : Stored) : Prop where
  sendid : row[1]? = some (some (ofInt stored.sendid))
  time : row[3]? = some (some (ofInt stored.time))
  message : row[4]? = some (some stored.message)

/-- The rows that a user asks for with `serh_message`. -/
def between (myid srid : Int) (stored : Stored) : Bool :=
  if srid = 0xFFFF then
    stored.recvid = 0xFFFF
  else
    stored.sendid = myid ∧ stored.recvid = srid ∨
      stored.sendid = srid ∧ stored.recvid = myid

/-- The statement that is meant to ask for them. -/
def request (myid srid : Int) : Buffer :=
  if srid = 0xFFFF then
    ofText "select * from record where recvid=0xFFFF order by rid asc"
  else
    ofText "select * from record where sendid=" ++ ofInt myid ++
      ofText " and recvid=" ++ ofInt srid ++ ofText " or sendid=" ++
      ofInt srid ++ ofText " and recvid=" ++ ofInt myid ++
      ofText " order by rid asc"

def encoded (stored : Stored) : Buffer :=
  Buffer.ofWord (UInt32.ofInt stored.sendid) ++
    (Database.ofLong stored.time ++ (stored.message ++ [0]))

end Stored

def lastOf {α : Type} (count : Nat) (entries : List α) : List α :=
  entries.drop (entries.length - count)

theorem lastOf_cons {α : Type} {count : Nat} {entries : List α} (entry : α)
    (more : count < (entry :: entries).length) :
    lastOf count (entry :: entries) = lastOf count entries := by
  have skip : (entry :: entries).length - count =
      entries.length - count + 1 := by
    rw [List.length_cons] at more ⊢
    omega
  rw [lastOf, skip, List.drop_succ_cons, lastOf]

theorem lastOf_of_length_le {α : Type} {count : Nat} {entries : List α}
    (short : entries.length ≤ count) : lastOf count entries = entries := by
  rw [lastOf, Nat.sub_eq_zero_of_le short, List.drop_zero]

/-! Storing a record. -/

theorem overwrite_zeros {front : Buffer} {offset : Nat} (bytes : Buffer)
    (size : Nat) (start : front.length = offset) :
    (front ++ List.replicate size 0).overwrite offset bytes =
      (front ++ bytes) ++ List.replicate (size - bytes.length) 0 := by
  subst start
  have rest : (front ++ List.replicate size (0 : UInt8)).drop
      (front.length + bytes.length) =
        List.replicate (size - bytes.length) 0 := by
    rw [List.drop_length_add_append, List.drop_replicate]
  rw [Buffer.overwrite, List.take_left, rest]

namespace Database

variable {ω : Type} {env : Env ω}

@[simp] theorem length_ofLong (number : Int) :
    (ofLong number).length = 8 := rfl

theorem storeRecord_eq (records : Buffer) (sendid time : Int)
    (message : Buffer) :
    storeRecord records sendid time message = records ++
      (Buffer.ofWord (UInt32.ofInt sendid) ++
        (ofLong time ++ (message ++ [0]))) := by
  have sized : records.resize (records.length + 12 + message.length + 1) =
      records ++ List.replicate (12 + message.length + 1) 0 := by
    rw [Buffer.resize, List.take_of_length_le (by omega)]
    congr 2
    omega
  have end' : 12 + message.length + 1 - 4 - 8 - (message ++ [0]).length = 0 := by
    simp only [List.length_append, List.length_singleton]
    omega
  unfold storeRecord
  dsimp only
  rw [sized, overwrite_zeros _ _ rfl, overwrite_zeros _ _ (by simp),
    overwrite_zeros _ _ (by simp), Buffer.length_ofWord, length_ofLong, end',
    List.replicate_zero, List.append_nil]
  simp only [List.append_assoc]

theorem row_text {row : Row} {column : Nat} {text : Buffer}
    (shown : row[column]? = some (some text)) (clean : (0 : UInt8) ∉ text) :
    row.text column = .ok text := by
  rw [Row.text, shown]
  exact congrArg Except.ok (Buffer.cString_of_clean clean)

theorem clean_ofInt (number : Int) : (0 : UInt8) ∉ ofInt number :=
  notMem_ofInt (by unfold IsDigit; decide) (by decide) number

/-- The loop stores the last rows, one record behind the other, unless its
count gets too large. -/
theorem serhLoop_eq {count rownum tcnt : Int} {found : List Row}
    {table : List Stored} (records : Buffer)
    (shown : List.Forall₂ Stored.Shown found table)
    (proper : ∀ stored ∈ table, stored.Proper)
    (left : tcnt + table.length = rownum) :
    serhLoop count rownum found tcnt records =
      if table ≠ [] ∧ 2147483648 < rownum + count then
        .error .undefined
      else
        .ok (records ++
          ((lastOf count.toNat table).flatMap Stored.encoded)) := by
  induction shown generalizing tcnt records with
  | nil => simp [serhLoop, lastOf]
  | @cons row stored found table front shown induction =>
      have rest : ∀ stored ∈ table, stored.Proper := fun other member =>
        proper other (List.mem_cons_of_mem stored member)
      obtain ⟨sendid, time, message⟩ := proper stored (List.mem_cons_self ..)
      rw [List.length_cons] at left
      have next : tcnt + 1 + table.length = rownum := by omega
      have more : table = [] → tcnt + 1 = rownum := by
        intro none
        rw [none] at next
        simpa using next
      by_cases exceeds : 2147483647 < tcnt + count
      · rw [serhLoop, if_pos exceeds,
          if_pos ⟨List.cons_ne_nil _ _, by omega⟩]
      have same : (stored :: table ≠ [] ∧ 2147483648 < rownum + count) ↔
          (table ≠ [] ∧ 2147483648 < rownum + count) := by
        constructor
        · intro both
          exact ⟨fun none => by have := more none; omega, both.2⟩
        · intro both
          exact ⟨List.cons_ne_nil _ _, both.2⟩
      simp only [serhLoop, if_neg exceeds, same]
      by_cases skipped : tcnt + count < rownum
      · rw [if_pos skipped, induction records rest next,
          lastOf_cons stored (by rw [List.length_cons]; omega)]
      · have all : lastOf count.toNat (stored :: table) = stored :: table :=
          lastOf_of_length_le (by rw [List.length_cons]; omega)
        have later : lastOf count.toNat table = table :=
          lastOf_of_length_le (by omega)
        rw [if_neg skipped, row_text front.message message,
          row_text front.sendid (clean_ofInt _),
          row_text front.time (clean_ofInt _)]
        simp only [Exec.bind_ok]
        rw [atoi_ofInt sendid.1 sendid.2, atoll,
          strtol_ofInt time.1 time.2, storeRecord_eq, induction _ rest next,
          all, later, List.flatMap_cons, List.append_assoc]
        rfl

/-- The database server answers the two queries for a history of a user with a
limit and a record table. -/
structure HistoryAnswers (env : Env ω) (world : ω) (myid srid rcnt : Int)
    (table : List Stored) : Prop where
  counted : (mysqlQuery env world (ofText "select rcnt from login where uid=" ++
    ofInt myid ++ ofText ";")).1 = .rows [[some (ofInt rcnt)]]
  selected : ∃ found, (mysqlQuery env
      (mysqlQuery env world (ofText "select rcnt from login where uid=" ++
        ofInt myid ++ ofText ";")).2 (Stored.request myid srid)).1 =
          .rows found ∧
    List.Forall₂ Stored.Shown found (table.filter (Stored.between myid srid))

theorem serhMessageSql_eq (myid srid : Int) :
    serhMessageSql myid srid = Stored.request myid srid := rfl

theorem recordCntSql_eq (uid : Int) : recordCntSql uid =
    ofText "select rcnt from login where uid=" ++ ofInt uid ++ ofText ";" :=
  rfl

theorem getRecordCnt_eq {world : ω} {myid rcnt : Int}
    (counted : (mysqlQuery env world (recordCntSql myid)).1 =
      .rows [[some (ofInt rcnt)]])
    (low : -2147483648 ≤ rcnt) (high : rcnt < 2147483648) :
    getRecordCnt env world myid =
      .ok (rcnt, (mysqlQuery env world (recordCntSql myid)).2) := by
  have text : Row.text [some (ofInt rcnt)] 0 = .ok (ofInt rcnt) :=
    row_text rfl (clean_ofInt rcnt)
  unfold getRecordCnt numberOf
  simp only [counted, text, Exec.bind_ok, atoi_ofInt low high]

theorem serhMessage_eq {world : ω} {myid srid rcnt : Int}
    {table : List Stored}
    (answers : HistoryAnswers env world myid srid rcnt table)
    (proper : ∀ stored ∈ table, stored.Proper) (positive : 0 ≤ rcnt)
    (small : rcnt + (table.filter (Stored.between myid srid)).length <
      2147483648) :
    ∃ world', serhMessage env world myid srid = .ok ⟨0,
      (lastOf rcnt.toNat
        (table.filter (Stored.between myid srid))).flatMap Stored.encoded,
      world'⟩ := by
  obtain ⟨found, selected, shown⟩ := answers.selected
  have looped := @serhLoop_eq rcnt found.length 0 found _ [] shown
    (fun stored member => proper stored (List.mem_of_mem_filter member))
    (by rw [shown.length_eq]; omega)
  rw [if_neg (by rw [shown.length_eq]; omega)] at looped
  unfold serhMessage
  rw [getRecordCnt_eq answers.counted (by omega) (by omega), Exec.bind_ok,
    serhMessageSql_eq, recordCntSql_eq]
  simp only [selected, looped, Exec.bind_ok, List.nil_append]
  exact ⟨_, rfl⟩

end Database

end GroupChat.Server
