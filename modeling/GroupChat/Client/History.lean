import GroupChat.Client.TcpClient
import GroupChat.Server.Records

namespace GroupChat.Client

/-! The histories as the client reads them. -/

open Server (Stored lastOf)

structure HistoryRecord where
  uid : Uid
  time : Int
  msg : Buffer
  deriving DecidableEq, Repr

namespace DataStream

def readRecord (bytes : Buffer) : HistoryRecord × Buffer :=
  let (uid, rest) := readWord bytes
  let (time, rest) := readLong rest
  let (msg, rest) := readText rest
  (⟨uid, time, msg⟩, rest)

def readRecords : Nat → Buffer → List HistoryRecord × Buffer
  | _, [] => ([], [])
  | 0, b :: bytes => ([], b :: bytes)
  | fuel + 1, b :: bytes =>
      let (record, rest) := readRecord (b :: bytes)
      let (records, rest) := readRecords fuel rest
      (record :: records, rest)

theorem readLong_ofLong {number : Int}
    (range : -9223372036854775808 ≤ number ∧ number ≤ 9223372036854775807)
    (rest : Buffer) :
    readLong (Server.Database.ofLong number ++ rest) = (number, rest) := by
  obtain ⟨low, high⟩ := range
  have value : (((UInt32.ofNat ((number % 18446744073709551616).toNat /
      4294967296)).toNat : Int) * 4294967296 +
      ((UInt32.ofNat (number % 18446744073709551616).toNat).toNat : Int)) =
        number % 18446744073709551616 := by
    rw [UInt32.toNat_ofNat', UInt32.toNat_ofNat']
    omega
  have long : ¬ (Server.Database.ofLong number ++ rest).length < 8 := by
    rw [List.length_append, Server.Database.length_ofLong]
    omega
  have same : Int.bmod (number % 18446744073709551616)
      18446744073709551616 = number := by
    have wrapped := Int.emod_bmod number 18446744073709551616
    exact wrapped.trans (Int.bmod_eq_of_le (by omega) (by omega))
  rw [readLong, if_neg long, Server.Database.ofLong]
  simp only [List.append_assoc, readWord_ofWord]
  rw [value, same]

end DataStream

def HistoryRecord.ofStored (stored : Stored) : HistoryRecord :=
  ⟨UInt32.ofInt stored.sendid, stored.time, stored.message⟩

namespace DataStream

theorem readRecord_encoded {stored : Stored} (proper : stored.Proper)
    (rest : Buffer) :
    readRecord (stored.encoded ++ rest) = (.ofStored stored, rest) := by
  unfold readRecord Stored.encoded
  simp only [List.append_assoc, readWord_ofWord, readLong_ofLong proper.time,
    List.singleton_append, readText_append proper.message]
  rfl

theorem length_encoded (stored : Stored) : 13 ≤ stored.encoded.length := by
  simp only [Stored.encoded, List.length_append, Buffer.length_ofWord,
    Server.Database.length_ofLong, List.length_singleton]
  omega

theorem readRecords_encoded {table : List Stored} {fuel : Nat}
    (proper : ∀ stored ∈ table, stored.Proper)
    (enough : (table.flatMap Stored.encoded).length ≤ fuel) :
    readRecords fuel (table.flatMap Stored.encoded) =
      (table.map .ofStored, []) := by
  induction table generalizing fuel with
  | nil => cases fuel <;> rfl
  | cons stored table induction =>
      have rest : ∀ stored ∈ table, stored.Proper := fun other member =>
        proper other (List.mem_cons_of_mem stored member)
      have long := length_encoded stored
      rw [List.flatMap_cons, List.length_append] at enough
      have read := readRecord_encoded (proper stored (List.mem_cons_self ..))
        (table.flatMap Stored.encoded)
      rw [List.flatMap_cons]
      cases fuel with
      | zero => omega
      | succ fuel =>
          cases front : stored.encoded ++ table.flatMap Stored.encoded with
          | nil =>
              have size := congrArg List.length front
              rw [List.length_append, List.length_nil] at size
              omega
          | cons b bytes =>
              rw [front] at read
              simp only [readRecords, read,
                @induction fuel rest (by omega)]
              rfl

end DataStream

namespace TcpClient

def takeRecord (host : Host) (otherUid : Uid) (c : TcpClient)
    (record : HistoryRecord) : Exec TcpClient := do
  Exec.require (c.uname.length ≠ 0) .assertion
  Exec.require (c.mapContacts.entries ≠ []) .assertion
  let (name, named) := c.recordName record.uid
  .ok { named with
    recordModel := named.recordModel.addRecord host otherUid
      (decide (record.uid = c.uid)) name (host.fromLocal8Bit record.msg)
      record.time }

theorem fetchRecord_eq (host : Host) (otherUid : Uid) (bytes : Buffer)
    (c : TcpClient) :
    fetchRecord host otherUid bytes c =
      (c.takeRecord host otherUid (DataStream.readRecord bytes).1 >>= fun c =>
        .ok ((DataStream.readRecord bytes).2, c)) := by
  unfold fetchRecord takeRecord DataStream.readRecord
  dsimp only
  simp only [bind_assoc, Exec.bind_ok]

theorem fetchRecords_eq (host : Host) (otherUid : Uid) (fuel : Nat)
    (bytes : Buffer) (c : TcpClient) :
    fetchRecords host otherUid fuel bytes c =
      (DataStream.readRecords fuel bytes).1.foldlM
        (takeRecord host otherUid) c := by
  induction fuel generalizing bytes c with
  | zero => cases bytes <;> rfl
  | succ fuel induction =>
      cases bytes with
      | nil => rfl
      | cons b bytes =>
          simp only [fetchRecords, fetchRecord_eq, DataStream.readRecords,
            List.foldlM_cons, bind_assoc, Exec.bind_ok, induction]

end TcpClient

end GroupChat.Client
