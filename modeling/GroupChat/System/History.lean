import GroupChat.Client.History
import GroupChat.Server.Directory
import GroupChat.System.Transfer

namespace GroupChat.System

/-! A history on its way from the record table to the client. -/

open Client
open Server hiding Uid machine Record

variable {ω : Type}

theorem received_recordsMsg {records : Buffer}
    (short : records.length ≤ 65531) :
    (received (Connections.recordsMsg records)).header.length.toNat =
      sizeofHeader + records.length := by
  have swapped : (received (Connections.recordsMsg records)).header.length =
      UInt16.ofNat (sizeofHeader + records.length) := ntohs_htons _
  rw [swapped, UInt16.toNat_ofNat', sizeofHeader]
  omega

/-- The history the server makes of the record table is what the client reads:
the last rows of the conversation, oldest first. -/
theorem history_roundtrip (env : Env ω) (world : ω)
    (myid srid rcnt : Int) (table : List Stored)
    (answers : Database.HistoryAnswers env world myid srid rcnt table)
    (proper : ∀ stored ∈ table, stored.Proper) (positive : 0 ≤ rcnt)
    (small : rcnt + (table.filter (Stored.between myid srid)).length <
      2147483648)
    (fits : ((lastOf rcnt.toNat (table.filter
      (Stored.between myid srid))).flatMap Stored.encoded).length ≤ 65531) :
    ∃ records world',
      Database.serhMessage env world myid srid = .ok ⟨0, records, world'⟩ ∧
      (received (Connections.recordsMsg records)).header.length.toNat =
        sizeofHeader + records.length ∧
      DataStream.readRecords records.length records =
        ((lastOf rcnt.toNat (table.filter
          (Stored.between myid srid))).map .ofStored, []) ∧
      ∀ (host : Host) (c : TcpClient) (otherUid : Client.Uid),
        c.receivedData = records →
        c.fetchUserChatHistory host otherUid =
          ((lastOf rcnt.toNat (table.filter (Stored.between myid srid))).map
            .ofStored).foldlM (TcpClient.takeRecord host otherUid) c := by
  obtain ⟨world', made⟩ :=
    Database.serhMessage_eq answers proper positive small
  have kept : ∀ stored ∈ lastOf rcnt.toNat (table.filter
      (Stored.between myid srid)), stored.Proper := by
    intro stored member
    exact proper stored (List.mem_of_mem_filter (List.mem_of_mem_drop member))
  have read := DataStream.readRecords_encoded kept (Nat.le_refl _)
  refine ⟨_, world', made, received_recordsMsg fits, read, ?_⟩
  intro host c otherUid data
  unfold TcpClient.fetchUserChatHistory
  rw [TcpClient.fetchRecords_eq, data, read]

def storedTwo : List Stored :=
  [⟨1, 2, 7, .ofText "hi"⟩, ⟨3, 0xFFFF, 8, .ofText "all"⟩]

def recordsOf (table : List Stored) : List Server.Record :=
  table.map fun stored => ⟨Decimal.ofInt stored.sendid,
    Decimal.ofInt stored.recvid, Decimal.ofInt stored.time, stored.message⟩

theorem history_roundtrip_two : ∃ records world',
    Database.serhMessage (Tables.keptEnv threeAccounts) (recordsOf storedTwo)
      2 1 = .ok ⟨0, records, world'⟩ ∧
    DataStream.readRecords records.length records =
      ([⟨1, 7, .ofText "hi"⟩], []) := by
  have answers : Database.HistoryAnswers (Tables.keptEnv threeAccounts)
      (recordsOf storedTwo) 2 1 100 storedTwo := by
    refine ⟨by decide +kernel, [[some [], some (Decimal.ofInt 1),
      some (Decimal.ofInt 2), some (Decimal.ofInt 7), some (.ofText "hi")]],
      by decide +kernel, ?_⟩
    exact .cons ⟨rfl, rfl, rfl⟩ .nil
  have proper : ∀ stored ∈ storedTwo, stored.Proper := by
    intro stored member
    simp only [storedTwo, List.mem_cons, List.not_mem_nil, or_false] at member
    rcases member with rfl | rfl
    · exact ⟨by decide, by decide, by decide⟩
    · exact ⟨by decide, by decide, by decide⟩
  obtain ⟨records, world', made, _, read, _⟩ :=
    history_roundtrip (Tables.keptEnv threeAccounts) (recordsOf storedTwo) 2 1
      100 storedTwo answers proper (by decide) (by decide) (by decide +kernel)
  exact ⟨records, world', made, read⟩

end GroupChat.System
