import GroupChat.Lib.Around
import GroupChat.Server.Filed
import GroupChat.Server.Login

namespace GroupChat.Server

/-! Several transfers between the same two users. -/

open Around

variable {ω : Type} {env : Env ω}

namespace FileRow

def complete (row : FileRow) : Bool := row.succsiz = row.allsiz

theorem permit_waits (sendid recvid : Int) (row : FileRow) :
    (row.permit sendid recvid).waits sendid recvid = false := by
  cases waits : row.waits sendid recvid with
  | false => rwa [permit_eq_self.mpr waits]
  | true =>
      apply Bool.eq_false_iff.mpr
      intro still
      have statue := (isAt_iff.mp still).2.2
      rw [permit, if_pos waits] at statue
      cases statue

end FileRow

namespace FileOp

/-- The rows as a statement that disturbs no other transfer leaves them: an
answer deals with one pending row, an acknowledgement with the row of one
transfer that goes on. -/
def Undisturbed (rows rows' : List FileRow) : FileOp → Prop
  | .request _ _ _ _ => rows <+: rows'
  | .respond accepted sendid recvid => ∃ before row after,
      rows = before ++ row :: after ∧
      row.waits (toSigned sendid) (toSigned recvid) = true ∧
      rows' = before ++
        (if accepted then [{ row with statue := 1 }] else []) ++ after
  | .acknowledge sendid recvid siz => ∃ before row after,
      rows = before ++ row :: after ∧
      row.goes (toSigned sendid) (toSigned recvid) = true ∧
      row.complete = false ∧
      rows' = before ++ { row with succsiz := toSigned siz } :: after

/-- An answer finds one request of the pair, not for an empty file; an
acknowledgement finds a transfer of the pair that goes on, and all others that
were ever accepted stand at the count it has. -/
def Alone (rows : List FileRow) (succeeds : Prop) : FileOp → Prop
  | .request _ _ _ _ => True
  | .respond _ sendid recvid => succeeds ∧
      rows.countP (FileRow.waits (toSigned sendid) (toSigned recvid)) = 1 ∧
      ∀ row ∈ rows, row.waits (toSigned sendid) (toSigned recvid) = true →
        row.complete = false
  | .acknowledge sendid recvid siz => ∃ row ∈ rows,
      row.goes (toSigned sendid) (toSigned recvid) = true ∧
      row.complete = false ∧
      (succeeds → ∀ other ∈ rows, other.tid ≠ row.tid →
        other.goes (toSigned sendid) (toSigned recvid) = true →
        other.succsiz = toSigned siz) ∧
      (¬ succeeds → row.succsiz = toSigned siz)

instance (rows : List FileRow) (succeeds : Prop) [Decidable succeeds]
    (op : FileOp) : Decidable (op.Alone rows succeeds) :=
  match op with
  | .request _ _ _ _ => inferInstanceAs (Decidable True)
  | .respond _ _ _ => inferInstanceAs (Decidable (_ ∧ _ ∧ ∀ row ∈ rows, _))
  | .acknowledge _ _ _ => inferInstanceAs (Decidable (∃ row ∈ rows, _))

end FileOp

/-- No row of a complete transfer is changed or removed. -/
def Stays (rows rows' : List FileRow) : Prop :=
  ∀ row ∈ rows, row.complete = true → row ∈ rows'

theorem Stays.of_split {before middle after : List FileRow} {row : FileRow}
    (incomplete : row.complete = false) :
    Stays (before ++ row :: after) (before ++ middle ++ after) := by
  intro other member complete
  rw [List.append_assoc]
  rcases List.mem_append.mp member with earlier | here
  · exact List.mem_append_left _ earlier
  · rcases List.mem_cons.mp here with rfl | later
    · rw [incomplete] at complete
      cases complete
    · exact List.mem_append_right _ (List.mem_append_right _ later)

section Answers

variable {rows rows' : List FileRow} {sendid recvid : UInt32}

theorem accept_undisturbed_iff
    (changed : rows' = rows.map
      (FileRow.permit (toSigned sendid) (toSigned recvid))) :
    (FileOp.respond true sendid recvid).Undisturbed rows rows' ↔
      rows.countP (FileRow.waits (toSigned sendid) (toSigned recvid)) = 1 := by
  subst changed
  rw [countP_eq_one_iff]
  refine exists_congr fun before => exists_congr fun row =>
    exists_congr fun after => and_congr_right ?_
  rintro rfl
  refine and_congr_right fun waits => ?_
  have permitted : row.permit (toSigned sendid) (toSigned recvid) =
      { row with statue := 1 } := if_pos waits
  rw [if_pos rfl, ← permitted, List.append_assoc, List.singleton_append,
    map_eq_split_iff]
  exact forall₂_congr fun other _ => FileRow.permit_eq_self

theorem refuse_undisturbed_iff
    (changed : rows' = rows.filter fun row =>
      !row.waits (toSigned sendid) (toSigned recvid)) :
    (FileOp.respond false sendid recvid).Undisturbed rows rows' ↔
      rows.countP (FileRow.waits (toSigned sendid) (toSigned recvid)) = 1 := by
  subst changed
  rw [countP_eq_one_iff_filter]
  simp only [FileOp.Undisturbed, Bool.false_eq_true, if_false,
    List.append_nil]

theorem respond_answers {accepted : Bool}
    (changed : (FileOp.respond accepted sendid recvid).Changes rows rows') :
    ∀ row ∈ rows', row.waits (toSigned sendid) (toSigned recvid) = false := by
  intro row member
  cases accepted with
  | true =>
      rw [show rows' = _ from changed] at member
      obtain ⟨old, _, rfl⟩ := List.mem_map.mp member
      exact FileRow.permit_waits _ _ old
  | false =>
      rw [show rows' = _ from changed] at member
      simpa using List.of_mem_filter member

theorem respond_unanswered {accepted : Bool} :
    ¬ (FileOp.respond accepted sendid recvid).Undisturbed rows rows := by
  rintro ⟨before, row, after, split, waits, left⟩
  rw [split, List.append_assoc] at left
  have same := List.append_cancel_left left
  cases accepted with
  | true =>
      have statue := (FileRow.isAt_iff.mp waits).2.2
      rw [(List.cons.inj same).1] at statue
      cases statue
  | false => exact List.cons_ne_self _ _ same

theorem respond_undisturbed_iff {accepted : Bool} {succeeds : Prop}
    (done : succeeds →
      (FileOp.respond accepted sendid recvid).Changes rows rows')
    (failed : ¬ succeeds → rows' = rows) :
    (FileOp.respond accepted sendid recvid).Undisturbed rows rows' ∧
        Stays rows rows' ↔
      (FileOp.respond accepted sendid recvid).Alone rows succeeds := by
  by_cases succeeded : succeeds
  · have changed := done succeeded
    have one : (FileOp.respond accepted sendid recvid).Undisturbed rows
        rows' ↔ rows.countP (FileRow.waits (toSigned sendid)
          (toSigned recvid)) = 1 := by
      cases accepted with
      | true => exact accept_undisturbed_iff changed
      | false => exact refuse_undisturbed_iff changed
    constructor
    · rintro ⟨undisturbed, stays⟩
      refine ⟨succeeded, one.mp undisturbed, ?_⟩
      intro row member waits
      apply Bool.eq_false_iff.mpr
      intro complete
      have answered :=
        respond_answers changed row (stays row member complete)
      rw [waits] at answered
      cases answered
    · rintro ⟨_, count, incomplete⟩
      have undisturbed := one.mpr count
      refine ⟨undisturbed, ?_⟩
      obtain ⟨before, row, after, rfl, waits, rfl⟩ := undisturbed
      apply Stays.of_split
      exact incomplete row (List.mem_append_right _ (.head _)) waits
  · rw [failed succeeded]
    exact iff_of_false (fun both => respond_unanswered both.1)
      (fun alone => succeeded alone.1)

theorem acknowledge_undisturbed_iff {siz : UInt32} {succeeds : Prop}
    (keyed : (rows.map FileRow.tid).Nodup)
    (done : succeeds →
      (FileOp.acknowledge sendid recvid siz).Changes rows rows')
    (failed : ¬ succeeds → rows' = rows) :
    (FileOp.acknowledge sendid recvid siz).Undisturbed rows rows' ↔
      (FileOp.acknowledge sendid recvid siz).Alone rows succeeds := by
  have each (before : List FileRow) (row : FileRow) (after : List FileRow)
      (split : rows = before ++ row :: after)
      (goes : row.goes (toSigned sendid) (toSigned recvid) = true) :
      rows' = before ++ { row with succsiz := toSigned siz } :: after ↔
        (succeeds → ∀ other ∈ rows, other.tid ≠ row.tid →
          other.goes (toSigned sendid) (toSigned recvid) = true →
          other.succsiz = toSigned siz) ∧
        (¬ succeeds → row.succsiz = toSigned siz) := by
    subst split
    by_cases succeeded : succeeds
    · have updated : row.update (toSigned sendid) (toSigned recvid)
          (toSigned siz) = { row with succsiz := toSigned siz } := if_pos goes
      rw [show rows' = _ from done succeeded, ← updated, map_eq_split_iff]
      constructor
      · intro fixed
        refine ⟨fun _ other member different => ?_,
          fun fails => absurd succeeded fails⟩
        exact FileRow.update_eq_self.mp
          (fixed other ((mem_around_iff keyed).mpr ⟨member, different⟩))
      · rintro ⟨others, _⟩ other around
        obtain ⟨member, different⟩ := (mem_around_iff keyed).mp around
        exact FileRow.update_eq_self.mpr
          (others succeeded other member different)
    · rw [failed succeeded]
      constructor
      · intro same
        refine ⟨fun impossible => absurd impossible succeeded, fun _ => ?_⟩
        have counts := congrArg FileRow.succsiz
          (List.cons.inj (List.append_cancel_left same)).1
        dsimp only at counts
        exact counts
      · rintro ⟨_, repeated⟩
        have same : { row with succsiz := toSigned siz } = row := by
          rw [← repeated succeeded]
        rw [same]
  constructor
  · rintro ⟨before, row, after, split, goes, incomplete, left⟩
    refine ⟨row, ?_, goes, incomplete, (each before row after split goes).mp
      left⟩
    rw [split]
    exact List.mem_append_right _ (.head _)
  · rintro ⟨row, member, goes, incomplete, others⟩
    obtain ⟨before, after, split⟩ := List.append_of_mem member
    exact ⟨before, row, after, split, goes, incomplete,
      (each before row after split goes).mpr others⟩

end Answers

/-- Whatever a statement does to the rows, it disturbs no other transfer if and
only if the one it is about is alone. -/
theorem undisturbed_iff {rows rows' : List FileRow} {op : FileOp}
    {succeeds : Prop} (keyed : (rows.map FileRow.tid).Nodup)
    (done : succeeds → op.Changes rows rows')
    (failed : ¬ succeeds → rows' = rows) :
    op.Undisturbed rows rows' ∧ Stays rows rows' ↔
      op.Alone rows succeeds := by
  cases op with
  | request sendid recvid allsiz filename =>
      have longer : rows <+: rows' := by
        by_cases succeeded : succeeds
        · exact done succeeded
        · exact (failed succeeded) ▸ List.prefix_rfl
      exact iff_of_true ⟨longer, fun row member _ => longer.subset member⟩
        trivial
  | respond accepted sendid recvid => exact respond_undisturbed_iff done failed
  | acknowledge sendid recvid siz =>
      have alone := acknowledge_undisturbed_iff keyed done failed
      refine ⟨fun both => alone.mp both.1, fun lone => ?_⟩
      have undisturbed := alone.mpr lone
      refine ⟨undisturbed, ?_⟩
      obtain ⟨before, row, after, rfl, _, incomplete, rfl⟩ := undisturbed
      rw [List.append_cons before { row with succsiz := toSigned siz }]
      exact Stays.of_split incomplete

/-- A step disturbs no other transfer. -/
def Undisturbed (table : FileTable env) (s s' : State ω) (step : Step) :
    Prop :=
  (∀ op ∈ s.fileOp step,
    op.Undisturbed (table.rowsOf s) (table.rowsOf s')) ∧
  Stays (table.rowsOf s) (table.rowsOf s')

/-- The transfer a step is about is alone. -/
def Alone (table : FileTable env) (s : State ω) (step : Step) : Prop :=
  ∀ op ∈ s.fileOp step,
    op.Alone (table.rowsOf s) (op.Succeeds env s.conns.db)

instance (table : FileTable env) (s : State ω) :
    DecidablePred (Alone table s) := fun step =>
  inferInstanceAs (Decidable (∀ op ∈ s.fileOp step, _))

theorem next_undisturbed_iff (table : FileTable env) {s s' : State ω}
    {step : Step} (moved : s.next env step = .ok s') :
    Undisturbed table s s' step ↔ Alone table s step := by
  unfold Undisturbed Alone
  cases asked : s.fileOp step with
  | none =>
      have same := table.rows_idle moved asked
      have nothing (property : FileOp → Prop) :
          ∀ op ∈ (none : Option FileOp), property op := by
        intro op impossible
        cases impossible
      refine iff_of_true ⟨nothing _, ?_⟩ (nothing _)
      rw [same]
      exact fun row member _ => member
  | some op =>
      obtain ⟨done, failed⟩ := table.rows_changed moved asked
      simp only [Option.mem_some_iff, forall_eq']
      exact undisturbed_iff (table.keyed _) done failed

/-- In the runs whose answers and acknowledgements each find the transfer they
are about alone, a complete transfer's row stays as it is. -/
theorem complete_stays (table : FileTable env) {s t : State ω} {row : FileRow}
    (member : row ∈ table.rowsOf s) (complete : row.complete = true)
    (reached : (((machine env).restrict (Alone table)).after s).Reachable t) :
    row ∈ table.rowsOf t := by
  induction reached with
  | initial same => exact same ▸ member
  | step _ allowed moved induction =>
      exact ((next_undisturbed_iff table moved).mpr allowed.2).2 row induction
        complete

/-- A step disturbs no other transfer if and only if the transfer it is about
is alone; in a run in which all are, the row of a complete transfer is never
changed again. -/
theorem transfers_undisturbed (table : FileTable env) (s : State ω) :
    (∀ step s', (machine env).next s step = .ok s' →
      (Undisturbed table s s' step ↔ Alone table s step)) ∧
    ∀ row ∈ table.rowsOf s, row.complete = true → ∀ t,
      (((machine env).restrict (Alone table)).after s).Reachable t →
      row ∈ table.rowsOf t :=
  ⟨fun _ _ moved => next_undisturbed_iff table moved,
    fun _ member complete _ later =>
      complete_stays table member complete later⟩

def askFile (size : UInt32) : Message :=
  .ofData 0x17 0x00 (Buffer.ofWord 2 ++ Buffer.ofWord 1 ++
    Buffer.ofWord size ++ (Buffer.ofText "x").resize 64)

def acceptFile : Message :=
  .ofData 0x18 0x01 (Buffer.ofWord 1 ++ Buffer.ofWord 2)

def countFile (count : UInt32) : Message :=
  .ofData 0x1A 0x00 (Buffer.ofWord 1 ++ Buffer.ofWord 2 ++
    Buffer.ofWord count)

/-- Two users log in, and a file of five bytes is asked for and accepted. -/
def oneTransfer : List Step :=
  arrives 4 [loginFrame "a"] ++ arrives 5 [loginFrame "b"] ++
    [.recvMsg 4 (whole (askFile 5)), .recvMsg 5 (whole acceptFile)]

theorem filedEnv_initial (accounts : List Account) :
    (machine (Tables.filedEnv accounts)).initial
      (.init ⟨[], by simp⟩ 1024) :=
  ⟨_, _, rfl⟩

/-- An acknowledgement of the only transfer there is. -/
theorem transfers_undisturbed_one : ∃ s s' : State Tables.FileRows,
    (machine (Tables.filedEnv threeAccounts)).Reachable s ∧
    s.next (Tables.filedEnv threeAccounts)
      (.recvMsg 5 (whole (countFile 5))) = .ok s' ∧
    Undisturbed (Tables.filedTable threeAccounts) s s'
      (.recvMsg 5 (whole (countFile 5))) ∧
    ∀ t, (((machine (Tables.filedEnv threeAccounts)).restrict
      (Alone (Tables.filedTable threeAccounts))).after s').Reachable t →
      ⟨1, 1, 2, 5, Buffer.ofText "x", 5, 1⟩ ∈
        (Tables.filedTable threeAccounts).rowsOf t := by
  have replayed : ((machine (Tables.filedEnv threeAccounts)).replay
      (.init ⟨[], by simp⟩ 1024) oneTransfer).any (fun s =>
        Alone (Tables.filedTable threeAccounts) s
          (.recvMsg 5 (whole (countFile 5))) ∧
        (s.next (Tables.filedEnv threeAccounts) (.recvMsg 5
          (whole (countFile 5)))).toOption.map
            (Tables.filedTable threeAccounts).rowsOf =
              some [⟨1, 1, 2, 5, Buffer.ofText "x", 5, 1⟩]) = true := by
    decide +kernel
  obtain ⟨s, reached, holds⟩ :=
    Machine.Reachable.of_replay replayed (filedEnv_initial threeAccounts)
  obtain ⟨alone, acknowledged⟩ := of_decide_eq_true holds
  cases moved : s.next (Tables.filedEnv threeAccounts)
      (.recvMsg 5 (whole (countFile 5))) with
  | error fault =>
      rw [moved] at acknowledged
      cases acknowledged
  | ok s' =>
      rw [moved] at acknowledged
      have rows : (Tables.filedTable threeAccounts).rowsOf s' =
          [⟨1, 1, 2, 5, Buffer.ofText "x", 5, 1⟩] :=
        Option.some.inj acknowledged
      refine ⟨s, s', reached, moved, ?_, ?_⟩
      · exact ((transfers_undisturbed (Tables.filedTable threeAccounts)
          s).1 (.recvMsg 5 (whole (countFile 5))) s' moved).mpr alone
      · apply (transfers_undisturbed (Tables.filedTable threeAccounts)
          s').2 ⟨1, 1, 2, 5, Buffer.ofText "x", 5, 1⟩
        · rw [rows]
          exact .head _
        · rfl

/-- When a second file of the pair is accepted, the acknowledgement of its
first bytes takes the complete transfer of the first file back. -/
theorem complete_transfer_changed : ∃ s s' : State Tables.FileRows,
    (machine (Tables.filedEnv threeAccounts)).Reachable s ∧
    (machine (Tables.filedEnv threeAccounts)).enabled s
      (.recvMsg 5 (whole (countFile 3))) ∧
    (machine (Tables.filedEnv threeAccounts)).next s
      (.recvMsg 5 (whole (countFile 3))) = .ok s' ∧
    (Tables.filedTable threeAccounts).rowsOf s =
      [⟨1, 1, 2, 5, Buffer.ofText "x", 5, 1⟩,
        ⟨2, 1, 2, 9, Buffer.ofText "x", 0, 1⟩] ∧
    (Tables.filedTable threeAccounts).rowsOf s' =
      [⟨1, 1, 2, 5, Buffer.ofText "x", 3, 1⟩,
        ⟨2, 1, 2, 9, Buffer.ofText "x", 3, 1⟩] ∧
    ¬ Undisturbed (Tables.filedTable threeAccounts) s s'
      (.recvMsg 5 (whole (countFile 3))) := by
  have replayed : ((machine (Tables.filedEnv threeAccounts)).replay
      (.init ⟨[], by simp⟩ 1024) (oneTransfer ++
        [.recvMsg 5 (whole (countFile 5)), .recvMsg 4 (whole (askFile 9)),
          .recvMsg 5 (whole acceptFile)])).any (fun s =>
        s.clientFds 5 ∧ (Tables.filedTable threeAccounts).rowsOf s =
          [⟨1, 1, 2, 5, Buffer.ofText "x", 5, 1⟩,
            ⟨2, 1, 2, 9, Buffer.ofText "x", 0, 1⟩] ∧
        (s.next (Tables.filedEnv threeAccounts) (.recvMsg 5
          (whole (countFile 3)))).toOption.map
            (Tables.filedTable threeAccounts).rowsOf =
              some [⟨1, 1, 2, 5, Buffer.ofText "x", 3, 1⟩,
                ⟨2, 1, 2, 9, Buffer.ofText "x", 3, 1⟩]) = true := by
    decide +kernel
  obtain ⟨s, reached, holds⟩ :=
    Machine.Reachable.of_replay replayed (filedEnv_initial threeAccounts)
  obtain ⟨opened, rows, acknowledged⟩ := of_decide_eq_true holds
  cases moved : s.next (Tables.filedEnv threeAccounts)
      (.recvMsg 5 (whole (countFile 3))) with
  | error fault =>
      rw [moved] at acknowledged
      cases acknowledged
  | ok s' =>
      rw [moved] at acknowledged
      have rows' := Option.some.inj acknowledged
      refine ⟨s, s', reached, opened, moved, rows, rows', ?_⟩
      rintro ⟨_, stays⟩
      have kept := stays ⟨1, 1, 2, 5, Buffer.ofText "x", 5, 1⟩
        (by rw [rows]; exact .head _) rfl
      rw [rows'] at kept
      revert kept
      decide

end GroupChat.Server
