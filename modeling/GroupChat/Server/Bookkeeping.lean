import GroupChat.Server.Transfers

namespace GroupChat.Server

/-! The sizes and the counts in the table of transfers. -/

variable {ω : Type} {env : Env ω}

namespace FileRow

theorem permit_counts (sendid recvid : Int) (row : FileRow) :
    (row.permit sendid recvid).allsiz = row.allsiz ∧
      (row.permit sendid recvid).succsiz = row.succsiz := by
  unfold permit
  split <;> exact ⟨rfl, rfl⟩

theorem update_allsiz (sendid recvid siz : Int) (row : FileRow) :
    (row.update sendid recvid siz).allsiz = row.allsiz := by
  unfold update
  split <;> rfl

theorem update_succsiz (sendid recvid siz : Int) (row : FileRow) :
    (row.update sendid recvid siz).succsiz =
      if row.goes sendid recvid then siz else row.succsiz := by
  unfold update
  split <;> rfl

end FileRow

/-- A row has the size its request declared, and a count within it. -/
structure FileRow.InRange (sizes : Int → UInt32) (row : FileRow) : Prop where
  allsiz : row.allsiz = (sizes row.tid).toNat
  nonneg : 0 ≤ row.succsiz
  within : row.succsiz ≤ row.allsiz

instance (sizes : Int → UInt32) : DecidablePred (FileRow.InRange sizes) :=
  fun row => decidable_of_iff (row.allsiz = (sizes row.tid).toNat ∧
    0 ≤ row.succsiz ∧ row.succsiz ≤ row.allsiz)
    ⟨fun ⟨allsiz, nonneg, within⟩ => ⟨allsiz, nonneg, within⟩,
      fun inRange => ⟨inRange.allsiz, inRange.nonneg, inRange.within⟩⟩

/-- No row's count decreases. -/
def Grows (rows rows' : List FileRow) : Prop :=
  ∀ row ∈ rows, ∀ row' ∈ rows', row'.tid = row.tid →
    row.succsiz ≤ row'.succsiz

namespace FileOp

/-- The declared sizes once this was asked: new rows are the request's. -/
def declare (rows : List FileRow) (sizes : Int → UInt32) :
    FileOp → Int → UInt32
  | .request _ _ allsiz _, tid =>
      if tid ∈ rows.map FileRow.tid then sizes tid else allsiz
  | .respond _ _ _, tid => sizes tid
  | .acknowledge _ _ _, tid => sizes tid

/-- A declared size fits the column; a count is between the counts and the
sizes of all rows it goes to. -/
def Measured (rows : List FileRow) (succeeds : Prop) : FileOp → Prop
  | .request _ _ allsiz _ => succeeds → allsiz.toNat < 2147483648
  | .respond _ _ _ => True
  | .acknowledge sendid recvid siz => succeeds → ∀ row ∈ rows,
      row.goes (toSigned sendid) (toSigned recvid) = true →
      row.succsiz ≤ toSigned siz ∧ toSigned siz ≤ row.allsiz

instance (rows : List FileRow) (succeeds : Prop) [Decidable succeeds]
    (op : FileOp) : Decidable (op.Measured rows succeeds) :=
  match op with
  | .request _ _ _ _ => inferInstanceAs (Decidable (_ → _))
  | .respond _ _ _ => inferInstanceAs (Decidable True)
  | .acknowledge _ _ _ => inferInstanceAs (Decidable (_ → ∀ row ∈ rows, _))

theorem declare_of_mem {rows : List FileRow} {sizes : Int → UInt32}
    (op : FileOp) {row : FileRow} (member : row ∈ rows) :
    op.declare rows sizes row.tid = sizes row.tid := by
  cases op with
  | request sendid recvid allsiz filename =>
      exact if_pos (List.mem_map_of_mem member)
  | respond accepted sendid recvid => rfl
  | acknowledge sendid recvid siz => rfl

end FileOp

section Rows

variable {rows rows' : List FileRow} {sizes : Int → UInt32}

theorem FileRow.InRange.declare {row : FileRow} (op : FileOp)
    (member : row ∈ rows) (inRange : row.InRange sizes) :
    row.InRange (op.declare rows sizes) where
  allsiz := by rw [op.declare_of_mem member, inRange.allsiz]
  nonneg := inRange.nonneg
  within := inRange.within

theorem eq_of_tid (keyed : (rows.map FileRow.tid).Nodup) {row other : FileRow}
    (member : row ∈ rows) (member' : other ∈ rows)
    (same : other.tid = row.tid) : other = row :=
  List.inj_on_of_nodup_map keyed member' member same

theorem Grows.of_origin (keyed : (rows.map FileRow.tid).Nodup)
    (origin : ∀ row' ∈ rows', (∃ old ∈ rows, row'.tid = old.tid ∧
      old.succsiz ≤ row'.succsiz) ∨ row'.tid ∉ rows.map FileRow.tid) :
    Grows rows rows' := by
  intro row member row' member' same
  rcases origin row' member' with ⟨old, before, key, less⟩ | fresh
  · rw [← eq_of_tid keyed member before (key.symm.trans same)]
    exact less
  · exact absurd (same ▸ List.mem_map_of_mem member) fresh

theorem toSigned_eq_toNat_iff (word : UInt32) :
    toSigned word = word.toNat ↔ word.toNat < 2147483648 := by
  have range := word.toNat_lt
  unfold toSigned
  rw [Int.bmod_def]
  omega

theorem request_measured_iff {sendid recvid allsiz : UInt32}
    {filename : Buffer} {tid : Int} {value : Buffer}
    (keyed : (rows'.map FileRow.tid).Nodup)
    (inRange : ∀ row ∈ rows, row.InRange sizes)
    (appended : rows' = rows ++ [⟨tid, toSigned sendid, toSigned recvid,
      toSigned allsiz, value, 0, 0⟩]) :
    (∀ row ∈ rows', row.InRange ((FileOp.request sendid recvid allsiz
        filename).declare rows sizes)) ∧ Grows rows rows' ↔
      allsiz.toNat < 2147483648 := by
  subst appended
  rw [List.map_append, List.map_singleton] at keyed
  have fresh : tid ∉ rows.map FileRow.tid := fun member =>
    (List.nodup_append.mp keyed).2.2 _ member _ (List.mem_singleton_self _) rfl
  have declared : (FileOp.request sendid recvid allsiz filename).declare rows
      sizes tid = allsiz := if_neg fresh
  constructor
  · rintro ⟨right, _⟩
    have new := (right _ (List.mem_append_right _
      (List.mem_singleton_self _))).allsiz
    dsimp only at new
    rw [declared] at new
    exact (toSigned_eq_toNat_iff allsiz).mp new
  · intro small
    have size := (toSigned_eq_toNat_iff allsiz).mpr small
    constructor
    · intro row member
      rcases List.mem_append.mp member with before | last
      · exact (inRange row before).declare _ before
      · rw [List.mem_singleton.mp last]
        refine ⟨?_, Int.le_refl 0, ?_⟩
        · rw [declared, size]
        · rw [size]
          exact Int.natCast_nonneg _
    · apply Grows.of_origin (List.nodup_append.mp keyed).1
      intro row member
      rcases List.mem_append.mp member with before | last
      · exact .inl ⟨row, before, rfl, Int.le_refl _⟩
      · rw [List.mem_singleton.mp last]
        exact .inr fresh

theorem inRange_of_origin (op : FileOp) (keyed : (rows.map FileRow.tid).Nodup)
    (inRange : ∀ row ∈ rows, row.InRange sizes)
    (origin : ∀ row' ∈ rows', ∃ old ∈ rows, row'.tid = old.tid ∧
      row'.allsiz = old.allsiz ∧ row'.succsiz = old.succsiz) :
    (∀ row ∈ rows', row.InRange (op.declare rows sizes)) ∧
      Grows rows rows' := by
  constructor
  · intro row member
    obtain ⟨old, before, key, size, count⟩ := origin row member
    have kept := (inRange old before).declare op before
    refine ⟨?_, ?_, ?_⟩
    · rw [size, key, kept.allsiz]
    · rw [count]
      exact kept.nonneg
    · rw [count, size]
      exact kept.within
  · apply Grows.of_origin keyed
    intro row member
    obtain ⟨old, before, key, _, count⟩ := origin row member
    exact .inl ⟨old, before, key, Int.le_of_eq count.symm⟩

theorem respond_origin {accepted : Bool} {sendid recvid : UInt32}
    (changed : (FileOp.respond accepted sendid recvid).Changes rows rows') :
    ∀ row' ∈ rows', ∃ old ∈ rows, row'.tid = old.tid ∧
      row'.allsiz = old.allsiz ∧ row'.succsiz = old.succsiz := by
  intro row member
  cases accepted with
  | true =>
      rw [show rows' = _ from changed] at member
      obtain ⟨old, before, rfl⟩ := List.mem_map.mp member
      exact ⟨old, before, old.permit_tid _ _, old.permit_counts _ _⟩
  | false =>
      rw [show rows' = _ from changed] at member
      exact ⟨row, List.mem_of_mem_filter member, rfl, rfl, rfl⟩

theorem acknowledge_measured_iff {sendid recvid siz : UInt32}
    (keyed : (rows.map FileRow.tid).Nodup)
    (inRange : ∀ row ∈ rows, row.InRange sizes)
    (changed : (FileOp.acknowledge sendid recvid siz).Changes rows rows') :
    (∀ row ∈ rows', row.InRange ((FileOp.acknowledge sendid recvid
        siz).declare rows sizes)) ∧ Grows rows rows' ↔
      ∀ row ∈ rows,
        row.goes (toSigned sendid) (toSigned recvid) = true →
        row.succsiz ≤ toSigned siz ∧ toSigned siz ≤ row.allsiz := by
  have counts (row : FileRow) := row.update_succsiz (toSigned sendid)
    (toSigned recvid) (toSigned siz)
  have size (row : FileRow) := row.update_allsiz (toSigned sendid)
    (toSigned recvid) (toSigned siz)
  have key (row : FileRow) := row.update_tid (toSigned sendid)
    (toSigned recvid) (toSigned siz)
  rw [show rows' = _ from changed]
  constructor
  · rintro ⟨right, grows⟩ row member goes
    have there := List.mem_map_of_mem (f := FileRow.update (toSigned sendid)
      (toSigned recvid) (toSigned siz)) member
    have within := (right _ there).within
    have more := grows row member _ there (key row)
    rw [counts, if_pos goes] at within more
    rw [size] at within
    exact ⟨more, within⟩
  · intro measured
    have more (row : FileRow) (member : row ∈ rows) : row.succsiz ≤
        (row.update (toSigned sendid) (toSigned recvid)
          (toSigned siz)).succsiz := by
      rw [counts]
      split
      · rename_i goes
        exact (measured row member goes).1
      · exact Int.le_refl _
    constructor
    · intro row' member
      obtain ⟨row, before, rfl⟩ := List.mem_map.mp member
      have right := inRange row before
      refine ⟨?_, Int.le_trans right.nonneg (more row before), ?_⟩
      · rw [size, right.allsiz, key]
        rfl
      · rw [counts, size]
        split
        · rename_i goes
          exact (measured row before goes).2
        · exact right.within
    · apply Grows.of_origin keyed
      intro row' member
      obtain ⟨row, before, rfl⟩ := List.mem_map.mp member
      exact .inl ⟨row, before, key row, more row before⟩

theorem FileOp.measured_of_failed {op : FileOp} {succeeds : Prop}
    (failed : ¬ succeeds) : op.Measured rows succeeds := by
  cases op with
  | request sendid recvid allsiz filename =>
      exact fun done => absurd done failed
  | respond accepted sendid recvid => trivial
  | acknowledge sendid recvid siz => exact fun done => absurd done failed

theorem FileOp.measured_of_succeeds {op : FileOp} {succeeds : Prop}
    (done : succeeds) : op.Measured rows succeeds ↔ op.Measured rows True := by
  rw [eq_true done]

end Rows

/-- A server, and the size that was declared for each transfer. -/
structure Ledger (ω : Type) where
  server : State ω
  sizes : Int → UInt32

namespace Ledger

def declare (table : FileTable env) (l : Ledger ω) (step : Step) :
    Int → UInt32 :=
  match l.server.fileOp step with
  | some op => op.declare (table.rowsOf l.server) l.sizes
  | none => l.sizes

def next (table : FileTable env) (l : Ledger ω) (step : Step) :
    Exec (Ledger ω) := do
  let server ← l.server.next env step
  .ok ⟨server, l.declare table step⟩

def Balanced (table : FileTable env) (l : Ledger ω) : Prop :=
  ∀ row ∈ table.rowsOf l.server, row.InRange l.sizes

/-- The step's numbers are measured, and a file name is a text of the character
set. -/
def Measured (table : FileTable env) (charset : Charset) (l : Ledger ω)
    (step : Step) : Prop :=
  ∀ op ∈ l.server.fileOp step, op.Contained charset ∧
    op.Measured (table.rowsOf l.server) (op.Succeeds env l.server.conns.db)

/-- The step's file name is a text of the character set. -/
def Contained (charset : Charset) (l : Ledger ω) (step : Step) : Prop :=
  ∀ op ∈ l.server.fileOp step, op.Contained charset

instance (table : FileTable env) (charset : Charset) (l : Ledger ω) :
    DecidablePred (Measured table charset l) := fun step =>
  inferInstanceAs (Decidable (∀ op ∈ l.server.fileOp step, _ ∧ _))

instance (charset : Charset) (l : Ledger ω) :
    DecidablePred (Contained charset l) := fun step =>
  inferInstanceAs (Decidable (∀ op ∈ l.server.fileOp step, _))

end Ledger

/-- The runs of the server from a table whose rows are in range. -/
def ledger (table : FileTable env) : Machine (Ledger ω) Step where
  initial := fun l => (machine env).initial l.server ∧ l.Balanced table
  enabled := fun l => (machine env).enabled l.server
  next := Ledger.next table

instance (table : FileTable env) (l : Ledger ω) :
    DecidablePred ((ledger table).enabled l) :=
  inferInstanceAs (DecidablePred l.server.Enabled)

theorem run_balanced_iff {table : FileTable env} {charset : Charset}
    (inserts : table.Inserts charset) (world : ω) {op : FileOp}
    (contained : op.Contained charset) (fits : op.Fits)
    {sizes : Int → UInt32}
    (inRange : ∀ row ∈ table.rows world, row.InRange sizes) :
    (∀ row ∈ table.rows (op.run env world).2,
        row.InRange (op.declare (table.rows world) sizes)) ∧
      Grows (table.rows world) (table.rows (op.run env world).2) ↔
      op.Measured (table.rows world) (op.Succeeds env world) := by
  obtain ⟨done, failed⟩ := table.rows_run world op
  by_cases succeeded : op.Succeeds env world
  · rw [FileOp.measured_of_succeeds succeeded]
    cases op with
    | request sendid recvid allsiz filename =>
        obtain ⟨tid, appended⟩ :=
          FileTable.rows_requested inserts world contained fits succeeded
        rw [request_measured_iff (table.keyed _) inRange appended]
        exact (true_implies _).symm.to_iff
    | respond accepted sendid recvid =>
        exact iff_of_true (inRange_of_origin _ (table.keyed _) inRange
          (respond_origin (done succeeded))) trivial
    | acknowledge sendid recvid siz =>
        rw [acknowledge_measured_iff (table.keyed _) inRange (done succeeded)]
        exact (true_implies _).symm.to_iff
  · refine iff_of_true ?_ (FileOp.measured_of_failed succeeded)
    rw [failed succeeded]
    exact inRange_of_origin _ (table.keyed _) inRange
      fun row member => ⟨row, member, rfl, rfl, rfl⟩

theorem Ledger.next_balanced_iff {table : FileTable env} {charset : Charset}
    (inserts : table.Inserts charset) {l l' : Ledger ω}
    {step : Step} (balanced : l.Balanced table)
    (contained : Contained charset l step)
    (moved : l.next table step = .ok l') :
    l'.Balanced table ∧
        Grows (table.rowsOf l.server) (table.rowsOf l'.server) ↔
      Measured table charset l step := by
  obtain ⟨server, stepped, rest⟩ := Exec.of_bind_ok moved
  cases rest
  unfold Balanced Ledger.declare Measured
  cases asked : l.server.fileOp step with
  | none =>
      have same := table.rows_idle stepped asked
      refine iff_of_true ?_ fun op impossible => by cases impossible
      rw [same]
      exact ⟨balanced, Grows.of_origin (table.keyed _) fun row member =>
        .inl ⟨row, member, rfl, Int.le_refl _⟩⟩
  | some op =>
      have within : op.Contained charset := contained op asked
      have run := run_balanced_iff inserts l.server.conns.db within
        (State.fileOp_fits asked) balanced
      rw [← State.next_op stepped asked] at run
      rw [run]
      simp only [Option.mem_some_iff, forall_eq', within, true_and]

/-- In the runs whose declared sizes fit and whose counts are measured, every
row has the size its request declared and a count within it; a step keeps it so
and takes no count back if and only if its own numbers are measured. -/
theorem bookkeeping_in_range (table : FileTable env) (charset : Charset)
    (inserts : table.Inserts charset) (l : Ledger ω)
    (reached : ((ledger table).restrict
      (Ledger.Measured table charset)).Reachable l) :
    l.Balanced table ∧
    ∀ step l', (ledger table).enabled l step →
      Ledger.Contained charset l step →
      (ledger table).next l step = .ok l' →
      (l'.Balanced table ∧
          Grows (table.rowsOf l.server) (table.rowsOf l'.server) ↔
        Ledger.Measured table charset l step) := by
  have balanced : l.Balanced table := by
    induction reached with
    | initial first => exact first.2
    | step _ allowed moved induction =>
        exact ((Ledger.next_balanced_iff inserts induction
          (fun op asked => (allowed.2 op asked).1) moved).mpr allowed.2).1
  exact ⟨balanced, fun step l' _ contained moved =>
    Ledger.next_balanced_iff inserts balanced contained moved⟩

def emptyLedger : Ledger Tables.FileRows :=
  ⟨.init ⟨[], by simp⟩ 1024, fun _ => 0⟩

theorem emptyLedger_initial (accounts : List Account) :
    (ledger (Tables.filedTable accounts)).initial emptyLedger :=
  ⟨filedEnv_initial accounts, fun _ impossible => by cases impossible⟩

/-- An acknowledgement of a part of the file. -/
theorem bookkeeping_in_range_part : ∃ l l' : Ledger Tables.FileRows,
    (ledger (Tables.filedTable threeAccounts)).next l
      (.recvMsg 5 (whole (countFile 3))) = .ok l' ∧
    l'.Balanced (Tables.filedTable threeAccounts) := by
  have replayed : (((ledger (Tables.filedTable threeAccounts)).restrict
      (Ledger.Measured (Tables.filedTable threeAccounts) .gbk)).replay
        emptyLedger oneTransfer).any (fun l =>
          l.server.clientFds 5 ∧
          Ledger.Measured (Tables.filedTable threeAccounts) .gbk l
            (.recvMsg 5 (whole (countFile 3))) ∧
          ((ledger (Tables.filedTable threeAccounts)).next l
            (.recvMsg 5 (whole (countFile 3)))).completes) = true := by
    decide +kernel
  obtain ⟨l, reached, holds⟩ := Machine.Reachable.of_replay replayed
    (emptyLedger_initial threeAccounts)
  obtain ⟨opened, measured, completes⟩ := of_decide_eq_true holds
  cases moved : (ledger (Tables.filedTable threeAccounts)).next l
      (.recvMsg 5 (whole (countFile 3))) with
  | error fault =>
      rw [moved] at completes
      cases completes
  | ok l' =>
      have ranges := (bookkeeping_in_range (Tables.filedTable threeAccounts)
        .gbk (Tables.filedTable_inserts threeAccounts .gbk) l reached).2
      refine ⟨l, l', moved, ?_⟩
      exact ((ranges (.recvMsg 5 (whole (countFile 3))) l' opened
        (fun op asked => (measured op asked).1) moved).mpr measured).1

/-- A count beyond the size, a count taken back, and a size that becomes
negative. -/
theorem counts_unchecked : ∃ l l' : Ledger Tables.FileRows,
    (ledger (Tables.filedTable threeAccounts)).Reachable l ∧
    (ledger (Tables.filedTable threeAccounts)).enabled l
      (.recvMsg 5 (whole (countFile 3))) ∧
    (ledger (Tables.filedTable threeAccounts)).next l
      (.recvMsg 5 (whole (countFile 3))) = .ok l' ∧
    (Tables.filedTable threeAccounts).rowsOf l.server =
      [⟨1, 1, 2, 5, Buffer.ofText "x", 7, 1⟩,
        ⟨2, 1, 2, -1, Buffer.ofText "x", 0, 0⟩] ∧
    (Tables.filedTable threeAccounts).rowsOf l'.server =
      [⟨1, 1, 2, 5, Buffer.ofText "x", 3, 1⟩,
        ⟨2, 1, 2, -1, Buffer.ofText "x", 0, 0⟩] ∧
    l.sizes 1 = 5 ∧ l.sizes 2 = 0xFFFFFFFF ∧
    ¬ l.Balanced (Tables.filedTable threeAccounts) ∧
    ¬ Grows ((Tables.filedTable threeAccounts).rowsOf l.server)
      ((Tables.filedTable threeAccounts).rowsOf l'.server) := by
  have replayed : ((ledger (Tables.filedTable threeAccounts)).replay
      emptyLedger (oneTransfer ++ [.recvMsg 5 (whole (countFile 7)),
        .recvMsg 4 (whole (askFile 0xFFFFFFFF))])).any (fun l =>
          l.server.clientFds 5 ∧
          (Tables.filedTable threeAccounts).rowsOf l.server =
            [⟨1, 1, 2, 5, Buffer.ofText "x", 7, 1⟩,
              ⟨2, 1, 2, -1, Buffer.ofText "x", 0, 0⟩] ∧
          l.sizes 1 = 5 ∧ l.sizes 2 = 0xFFFFFFFF ∧
          ((ledger (Tables.filedTable threeAccounts)).next l
            (.recvMsg 5 (whole (countFile 3)))).toOption.map
              (fun l' => (Tables.filedTable threeAccounts).rowsOf l'.server) =
                some [⟨1, 1, 2, 5, Buffer.ofText "x", 3, 1⟩,
                  ⟨2, 1, 2, -1, Buffer.ofText "x", 0, 0⟩]) = true := by
    decide +kernel
  obtain ⟨l, reached, holds⟩ := Machine.Reachable.of_replay replayed
    (emptyLedger_initial threeAccounts)
  obtain ⟨opened, rows, first, second, acknowledged⟩ := of_decide_eq_true holds
  cases moved : (ledger (Tables.filedTable threeAccounts)).next l
      (.recvMsg 5 (whole (countFile 3))) with
  | error fault =>
      rw [moved] at acknowledged
      cases acknowledged
  | ok l' =>
      rw [moved] at acknowledged
      have rows' : (Tables.filedTable threeAccounts).rowsOf l'.server =
          [⟨1, 1, 2, 5, Buffer.ofText "x", 3, 1⟩,
            ⟨2, 1, 2, -1, Buffer.ofText "x", 0, 0⟩] :=
        Option.some.inj acknowledged
      refine ⟨l, l', reached, opened, moved, rows, rows', first, second, ?_,
        ?_⟩
      · intro balanced
        rw [Ledger.Balanced, rows] at balanced
        exact absurd (balanced _ (.head _)).within (by decide)
      · rw [rows, rows']
        intro grows
        exact absurd (grows _ (.head _) _ (.head _) rfl) (by decide)

end GroupChat.Server
