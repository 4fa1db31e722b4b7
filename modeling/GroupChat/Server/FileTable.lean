import GroupChat.Server.Storage

namespace GroupChat.Server

/-! The table of file transfers. -/

open Buffer (ofText ofText_append_ne cString_of_clean prefix_cString)
open Decimal Quoting
open Database (mysqlQuery insertFileRecordSql filePairSql)

variable {ω : Type} {env : Env ω}

/-- A row of the table `filetrans`. -/
structure FileRow where
  tid : Int
  sendid : Int
  recvid : Int
  allsiz : Int
  filename : Buffer
  succsiz : Int := 0
  statue : Int := 0
  deriving DecidableEq, Repr

namespace FileRow

/-- The row is the pair's and in this state. -/
def isAt (sendid recvid statue : Int) (row : FileRow) : Bool :=
  row.sendid = sendid && row.recvid = recvid && row.statue = statue

abbrev waits (sendid recvid : Int) (row : FileRow) : Bool :=
  row.isAt sendid recvid 0

abbrev goes (sendid recvid : Int) (row : FileRow) : Bool :=
  row.isAt sendid recvid 1

theorem isAt_iff {sendid recvid statue : Int} {row : FileRow} :
    row.isAt sendid recvid statue = true ↔
      row.sendid = sendid ∧ row.recvid = recvid ∧ row.statue = statue := by
  simp [isAt, and_assoc]

def permit (sendid recvid : Int) (row : FileRow) : FileRow :=
  if row.waits sendid recvid then { row with statue := 1 } else row

def update (sendid recvid siz : Int) (row : FileRow) : FileRow :=
  if row.goes sendid recvid then { row with succsiz := siz } else row

theorem permit_tid (sendid recvid : Int) (row : FileRow) :
    (row.permit sendid recvid).tid = row.tid := by
  unfold permit
  split <;> rfl

theorem update_tid (sendid recvid siz : Int) (row : FileRow) :
    (row.update sendid recvid siz).tid = row.tid := by
  unfold update
  split <;> rfl

theorem permit_eq_self {sendid recvid : Int} {row : FileRow} :
    row.permit sendid recvid = row ↔ row.waits sendid recvid = false := by
  unfold permit
  cases waits : row.waits sendid recvid with
  | false => simp
  | true =>
      have pending := (isAt_iff.mp waits).2.2
      refine iff_of_false ?_ (by simp)
      intro same
      have changed := congrArg statue same
      rw [if_pos rfl, pending] at changed
      cases changed

theorem update_eq_self {sendid recvid siz : Int} {row : FileRow} :
    row.update sendid recvid siz = row ↔
      (row.goes sendid recvid = true → row.succsiz = siz) := by
  unfold update
  cases goes : row.goes sendid recvid with
  | false => simp
  | true =>
      constructor
      · intro same _
        have changed := congrArg succsiz same
        rw [if_pos rfl] at changed
        exact changed.symm
      · intro repeated
        rw [if_pos rfl, ← repeated rfl]

end FileRow

namespace Database

def permitFileSql (sendid recvid : Int) : Buffer :=
  ofText "update filetrans set statue=1" ++ filePairSql sendid recvid "0"

def deleteFileSql (sendid recvid : Int) : Buffer :=
  ofText "delete from filetrans" ++ filePairSql sendid recvid "0"

def updateFileSql (sendid recvid siz : Int) : Buffer :=
  ofText "update filetrans set succsiz=" ++ ofInt siz ++
    filePairSql sendid recvid "1"

def insertFile : Buffer := ofText "insert into filetrans"

def updateFile : Buffer := ofText "update filetrans"

def deleteFile : Buffer := ofText "delete from filetrans"

/-- A statement that leaves the transfers alone. -/
def Unfiled (sqlstr : Buffer) : Prop :=
  ¬ insertFile <+: sqlstr ∧ ¬ updateFile <+: sqlstr ∧
    ¬ deleteFile <+: sqlstr

theorem everyday_unfiled : Everyday Unfiled where
  select := fun _ select =>
    ⟨other_statement 0 select (by decide) (by decide),
      other_statement 0 select (by decide) (by decide),
      other_statement 0 select (by decide) (by decide)⟩
  updatePasswd := fun _ _ =>
    ⟨@other_statement _ _ 0 117 rfl (by decide) (by decide),
      @other_statement _ _ 7 108 rfl (by decide) (by decide),
      @other_statement _ _ 0 117 rfl (by decide) (by decide)⟩

theorem saveMessage_unfiled (sendid recvid time : Int) (text : Buffer) :
    Unfiled (saveMessageSql sendid recvid time text) :=
  ⟨@other_statement _ _ 12 114 rfl (by decide) (by decide),
    @other_statement _ _ 0 105 rfl (by decide) (by decide),
    @other_statement _ _ 0 105 rfl (by decide) (by decide)⟩

end Database

open Database

/-- A database server with a table of transfers.  Only the three statements
that name it first change the table, and only if they succeed; an insert
appends rows; the others change or remove the rows of a pair in one state. -/
structure FileTable (env : Env ω) where
  rows : ω → List FileRow
  keyed : ∀ world, ((rows world).map FileRow.tid).Nodup
  kept : ∀ world sqlstr, Unfiled sqlstr →
    rows (mysqlQuery env world sqlstr).2 = rows world
  failed : ∀ world sqlstr, (mysqlQuery env world sqlstr).1 = .failed →
    rows (mysqlQuery env world sqlstr).2 = rows world
  grown : ∀ world sendid recvid allsiz filename, rows world <+:
    rows (mysqlQuery env world (insertFileRecordSql sendid recvid allsiz
      filename)).2
  permitted : ∀ world sendid recvid, InInt sendid → InInt recvid →
    (mysqlQuery env world (permitFileSql sendid recvid)).1 ≠ .failed →
    rows (mysqlQuery env world (permitFileSql sendid recvid)).2 =
      (rows world).map (FileRow.permit sendid recvid)
  deleted : ∀ world sendid recvid, InInt sendid → InInt recvid →
    (mysqlQuery env world (deleteFileSql sendid recvid)).1 ≠ .failed →
    rows (mysqlQuery env world (deleteFileSql sendid recvid)).2 =
      (rows world).filter fun row => !row.waits sendid recvid
  updated : ∀ world sendid recvid siz, InInt sendid → InInt recvid →
    InInt siz →
    (mysqlQuery env world (updateFileSql sendid recvid siz)).1 ≠ .failed →
    rows (mysqlQuery env world (updateFileSql sendid recvid siz)).2 =
      (rows world).map (FileRow.update sendid recvid siz)

/-- The statement that is meant to add a transfer. -/
def offering (sendid recvid allsiz : Int) (filename : Buffer) : Buffer :=
  render (Statement.intended filename
    (.insertFileRecord sendid recvid allsiz))

/-- An insert that succeeds appends the row it describes, where its file name is
a text of the character set of the connection and fits the column. -/
def FileTable.Inserts (table : FileTable env) (charset : Charset) : Prop :=
  ∀ world sendid recvid allsiz filename, InInt sendid → InInt recvid →
    InInt allsiz → charset.Literal filename → filename.length ≤ 80 →
    (mysqlQuery env world (offering sendid recvid allsiz filename)).1 ≠
      .failed →
    ∃ tid, table.rows (mysqlQuery env world
        (offering sendid recvid allsiz filename)).2 =
      table.rows world ++ [⟨tid, sendid, recvid, allsiz, filename, 0, 0⟩]

/-- What a frame asks of the table of transfers. -/
inductive FileOp where
  | request (sendid recvid allsiz : UInt32) (filename : Buffer)
  | respond (accepted : Bool) (sendid recvid : UInt32)
  | acknowledge (sendid recvid siz : UInt32)
  deriving DecidableEq, Repr

namespace FileOp

def run (env : Env ω) (world : ω) : FileOp → Int × ω
  | .request sendid recvid allsiz filename =>
      insertFileRecord env world (toSigned sendid) (toSigned recvid)
        (toSigned allsiz) filename
  | .respond true sendid recvid =>
      permitFileRecord env world (toSigned sendid) (toSigned recvid)
  | .respond false sendid recvid =>
      deleteFileRecord env world (toSigned sendid) (toSigned recvid)
  | .acknowledge sendid recvid siz =>
      updateFileRecord env world (toSigned sendid) (toSigned recvid)
        (toSigned siz)

/-- The statement it is. -/
def sqlstr : FileOp → Buffer
  | .request sendid recvid allsiz filename =>
      insertFileRecordSql (toSigned sendid) (toSigned recvid)
        (toSigned allsiz) filename
  | .respond true sendid recvid =>
      permitFileSql (toSigned sendid) (toSigned recvid)
  | .respond false sendid recvid =>
      deleteFileSql (toSigned sendid) (toSigned recvid)
  | .acknowledge sendid recvid siz =>
      updateFileSql (toSigned sendid) (toSigned recvid) (toSigned siz)

theorem run_eq (env : Env ω) (world : ω) (op : FileOp) :
    op.run env world = statement env world op.sqlstr := by
  cases op with
  | request sendid recvid allsiz filename => rfl
  | respond accepted sendid recvid => cases accepted <;> rfl
  | acknowledge sendid recvid siz => rfl

theorem run_world (env : Env ω) (world : ω) (op : FileOp) :
    (op.run env world).2 = (mysqlQuery env world op.sqlstr).2 := by
  rw [run_eq, statement_eq]

def Succeeds (env : Env ω) (world : ω) (op : FileOp) : Prop :=
  0 ≤ (op.run env world).1

instance (env : Env ω) (world : ω) (op : FileOp) :
    Decidable (op.Succeeds env world) :=
  inferInstanceAs (Decidable (0 ≤ _))

theorem succeeds_iff {world : ω} {op : FileOp} : op.Succeeds env world ↔
    (mysqlQuery env world op.sqlstr).1 ≠ .failed := by
  rw [Succeeds, run_eq, statement_eq]
  split
  · rename_i fails
    have negative : ¬ (0 : Int) ≤ -1 := by decide
    exact iff_of_false negative fun done => done fails
  · rename_i done
    exact iff_of_true (Int.le_refl 0) done

def Changes (rows rows' : List FileRow) : FileOp → Prop
  | .request _ _ _ _ => rows <+: rows'
  | .respond true sendid recvid =>
      rows' = rows.map (FileRow.permit (toSigned sendid) (toSigned recvid))
  | .respond false sendid recvid => rows' = rows.filter fun row =>
      !row.waits (toSigned sendid) (toSigned recvid)
  | .acknowledge sendid recvid siz => rows' = rows.map
      (FileRow.update (toSigned sendid) (toSigned recvid) (toSigned siz))

def Contained (charset : Charset) : FileOp → Prop
  | .request _ _ _ filename => charset.Literal filename
  | .respond _ _ _ | .acknowledge _ _ _ => True

instance (charset : Charset) (op : FileOp) :
    Decidable (op.Contained charset) :=
  match op with
  | .request _ _ _ filename =>
      inferInstanceAs (Decidable (charset.Literal filename))
  | .respond _ _ _ | .acknowledge _ _ _ => inferInstanceAs (Decidable True)

def Fits : FileOp → Prop
  | .request _ _ _ filename => filename.length ≤ 80
  | .respond _ _ _ | .acknowledge _ _ _ => True

end FileOp

namespace FileTable

theorem rows_asks (table : FileTable env) {world world' : ω}
    (asks : Asks env Unfiled world world') :
    table.rows world' = table.rows world := by
  induction asks with
  | refl => rfl
  | query _ other induction => exact (table.kept _ _ other).trans induction

/-- A statement that is carried out changes the rows as it says; one that fails
leaves them alone. -/
theorem rows_run (table : FileTable env) (world : ω) (op : FileOp) :
    (op.Succeeds env world →
      op.Changes (table.rows world) (table.rows (op.run env world).2)) ∧
    (¬ op.Succeeds env world →
      table.rows (op.run env world).2 = table.rows world) := by
  rw [FileOp.run_world, FileOp.succeeds_iff, not_not]
  refine ⟨?_, table.failed world op.sqlstr⟩
  intro done
  cases op with
  | request sendid recvid allsiz filename => exact table.grown world _ _ _ _
  | respond accepted sendid recvid =>
      cases accepted with
      | true =>
          exact table.permitted world _ _ (toSigned_inInt sendid)
            (toSigned_inInt recvid) done
      | false =>
          exact table.deleted world _ _ (toSigned_inInt sendid)
            (toSigned_inInt recvid) done
  | acknowledge sendid recvid siz =>
      exact table.updated world _ _ _ (toSigned_inInt sendid)
        (toSigned_inInt recvid) (toSigned_inInt siz) done

theorem rows_requested {table : FileTable env} {charset : Charset}
    (inserts : table.Inserts charset) (world : ω)
    {sendid recvid allsiz : UInt32} {filename : Buffer}
    (literal : charset.Literal filename) (short : filename.length ≤ 80)
    (done : (FileOp.request sendid recvid allsiz filename).Succeeds env
      world) :
    ∃ tid, table.rows ((FileOp.request sendid recvid allsiz
      filename).run env world).2 = table.rows world ++
        [⟨tid, toSigned sendid, toSigned recvid, toSigned allsiz, filename, 0,
          0⟩] := by
  have same : (FileOp.request sendid recvid allsiz filename).sqlstr =
      offering (toSigned sendid) (toSigned recvid) (toSigned allsiz) filename :=
    Statement.sqlstr_eq filename (.insertFileRecord _ _ _)
  rw [FileOp.succeeds_iff, same] at done
  rw [FileOp.run_world, same]
  exact inserts world _ _ _ filename (toSigned_inInt sendid)
    (toSigned_inInt recvid) (toSigned_inInt allsiz) literal short done

end FileTable

namespace Tables

/-! A database server that keeps the table of transfers in memory. -/

/-- The rows of the table: each has a number of its own, and ids that the
columns hold. -/
abbrev FileRows :=
  { rows : List FileRow // (rows.map FileRow.tid).Nodup ∧
    ∀ row ∈ rows, InInt row.sendid ∧ InInt row.recvid }

def nextTid (rows : List FileRow) : Int :=
  rows.foldr (fun row tid => max (row.tid + 1) tid) 1

theorem tid_lt_nextTid {rows : List FileRow} {row : FileRow}
    (member : row ∈ rows) : row.tid < nextTid rows := by
  induction rows with
  | nil => cases member
  | cons first rows induction =>
      change row.tid < max (first.tid + 1) (nextTid rows)
      rcases List.mem_cons.mp member with rfl | later
      · omega
      · have below := induction later
        omega

/-- The row an insert statement describes.  Its four texts stand where those of
a record do. -/
def fileRowOf (tid : Int) (sqlstr : Buffer) : FileRow :=
  let record := inserted sqlstr
  ⟨tid, atoi record.sendid, atoi record.recvid, atoi record.time,
    record.message, 0, 0⟩

/-- What an update or a delete statement leaves of a row. -/
def edited (sqlstr : Buffer) (row : FileRow) : Option FileRow :=
  if sqlstr = permitFileSql row.sendid row.recvid then
    some (row.permit row.sendid row.recvid)
  else if sqlstr = deleteFileSql row.sendid row.recvid then
    if row.waits row.sendid row.recvid then none else some row
  else
    let siz := atoi ((sqlstr.drop 29).takeWhile (· ≠ 32))
    if sqlstr = updateFileSql row.sendid row.recvid siz then
      some (row.update row.sendid row.recvid siz)
    else
      some row

theorem edited_keys {sqlstr : Buffer} {row row' : FileRow}
    (left : edited sqlstr row = some row') : row'.tid = row.tid ∧
      row'.sendid = row.sendid ∧ row'.recvid = row.recvid := by
  have permitted : (row.permit row.sendid row.recvid).sendid = row.sendid ∧
      (row.permit row.sendid row.recvid).recvid = row.recvid := by
    unfold FileRow.permit
    split <;> exact ⟨rfl, rfl⟩
  have updated (siz : Int) :
      (row.update row.sendid row.recvid siz).sendid = row.sendid ∧
      (row.update row.sendid row.recvid siz).recvid = row.recvid := by
    unfold FileRow.update
    split <;> exact ⟨rfl, rfl⟩
  unfold edited at left
  split at left
  · cases left
    exact ⟨row.permit_tid _ _, permitted⟩
  · split at left
    · split at left
      · cases left
      · cases left
        exact ⟨rfl, rfl, rfl⟩
    · dsimp only at left
      split at left
      · cases left
        exact ⟨row.update_tid _ _ _, updated _⟩
      · cases left
        exact ⟨rfl, rfl, rfl⟩

theorem edited_tids (sqlstr : Buffer) (rows : List FileRow) :
    ((rows.filterMap (edited sqlstr)).map FileRow.tid).Sublist
      (rows.map FileRow.tid) := by
  induction rows with
  | nil => exact .slnil
  | cons row rows induction =>
      cases left : edited sqlstr row with
      | none =>
          rw [List.filterMap_cons_none left]
          exact induction.cons _
      | some row' =>
          rw [List.filterMap_cons_some left, List.map_cons, List.map_cons,
            (edited_keys left).1]
          exact induction.cons_cons _

def edits (rows : FileRows) (sqlstr : Buffer) : FileRows :=
  ⟨rows.val.filterMap (edited sqlstr),
    rows.property.1.sublist (edited_tids sqlstr rows.val), by
      intro row' member
      obtain ⟨row, kept, left⟩ := List.mem_filterMap.mp member
      obtain ⟨_, sendid, recvid⟩ := edited_keys left
      rw [sendid, recvid]
      exact rows.property.2 row kept⟩

theorem appended_keyed (rows : FileRows) (sqlstr : Buffer) :
    ((rows.val ++ [fileRowOf (nextTid rows.val) sqlstr]).map
      FileRow.tid).Nodup := by
  rw [List.map_append, List.map_singleton]
  apply List.nodup_append_comm.mp
  refine List.nodup_cons.mpr ⟨?_, rows.property.1⟩
  intro member
  obtain ⟨other, kept, same⟩ := List.mem_map.mp member
  exact absurd same (Int.ne_of_lt (tid_lt_nextTid kept))

theorem appended_inInt (rows : FileRows) (sqlstr : Buffer) :
    ∀ row ∈ rows.val ++ [fileRowOf (nextTid rows.val) sqlstr],
      InInt row.sendid ∧ InInt row.recvid := by
  intro row member
  rcases List.mem_append.mp member with before | last
  · exact rows.property.2 row before
  · rw [List.mem_singleton.mp last]
    exact ⟨atoi_inInt _, atoi_inInt _⟩

def insertsFile (rows : FileRows) (sqlstr : Buffer) : Reply × FileRows :=
  (.done, ⟨rows.val ++ [fileRowOf (nextTid rows.val) sqlstr],
    appended_keyed rows sqlstr, appended_inInt rows sqlstr⟩)

/-- The environment of a server with these accounts and a table of
transfers. -/
def filedEnv (accounts : List Account) : Env FileRows where
  query := fun rows sqlstr =>
    if insertFile.isPrefixOf sqlstr then
      insertsFile rows sqlstr
    else if updateFile.isPrefixOf sqlstr || deleteFile.isPrefixOf sqlstr then
      (.done, edits rows sqlstr)
    else
      ((Tables.mk accounts []).answer sqlstr, rows)
  time := fun _ => 0
  stray := fun _ => false

/-! Its statements tell the pairs apart. -/

theorem filePairSql_eq (sendid recvid : Int) (statue : String) :
    filePairSql sendid recvid statue = ofText " where sendid = " ++
      (ofInt sendid ++ 32 :: (ofText "and recvid = " ++
        (ofInt recvid ++ 32 :: (ofText "and statue = " ++
          ofText statue)))) := by
  have first : ofText " and recvid = " = 32 :: ofText "and recvid = " := rfl
  have second : ofText " and statue = " = 32 :: ofText "and statue = " := rfl
  rw [filePairSql, first, second]
  simp only [List.append_assoc, List.cons_append]

theorem filePairSql_inj {sendid recvid sendid' recvid' : Int}
    {statue statue' : String} (sender : InInt sendid) (receiver : InInt recvid)
    (sender' : InInt sendid') (receiver' : InInt recvid')
    (same : filePairSql sendid recvid statue =
      filePairSql sendid' recvid' statue') :
    sendid = sendid' ∧ recvid = recvid' := by
  rw [filePairSql_eq, filePairSql_eq] at same
  obtain ⟨first, rest⟩ := split_at_blank (blank_ofInt sendid)
    (blank_ofInt sendid') (List.append_cancel_left same)
  obtain ⟨second, _⟩ := split_at_blank (blank_ofInt recvid)
    (blank_ofInt recvid') (List.append_cancel_left rest)
  exact ⟨ofInt_injective sender sender' first,
    ofInt_injective receiver receiver' second⟩

theorem filePairSql_clean (sendid recvid : Int) (statue : String)
    (clean : (0 : UInt8) ∉ ofText statue) :
    (0 : UInt8) ∉ filePairSql sendid recvid statue := by
  have numbers := Database.clean_ofInt
  have texts : (0 : UInt8) ∉ ofText " where sendid = " ∧
      (0 : UInt8) ∉ ofText " and recvid = " ∧
      (0 : UInt8) ∉ ofText " and statue = " := by
    decide
  simp [filePairSql, texts, numbers, clean]

theorem permitFileSql_clean (sendid recvid : Int) :
    (0 : UInt8) ∉ permitFileSql sendid recvid := by
  have begins : (0 : UInt8) ∉ ofText "update filetrans set statue=1" := by
    decide
  simp [permitFileSql, begins, filePairSql_clean _ _ "0" (by decide)]

theorem deleteFileSql_clean (sendid recvid : Int) :
    (0 : UInt8) ∉ deleteFileSql sendid recvid := by
  have begins : (0 : UInt8) ∉ ofText "delete from filetrans" := by decide
  simp [deleteFileSql, begins, filePairSql_clean _ _ "0" (by decide)]

theorem updateFileSql_clean (sendid recvid siz : Int) :
    (0 : UInt8) ∉ updateFileSql sendid recvid siz := by
  have begins : (0 : UInt8) ∉ ofText "update filetrans set succsiz=" := by
    decide
  simp [updateFileSql, begins, Database.clean_ofInt,
    filePairSql_clean _ _ "1" (by decide)]

theorem insertFileRecordSql_clean (sendid recvid allsiz : Int)
    {filename : Buffer} (clean : (0 : UInt8) ∉ filename) :
    (0 : UInt8) ∉ insertFileRecordSql sendid recvid allsiz filename := by
  have numbers := Database.clean_ofInt
  have texts : (0 : UInt8) ∉ ofText
      "insert into filetrans(sendid,recvid,allsiz,filename) values('" ∧
      (0 : UInt8) ∉ ofText "','" ∧ (0 : UInt8) ∉ ofText "')" := by
    decide
  simp [insertFileRecordSql, texts, numbers, clean]

theorem insertFile_insertFileRecordSql (sendid recvid allsiz : Int)
    (filename : Buffer) :
    insertFile <+: insertFileRecordSql sendid recvid allsiz filename := by
  simp only [insertFileRecordSql, List.append_assoc]
  exact List.prefix_append_of_prefix (by decide)

theorem updateFileSql_siz {sendid recvid siz : Int} (range : InInt siz) :
    atoi (((updateFileSql sendid recvid siz).drop 29).takeWhile (· ≠ 32)) =
      siz := by
  have begins : updateFileSql sendid recvid siz =
      ofText "update filetrans set succsiz=" ++ (ofInt siz ++ 32 ::
        (filePairSql sendid recvid "1").drop 1) := by
    rw [updateFileSql, List.append_assoc]
    rfl
  have count : ((updateFileSql sendid recvid siz).drop 29).takeWhile
      (· ≠ 32) = ofInt siz := by
    have length : (ofText "update filetrans set succsiz=").length = 29 := by
      decide
    rw [begins, List.drop_left' length, List.takeWhile_append_of_pos,
      List.takeWhile_cons_of_neg (by simp), List.append_nil]
    intro byte member
    exact decide_eq_true fun blank => blank_ofInt siz (blank ▸ member)
  rw [count, atoi_ofInt range.1 range.2]

theorem permitFileSql_ne_delete (sendid recvid a b : Int) :
    permitFileSql sendid recvid ≠ deleteFileSql a b :=
  ofText_append_ne 0 (by decide) (by decide) (by decide)

theorem permitFileSql_ne_update (sendid recvid a b siz : Int) :
    permitFileSql sendid recvid ≠ updateFileSql a b siz := by
  rw [updateFileSql, List.append_assoc]
  exact ofText_append_ne 22 (by decide) (by decide) (by decide)

theorem updateFileSql_ne_delete (sendid recvid siz a b : Int) :
    updateFileSql sendid recvid siz ≠ deleteFileSql a b := by
  rw [updateFileSql, List.append_assoc]
  exact ofText_append_ne 0 (by decide) (by decide) (by decide)

theorem edited_permit {sendid recvid : Int} {row : FileRow}
    (sender : InInt sendid) (receiver : InInt recvid)
    (keys : InInt row.sendid ∧ InInt row.recvid) :
    edited (permitFileSql sendid recvid) row =
      some (row.permit sendid recvid) := by
  unfold edited
  split
  · rename_i same
    obtain ⟨rfl, rfl⟩ := filePairSql_inj sender receiver keys.1 keys.2
      (List.append_cancel_left same)
    rfl
  · rename_i other
    have away : row.permit sendid recvid = row := by
      apply FileRow.permit_eq_self.mpr
      apply Bool.eq_false_iff.mpr
      intro waits
      obtain ⟨rfl, rfl, _⟩ := FileRow.isAt_iff.mp waits
      exact other rfl
    rw [if_neg (permitFileSql_ne_delete _ _ _ _),
      if_neg (permitFileSql_ne_update _ _ _ _ _), away]

theorem edited_delete {sendid recvid : Int} {row : FileRow}
    (sender : InInt sendid) (receiver : InInt recvid)
    (keys : InInt row.sendid ∧ InInt row.recvid) :
    edited (deleteFileSql sendid recvid) row =
      Option.guard (fun row => !row.waits sendid recvid) row := by
  unfold edited
  rw [if_neg (permitFileSql_ne_delete _ _ _ _).symm,
    if_neg (updateFileSql_ne_delete _ _ _ _ _).symm]
  split
  · rename_i same
    obtain ⟨rfl, rfl⟩ := filePairSql_inj sender receiver keys.1 keys.2
      (List.append_cancel_left same)
    rw [Option.guard]
    cases row.waits row.sendid row.recvid <;> rfl
  · rename_i other
    have away : row.waits sendid recvid = false := by
      apply Bool.eq_false_iff.mpr
      intro waits
      obtain ⟨rfl, rfl, _⟩ := FileRow.isAt_iff.mp waits
      exact other rfl
    rw [Option.guard, away]
    rfl

theorem edited_update {sendid recvid siz : Int} {row : FileRow}
    (sender : InInt sendid) (receiver : InInt recvid) (range : InInt siz)
    (keys : InInt row.sendid ∧ InInt row.recvid) :
    edited (updateFileSql sendid recvid siz) row =
      some (row.update sendid recvid siz) := by
  unfold edited
  rw [if_neg (permitFileSql_ne_update _ _ _ _ _).symm,
    if_neg (updateFileSql_ne_delete _ _ _ _ _), updateFileSql_siz range]
  dsimp only
  split
  · rename_i same
    obtain ⟨rfl, rfl⟩ := filePairSql_inj sender receiver keys.1 keys.2
      (List.append_cancel_left same)
    rfl
  · rename_i other
    have away : row.update sendid recvid siz = row := by
      apply FileRow.update_eq_self.mpr
      intro goes
      obtain ⟨rfl, rfl, _⟩ := FileRow.isAt_iff.mp goes
      exact absurd rfl other
    rw [away]

theorem fileRowOf_offering {sendid recvid allsiz : Int} (tid : Int)
    {filename : Buffer} (sender : InInt sendid) (receiver : InInt recvid)
    (size : InInt allsiz) (inside : quote ∉ filename) :
    fileRowOf tid (insertFileRecordSql sendid recvid allsiz filename) =
      ⟨tid, sendid, recvid, allsiz, filename, 0, 0⟩ := by
  have rendered : insertFileRecordSql sendid recvid allsiz filename = _ :=
    Statement.sqlstr_eq filename (.insertFileRecord sendid recvid allsiz)
  rw [fileRowOf, rendered, Statement.intended,
    inserted_render (by decide) sendid recvid allsiz inside]
  dsimp only
  rw [atoi_ofInt sender.1 sender.2, atoi_ofInt receiver.1 receiver.2,
    atoi_ofInt size.1 size.2]

section Filed

variable (accounts : List Account) (rows : FileRows)

theorem query_insertFile {sqlstr : Buffer} (insert : insertFile <+: sqlstr) :
    (filedEnv accounts).query rows sqlstr = insertsFile rows sqlstr := by
  have here := List.isPrefixOf_iff_prefix.mpr insert
  simp only [filedEnv, here, if_true]

theorem query_edits {sqlstr : Buffer}
    (edit : updateFile <+: sqlstr ∨ deleteFile <+: sqlstr) :
    (filedEnv accounts).query rows sqlstr = (.done, edits rows sqlstr) := by
  have other : insertFile.isPrefixOf sqlstr = false := by
    apply Bool.eq_false_iff.mpr
    intro insert
    refine absurd (List.isPrefixOf_iff_prefix.mp insert) ?_
    rcases edit with ⟨rest, rfl⟩ | ⟨rest, rfl⟩
    · exact @other_statement _ _ 0 117 rfl (by decide) (by decide)
    · exact @other_statement _ _ 0 100 rfl (by decide) (by decide)
  have here : (updateFile.isPrefixOf sqlstr || deleteFile.isPrefixOf sqlstr) =
      true := by
    simpa using edit
  simp only [filedEnv, other, here, if_true, Bool.false_eq_true, if_false]

theorem query_unfiled {sqlstr : Buffer} (other : Unfiled sqlstr) :
    ((filedEnv accounts).query rows sqlstr).2 = rows := by
  have apart {begins : Buffer} (away : ¬ begins <+: sqlstr) :
      begins.isPrefixOf sqlstr = false :=
    Bool.eq_false_iff.mpr fun here =>
      away (List.isPrefixOf_iff_prefix.mp here)
  simp only [filedEnv, apart other.1, apart other.2.1, apart other.2.2,
    Bool.or_self, Bool.false_eq_true, if_false]

end Filed

def filedTable (accounts : List Account) :
    FileTable (filedEnv accounts) where
  rows := fun rows => rows.val
  keyed := fun rows => rows.property.1
  kept := by
    intro rows sqlstr other
    have front := List.takeWhile_prefix (· ≠ 0) (l := sqlstr)
    exact congrArg Subtype.val (query_unfiled accounts rows
      ⟨fun here => other.1 (here.trans front),
        fun here => other.2.1 (here.trans front),
        fun here => other.2.2 (here.trans front)⟩)
  failed := by
    intro rows sqlstr fails
    refine congrArg Subtype.val (?_ : (mysqlQuery _ rows sqlstr).2 = rows)
    revert fails
    simp only [mysqlQuery, filedEnv]
    split
    · exact fun impossible => by cases impossible
    · split
      · exact fun impossible => by cases impossible
      · exact fun _ => rfl
  grown := by
    intro rows sendid recvid allsiz filename
    rw [mysqlQuery, query_insertFile accounts rows]
    · exact List.prefix_append rows.val _
    · exact prefix_cString (by decide) (insertFile_insertFileRecordSql ..)
  permitted := by
    intro rows sendid recvid sender receiver _
    have edit : updateFile <+: permitFileSql sendid recvid :=
      List.prefix_append_of_prefix (by decide)
    rw [mysqlQuery, cString_of_clean (permitFileSql_clean _ _),
      query_edits accounts rows (.inl edit)]
    have each := List.filterMap_congr fun row member =>
      edited_permit sender receiver (rows.property.2 row member)
    exact each.trans (congrFun List.filterMap_eq_map _)
  deleted := by
    intro rows sendid recvid sender receiver _
    have edit : deleteFile <+: deleteFileSql sendid recvid :=
      List.prefix_append _ _
    rw [mysqlQuery, cString_of_clean (deleteFileSql_clean _ _),
      query_edits accounts rows (.inr edit)]
    have each := List.filterMap_congr fun row member =>
      edited_delete sender receiver (rows.property.2 row member)
    exact each.trans (congrFun List.filterMap_eq_filter _)
  updated := by
    intro rows sendid recvid siz sender receiver range _
    have edit : updateFile <+: updateFileSql sendid recvid siz := by
      rw [updateFileSql, List.append_assoc]
      exact List.prefix_append_of_prefix (by decide)
    rw [mysqlQuery, cString_of_clean (updateFileSql_clean _ _ _),
      query_edits accounts rows (.inl edit)]
    have each := List.filterMap_congr fun row member =>
      edited_update sender receiver range (rows.property.2 row member)
    exact each.trans (congrFun List.filterMap_eq_map _)

theorem filedTable_inserts (accounts : List Account) (charset : Charset) :
    (filedTable accounts).Inserts charset := by
  intro rows sendid recvid allsiz filename sender receiver size literal _ _
  obtain ⟨clean, inside⟩ := literal.free
  have same : offering sendid recvid allsiz filename =
      insertFileRecordSql sendid recvid allsiz filename :=
    (Statement.sqlstr_eq filename
      (.insertFileRecord sendid recvid allsiz)).symm
  refine ⟨nextTid rows.val, ?_⟩
  rw [same, mysqlQuery,
    cString_of_clean (insertFileRecordSql_clean _ _ _ clean),
    query_insertFile accounts rows (insertFile_insertFileRecordSql ..)]
  change rows.val ++ [fileRowOf _ _] = _
  rw [fileRowOf_offering _ sender receiver size inside]
  rfl

end Tables

end GroupChat.Server
