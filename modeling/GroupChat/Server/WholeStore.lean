import GroupChat.Server.Store

namespace GroupChat.Server.Tables

/-! A database server that keeps all the tables of the program in memory: each
statement goes to the one it names. -/

open Buffer (ofText)
open Database (mysqlQuery insertRecord insertFile updateFile deleteFile Unfiled
  Unlogged updateLogin other_statement)

structure Whole where
  records : Rows
  files : FileRows
  accounts : List Account

def isRecord (sqlstr : Buffer) : Bool :=
  insertRecord.isPrefixOf sqlstr || (ofText "select *").isPrefixOf sqlstr

def isFile (sqlstr : Buffer) : Bool :=
  insertFile.isPrefixOf sqlstr ||
    (updateFile.isPrefixOf sqlstr || deleteFile.isPrefixOf sqlstr)

theorem unwritten_proper :
    ∀ stored ∈ ([] : List Stored), stored.Proper ∧ InInt stored.recvid := by
  simp

theorem untransferred_proper : (([] : List FileRow).map FileRow.tid).Nodup ∧
    ∀ row ∈ ([] : List FileRow), InInt row.sendid ∧ InInt row.recvid := by
  simp

def Whole.unused (accounts : List Account) : Whole :=
  ⟨⟨[], unwritten_proper⟩, ⟨[], untransferred_proper⟩, accounts⟩

def wholeEnv : Env Whole where
  query := fun whole sqlstr =>
    if isRecord sqlstr then
      let (reply, records) :=
        (storedEnv whole.accounts).query whole.records sqlstr
      (reply, { whole with records := records })
    else if isFile sqlstr then
      let (reply, files) := (filedEnv whole.accounts).query whole.files sqlstr
      (reply, { whole with files := files })
    else
      let (reply, accounts) := loginEnv.query whole.accounts sqlstr
      (reply, { whole with accounts := accounts })
  time := fun whole => (storedEnv whole.accounts).time whole.records
  stray := fun _ => false

variable (whole : Whole) {sqlstr : Buffer}

theorem unfiled_of_isFile (other : isFile sqlstr = false) :
    Unfiled sqlstr := by
  simp only [isFile, Bool.or_eq_false_iff] at other
  have apart {begins : Buffer} (away : begins.isPrefixOf sqlstr = false) :
      ¬ begins <+: sqlstr := fun here => by
    rw [List.isPrefixOf_iff_prefix.mpr here] at away
    cases away
  exact ⟨apart other.1, apart other.2.1, apart other.2.2⟩

theorem isFile_of_isRecord (about : isRecord sqlstr = true) :
    Unfiled sqlstr ∧ Unlogged sqlstr := by
  rw [isRecord, Bool.or_eq_true, List.isPrefixOf_iff_prefix,
    List.isPrefixOf_iff_prefix] at about
  rcases about with ⟨rest, rfl⟩ | ⟨rest, rfl⟩
  · exact ⟨⟨@other_statement _ _ 12 114 rfl (by decide) (by decide),
      @other_statement _ _ 0 105 rfl (by decide) (by decide),
      @other_statement _ _ 0 105 rfl (by decide) (by decide)⟩,
      @other_statement _ _ 0 105 rfl (by decide) (by decide)⟩
  · exact ⟨⟨@other_statement _ _ 0 115 rfl (by decide) (by decide),
      @other_statement _ _ 0 115 rfl (by decide) (by decide),
      @other_statement _ _ 0 115 rfl (by decide) (by decide)⟩,
      @other_statement _ _ 0 115 rfl (by decide) (by decide)⟩

theorem unlogged_of_isFile (about : isFile sqlstr = true) :
    Unlogged sqlstr := by
  rw [isFile, Bool.or_eq_true, Bool.or_eq_true, List.isPrefixOf_iff_prefix,
    List.isPrefixOf_iff_prefix, List.isPrefixOf_iff_prefix] at about
  rcases about with ⟨rest, rfl⟩ | ⟨rest, rfl⟩ | ⟨rest, rfl⟩
  · exact @other_statement _ _ 0 105 rfl (by decide) (by decide)
  · exact @other_statement _ _ 7 102 rfl (by decide) (by decide)
  · exact @other_statement _ _ 0 100 rfl (by decide) (by decide)

/-! Each table sees the statements as if it were alone. -/

theorem records_query : (wholeEnv.query whole sqlstr).2.records =
    ((storedEnv whole.accounts).query whole.records sqlstr).2 := by
  cases about : isRecord sqlstr with
  | true => simp only [wholeEnv, about, if_true]
  | false =>
      rw [isRecord, Bool.or_eq_false_iff] at about
      have alone : ((storedEnv whole.accounts).query whole.records sqlstr).2 =
          whole.records := by
        simp only [storedEnv, about.1, about.2, Bool.false_eq_true, if_false]
      rw [alone]
      simp only [wholeEnv, isRecord, about.1, about.2, Bool.or_self,
        Bool.false_eq_true, if_false]
      split <;> rfl

theorem records_reply (about : isRecord sqlstr = true) :
    (wholeEnv.query whole sqlstr).1 =
      ((storedEnv whole.accounts).query whole.records sqlstr).1 := by
  simp only [wholeEnv, about, if_true]

theorem files_query : (wholeEnv.query whole sqlstr).2.files =
    ((filedEnv whole.accounts).query whole.files sqlstr).2 := by
  cases about : isRecord sqlstr with
  | true =>
      rw [query_unfiled whole.accounts whole.files (isFile_of_isRecord about).1]
      simp only [wholeEnv, about, if_true]
  | false =>
      cases filed : isFile sqlstr with
      | true =>
          simp only [wholeEnv, about, filed, Bool.false_eq_true, if_false,
            if_true]
      | false =>
          rw [query_unfiled whole.accounts whole.files
            (unfiled_of_isFile filed)]
          simp only [wholeEnv, about, filed, Bool.false_eq_true, if_false]

theorem files_reply (filed : isFile sqlstr = true) :
    (wholeEnv.query whole sqlstr).1 =
      ((filedEnv whole.accounts).query whole.files sqlstr).1 := by
  have other : isRecord sqlstr = false := by
    apply Bool.eq_false_iff.mpr
    intro about
    obtain ⟨insert, update, delete⟩ := (isFile_of_isRecord about).1
    rw [isFile, Bool.or_eq_true, Bool.or_eq_true, List.isPrefixOf_iff_prefix,
      List.isPrefixOf_iff_prefix, List.isPrefixOf_iff_prefix] at filed
    rcases filed with here | here | here
    · exact insert here
    · exact update here
    · exact delete here
  simp only [wholeEnv, other, filed, Bool.false_eq_true, if_false, if_true]

theorem updates_unlogged {accounts : List Account} (other : Unlogged sqlstr) :
    updates accounts sqlstr = accounts := by
  have away : updateLogin.isPrefixOf sqlstr = false := by
    apply Bool.eq_false_iff.mpr
    intro here
    exact other (List.isPrefixOf_iff_prefix.mp here)
  rw [updates, show (ofText "update login").isPrefixOf sqlstr = false from away,
    if_neg (by simp)]

theorem accounts_query : (wholeEnv.query whole sqlstr).2.accounts =
    updates whole.accounts sqlstr := by
  cases about : isRecord sqlstr with
  | true =>
      rw [updates_unlogged (isFile_of_isRecord about).2]
      simp only [wholeEnv, about, if_true]
  | false =>
      cases filed : isFile sqlstr with
      | true =>
          rw [updates_unlogged (unlogged_of_isFile filed)]
          simp only [wholeEnv, about, filed, Bool.false_eq_true, if_false,
            if_true]
      | false =>
          simp only [wholeEnv, about, filed, Bool.false_eq_true, if_false,
            loginEnv]

/-! The tables. -/

theorem isRecord_saveMessageSql (sendid recvid time : Int) (text : Buffer) :
    isRecord (Database.saveMessageSql sendid recvid time text).cString =
      true := by
  have begins : insertRecord <+:
      (Database.saveMessageSql sendid recvid time text).cString :=
    Buffer.prefix_cString (by decide) ⟨_, rfl⟩
  rw [isRecord, Bool.or_eq_true, List.isPrefixOf_iff_prefix]
  exact .inl begins

theorem isRecord_serhMessageSql (myid srid : Int) :
    isRecord (Database.serhMessageSql myid srid).cString = true := by
  have select : ofText "select *" <+: Database.serhMessageSql myid srid := by
    unfold Database.serhMessageSql
    split
    · exact ⟨_, rfl⟩
    · exact ⟨_, rfl⟩
  have begins : ofText "select *" <+:
      (Database.serhMessageSql myid srid).cString :=
    Buffer.prefix_cString (by decide) select
  rw [isRecord, Bool.or_eq_true, List.isPrefixOf_iff_prefix,
    List.isPrefixOf_iff_prefix]
  exact .inr begins

theorem storedTable_rows (accounts : List Account) (rows : Rows) :
    (storedTable accounts).rows rows = rows.val := rfl

def wholeRecords : RecordTable wholeEnv where
  rows := fun whole => whole.records.val
  proper := fun whole => (storedTable whole.accounts).proper whole.records
  kept := by
    intro whole sqlstr other
    have alone :=
      (storedTable whole.accounts).kept whole.records sqlstr other
    simp only [mysqlQuery, storedTable_rows] at alone
    rw [mysqlQuery, records_query]
    exact alone
  selected := by
    intro whole myid srid found mine theirs answered
    rw [← Database.serhMessageSql_eq, mysqlQuery,
      records_reply whole (isRecord_serhMessageSql _ _)] at answered
    exact (storedTable whole.accounts).selected whole.records myid srid found
      mine theirs answered

theorem wholeRecords_inserts (charset : Charset) :
    wholeRecords.Inserts charset := by
  intro whole sendid recvid text sender receiver literal short
  have alone := storedTable_inserts whole.accounts charset whole.records sendid
    recvid text sender receiver literal short
  have same : wholeEnv.storing whole sendid recvid text =
      Database.saveMessageSql sendid recvid (wholeEnv.time whole) text :=
    (Statement.sqlstr_eq text (.saveMessage sendid recvid _)).symm
  have same' : (storedEnv whole.accounts).storing whole.records sendid recvid
      text = Database.saveMessageSql sendid recvid (wholeEnv.time whole) text :=
    (Statement.sqlstr_eq text (.saveMessage sendid recvid _)).symm
  have time : (storedEnv whole.accounts).time whole.records =
      wholeEnv.time whole := rfl
  rw [same', time] at alone
  simp only [mysqlQuery, storedTable_rows] at alone
  rw [same, mysqlQuery, records_reply whole (isRecord_saveMessageSql _ _ _ _)]
  change ((wholeEnv.query whole _).2.records).val = _
  rw [records_query]
  exact alone

theorem isFile_insertFileRecordSql (sendid recvid allsiz : Int)
    (filename : Buffer) : isFile (Database.insertFileRecordSql sendid recvid
      allsiz filename).cString = true := by
  have begins : insertFile <+: (Database.insertFileRecordSql sendid recvid
      allsiz filename).cString :=
    Buffer.prefix_cString (by decide) (insertFile_insertFileRecordSql ..)
  rw [isFile, Bool.or_eq_true, List.isPrefixOf_iff_prefix]
  exact .inl begins

theorem isFile_edit (front : updateFile <+: sqlstr ∨ deleteFile <+: sqlstr) :
    isFile sqlstr.cString = true := by
  rw [isFile, Bool.or_eq_true, Bool.or_eq_true, List.isPrefixOf_iff_prefix,
    List.isPrefixOf_iff_prefix, List.isPrefixOf_iff_prefix]
  rcases front with update | delete
  · exact .inr (.inl (Buffer.prefix_cString (by decide) update))
  · exact .inr (.inr (Buffer.prefix_cString (by decide) delete))

theorem updateFile_permitFileSql (sendid recvid : Int) :
    updateFile <+: Database.permitFileSql sendid recvid :=
  List.prefix_append_of_prefix (by decide)

theorem deleteFile_deleteFileSql (sendid recvid : Int) :
    deleteFile <+: Database.deleteFileSql sendid recvid :=
  List.prefix_append _ _

theorem updateFile_updateFileSql (sendid recvid siz : Int) :
    updateFile <+: Database.updateFileSql sendid recvid siz := by
  rw [Database.updateFileSql, List.append_assoc]
  exact List.prefix_append_of_prefix (by decide)

theorem filedTable_rows (accounts : List Account) (rows : FileRows) :
    (filedTable accounts).rows rows = rows.val := rfl

def wholeFiles : FileTable wholeEnv where
  rows := fun whole => whole.files.val
  keyed := fun whole => (filedTable whole.accounts).keyed whole.files
  kept := by
    intro whole sqlstr other
    have alone := (filedTable whole.accounts).kept whole.files sqlstr other
    simp only [mysqlQuery, filedTable_rows] at alone
    rw [mysqlQuery, files_query]
    exact alone
  failed := by
    intro whole sqlstr fails
    rw [mysqlQuery, files_query]
    rw [mysqlQuery] at fails
    cases filed : isFile sqlstr.cString with
    | true =>
        rw [files_reply whole filed] at fails
        exact (filedTable whole.accounts).failed whole.files sqlstr fails
    | false =>
        rw [query_unfiled whole.accounts whole.files (unfiled_of_isFile filed)]
  grown := by
    intro whole sendid recvid allsiz filename
    have alone := (filedTable whole.accounts).grown whole.files sendid recvid
      allsiz filename
    simp only [mysqlQuery, filedTable_rows] at alone
    rw [mysqlQuery, files_query]
    exact alone
  permitted := by
    intro whole sendid recvid sender receiver done
    have reply := files_reply whole
      (isFile_edit (.inl (updateFile_permitFileSql sendid recvid)))
    have alone := (filedTable whole.accounts).permitted whole.files sendid
      recvid sender receiver (fun failed => done (reply.trans failed))
    simp only [mysqlQuery, filedTable_rows] at alone
    rw [mysqlQuery, files_query]
    exact alone
  deleted := by
    intro whole sendid recvid sender receiver done
    have reply := files_reply whole
      (isFile_edit (.inr (deleteFile_deleteFileSql sendid recvid)))
    have alone := (filedTable whole.accounts).deleted whole.files sendid
      recvid sender receiver (fun failed => done (reply.trans failed))
    simp only [mysqlQuery, filedTable_rows] at alone
    rw [mysqlQuery, files_query]
    exact alone
  updated := by
    intro whole sendid recvid siz sender receiver range done
    have reply := files_reply whole
      (isFile_edit (.inl (updateFile_updateFileSql sendid recvid siz)))
    have alone := (filedTable whole.accounts).updated whole.files sendid
      recvid siz sender receiver range
      (fun failed => done (reply.trans failed))
    simp only [mysqlQuery, filedTable_rows] at alone
    rw [mysqlQuery, files_query]
    exact alone

theorem wholeFiles_inserts (charset : Charset) :
    wholeFiles.Inserts charset := by
  intro whole sendid recvid allsiz filename sender receiver size literal short
    done
  have same : offering sendid recvid allsiz filename =
      Database.insertFileRecordSql sendid recvid allsiz filename :=
    (Statement.sqlstr_eq filename
      (.insertFileRecord sendid recvid allsiz)).symm
  rw [same] at done
  have reply := files_reply whole
    (isFile_insertFileRecordSql sendid recvid allsiz filename)
  have alone := filedTable_inserts whole.accounts charset whole.files sendid
    recvid allsiz filename sender receiver size literal short
    (same ▸ fun failed => done (reply.trans failed))
  rw [same] at alone ⊢
  simp only [mysqlQuery, filedTable_rows] at alone
  change ∃ tid, ((wholeEnv.query whole _).2.files).val = _
  rw [files_query]
  exact alone

theorem updatePasswd_answered (uid : Uid) (passwd : Buffer) :
    (mysqlQuery wholeEnv whole (Database.updatePasswdSql (toSigned uid)
      (MD5.hexdigest passwd))).1 = .done := by
  rw [mysqlQuery, updatePasswdSql_clean]
  rfl

def wholeAccounts : LoginTable wholeEnv where
  rows := fun whole => whole.accounts
  kept := by
    intro whole sqlstr select
    have other : Unlogged (Buffer.cString sqlstr) := fun here =>
      Database.unlogged_select sqlstr (by
        obtain ⟨rest, rfl⟩ := select
        rfl) (here.trans (List.takeWhile_prefix _))
    rw [mysqlQuery, accounts_query, updates_unlogged other]
  updated := by
    intro whole uid passwd
    have alone := loginTable.updated whole.accounts uid passwd
    rw [writing_eq] at alone ⊢
    rw [updatePasswd_answered, if_neg (by decide), mysqlQuery, accounts_query]
    exact alone

def wholeStore : Store wholeEnv where
  records := wholeRecords
  files := wholeFiles
  accounts := wholeAccounts
  kept := by
    intro whole sqlstr other
    have away : Unlogged (Buffer.cString sqlstr) := fun here =>
      other (here.trans (List.takeWhile_prefix _))
    change (mysqlQuery wholeEnv whole sqlstr).2.accounts = whole.accounts
    rw [mysqlQuery, accounts_query, updates_unlogged away]
  charset := .gbk
  recorded := wholeRecords_inserts .gbk
  offered := wholeFiles_inserts .gbk

end GroupChat.Server.Tables
