import GroupChat.Server.Serving
import GroupChat.Server.Statements
import GroupChat.Server.Tables

namespace GroupChat.Server

/-! The record table during a run of the server. -/

open Quoting (render)
open Database (mysqlQuery Queried insertRecord saveMessageSql serhMessageSql)
open Connections (TextShape)

variable {ω : Type} {env : Env ω}

def InInt (number : Int) : Prop :=
  -2147483648 ≤ number ∧ number < 2147483648

instance (number : Int) : Decidable (InInt number) :=
  inferInstanceAs (Decidable (_ ∧ _))

theorem toSigned_inInt (word : UInt32) : InInt (toSigned word) := by
  have range := word.toNat_lt
  unfold toSigned InInt
  rw [Int.bmod_def]
  omega

theorem ofInt_toSigned (word : UInt32) :
    UInt32.ofInt (toSigned word) = word := by
  have range := word.toNat_lt
  apply UInt32.toNat.inj
  unfold toSigned UInt32.ofInt
  rw [UInt32.toNat_ofNat', Int.bmod_def]
  omega

theorem toSigned_injective {first second : UInt32}
    (same : toSigned first = toSigned second) : first = second := by
  rw [← ofInt_toSigned first, same, ofInt_toSigned]

/-- A database server with a record table.  Only an insert changes the table,
and a select answers the rows it asks for. -/
structure RecordTable (env : Env ω) where
  rows : ω → List Stored
  proper : ∀ world, ∀ stored ∈ rows world, stored.Proper
  kept : ∀ world sqlstr, ¬ insertRecord <+: sqlstr →
    rows (mysqlQuery env world sqlstr).2 = rows world
  selected : ∀ world myid srid found, InInt myid → InInt srid →
    (mysqlQuery env world (Stored.request myid srid)).1 = .rows found →
    List.Forall₂ Stored.Shown found
      ((rows world).filter (Stored.between myid srid))

/-- The statement that is meant to store a message now. -/
def Env.storing (env : Env ω) (world : ω) (sendid recvid : Int)
    (text : Buffer) : Buffer :=
  render (Statement.intended text
    (.saveMessage sendid recvid (env.time world)))

/-- An insert that succeeds appends the row it describes, where its text is one
of the character set of the connection and fits the column. -/
def RecordTable.Inserts (table : RecordTable env) (charset : Charset) : Prop :=
  ∀ world sendid recvid text, InInt sendid → InInt recvid →
    charset.Literal text → text.length ≤ 2048 →
    table.rows (mysqlQuery env world
        (env.storing world sendid recvid text)).2 =
      if (mysqlQuery env world (env.storing world sendid recvid text)).1 =
        .failed then table.rows world
      else table.rows world ++ [⟨sendid, recvid, env.time world, text⟩]

/-- The rows a history is made of, each with its place in the table. -/
def picked (rows : List Stored) (myid srid : Int) : List (Stored × Nat) :=
  rows.zipIdx.filter fun entry => Stored.between myid srid entry.1

theorem map_picked (rows : List Stored) (myid srid : Int) :
    (picked rows myid srid).map Prod.fst =
      rows.filter (Stored.between myid srid) := by
  have whole : rows.zipIdx.map Prod.fst = rows := List.zipIdx_map_fst 0 rows
  calc (picked rows myid srid).map Prod.fst
      = (rows.zipIdx.map Prod.fst).filter (Stored.between myid srid) := by
        rw [List.filter_map]
        rfl
    _ = rows.filter (Stored.between myid srid) := by rw [whole]

theorem mem_picked {rows : List Stored} {myid srid : Int} {stored : Stored}
    {index : Nat} :
    (stored, index) ∈ picked rows myid srid ↔
      rows[index]? = some stored ∧ stored.between myid srid = true := by
  rw [picked, List.mem_filter, List.mk_mem_zipIdx_iff_getElem?]

theorem map_lastOf {α β : Type} (count : Nat) (entries : List α)
    (f : α → β) : (lastOf count entries).map f = lastOf count (entries.map f) := by
  rw [lastOf, lastOf, List.map_drop, List.length_map]

/-- The records of these entries, one behind the other. -/
def recordBytes (entries : List (Stored × Nat)) : Buffer :=
  entries.flatMap fun entry => entry.1.encoded

theorem recordBytes_eq (entries : List (Stored × Nat)) :
    recordBytes entries = (entries.map Prod.fst).flatMap Stored.encoded := by
  rw [recordBytes, List.flatMap_map]

theorem Database.statement_eq (world : ω) (sqlstr : Buffer) :
    statement env world sqlstr =
      (if (mysqlQuery env world sqlstr).1 = .failed then -1 else 0,
        (mysqlQuery env world sqlstr).2) := by
  unfold statement
  cases mysqlQuery env world sqlstr with
  | mk reply world' => cases reply <;> rfl

/-- The text in a frame is one of the character set, unless the frame is refused
for its shape. -/
def LegibleFrame (charset : Charset) (frame : Message) : Prop :=
  frame.header.type = 0x13 → TextShape frame →
    charset.Literal (frame.data.drop 4)

instance (charset : Charset) (frame : Message) :
    Decidable (LegibleFrame charset frame) :=
  inferInstanceAs (Decidable (_ = _ → TextShape _ → charset.Literal _))

namespace RecordTable

theorem rows_queried (table : RecordTable env) {world world' : ω}
    (queried : Queried env world world') :
    table.rows world' = table.rows world := by
  induction queried with
  | refl => rfl
  | query _ other induction => exact (table.kept _ _ other).trans induction

theorem rows_saved {table : RecordTable env} {charset : Charset}
    (inserts : table.Inserts charset) (world : ω) {sendid recvid : Int}
    {text : Buffer} (sender : InInt sendid) (receiver : InInt recvid)
    (literal : charset.Literal text) (short : text.length ≤ 1024) :
    table.rows (Database.saveMessage env world sendid recvid text).2 =
      if (Database.saveMessage env world sendid recvid text).1 < 0 then
        table.rows world
      else
        table.rows world ++ [⟨sendid, recvid, env.time world, text⟩] := by
  have inserted := inserts world sendid recvid text sender receiver literal
    (short.trans (by decide))
  have same : saveMessageSql sendid recvid (env.time world) text =
      env.storing world sendid recvid text :=
    Statement.sqlstr_eq text (.saveMessage sendid recvid (env.time world))
  rw [Database.saveMessage, Database.statement_eq, same, inserted]
  split
  · rfl
  · rfl

/-- What `serh_message` finds: the last of the rows it asks for. -/
theorem serhMessage_picked (table : RecordTable env) {world : ω}
    {myid srid : Int} {found : Database.SerhMessage ω}
    (mine : InInt myid) (theirs : InInt srid)
    (searched : Database.serhMessage env world myid srid = .ok found) :
    ∃ count, found.records =
      recordBytes (lastOf count (picked (table.rows world) myid srid)) := by
  obtain ⟨⟨count, world'⟩, counted, rest⟩ := Exec.of_bind_ok searched
  have same : table.rows world' = table.rows world :=
    table.rows_queried (Database.numberOf_queried rfl counted)
  dsimp only at rest
  split at rest
  · cases rest
    exact ⟨0, by rw [lastOf, Nat.sub_zero, List.drop_length]; rfl⟩
  · cases rest
    exact ⟨0, by rw [lastOf, Nat.sub_zero, List.drop_length]; rfl⟩
  · rename_i found' selected
    obtain ⟨records, looped, rest⟩ := Exec.of_bind_ok rest
    cases rest
    have shown := table.selected world' myid srid found' mine theirs selected
    rw [same] at shown
    have proper : ∀ stored ∈ (table.rows world).filter
        (Stored.between myid srid), stored.Proper := fun stored member =>
      table.proper world stored (List.mem_of_mem_filter member)
    rw [Database.serhLoop_eq [] shown proper
      (by rw [shown.length_eq]; omega)] at looped
    split at looped
    · cases looped
    · cases looped
      refine ⟨count.toNat, ?_⟩
      rw [recordBytes_eq, map_lastOf, map_picked]
      rfl

/-- Handling a frame leaves the rows alone, or appends the text message it
is. -/
theorem rows_served {table : RecordTable env} {charset : Charset}
    (inserts : table.Inserts charset) {s s' : Connections ω} {fd : Fd}
    (served : Connections.Served env s fd s')
    (legible : LegibleFrame charset (s.frame fd)) :
    table.rows s'.db = table.rows s.db ∨ ∃ uid dstUid time,
      (s.frame fd).header.type = 0x13 ∧ TextShape (s.frame fd) ∧
      (s.frame fd).data.wordAt 0 = .ok dstUid ∧ s.myUid fd = .ok uid ∧
      table.rows s'.db = table.rows s.db ++ [⟨toSigned uid, toSigned dstUid,
        time, (s.frame fd).data.drop 4⟩] := by
  cases served with
  | answer world queried made type failed =>
      exact .inl (table.rows_queried queried)
  | @history world uid myUid found type read mine queried searched =>
      exact .inl (table.rows_queried
        (queried.trans (Database.serhMessage_queried searched)))
  | @unsaved world uid dstUid type read mine queried failed shape size =>
      have saved := rows_saved inserts world (toSigned_inInt uid)
        (toSigned_inInt dstUid) (legible type shape) (shape.text_length size)
      rw [if_pos failed, table.rows_queried queried] at saved
      exact .inl saved
  | @text world uid dstUid exist online type read mine queried saved reach
      shape size =>
      have stored := rows_saved inserts world (toSigned_inInt uid)
        (toSigned_inInt dstUid) (legible type shape) (shape.text_length size)
      rw [if_neg (Int.not_lt.mpr saved), table.rows_queried queried] at stored
      refine .inr ⟨uid, dstUid, env.time world, type, shape, read, mine, ?_⟩
      rw [Connections.pushes_db, Connections.push_db]
      exact stored
  | file kind read mine found queried =>
      exact .inl (table.rows_queried queried)
  | login db type took listed queried =>
      exact .inl (table.rows_queried queried)

end RecordTable

/-- A step hands over no text that is not one of the character set. -/
def Legible (charset : Charset) (s : State ω) : Step → Prop
  | .recvMsg fd net =>
      ((s.conns.conns fd).receive net).1 = .complete →
        LegibleFrame charset ((s.conns.conns fd).receive net).2.recvMsg
  | _ => True

instance (charset : Charset) (s : State ω) :
    DecidablePred (Legible charset s) := fun step =>
  match step with
  | .recvMsg _ _ => inferInstanceAs (Decidable (_ = _ → LegibleFrame _ _))
  | .accept _ | .sendMsg _ _ | .closeConn _ =>
      inferInstanceAs (Decidable True)

theorem Handles.legible {charset : Charset} {s : State ω} {step : Step}
    {fd : Fd} {conns : Connections ω} (handles : Handles s step fd conns)
    (legible : Legible charset s step) :
    LegibleFrame charset (conns.frame fd) := by
  obtain ⟨net, rfl, complete, rfl⟩ := handles
  rw [Connections.frame, Connections.setConn_conns_self]
  exact legible complete

theorem rows_next {table : RecordTable env} {charset : Charset}
    (inserts : table.Inserts charset) {s s' : State ω} {step : Step}
    (reached : (machine env).Reachable s) (legible : Legible charset s step)
    (moved : s.next env step = .ok s') :
    ∃ more, table.rows s'.conns.db = table.rows s.conns.db ++ more := by
  rcases s.next_served reached moved with ⟨fd, conns, handles, served⟩ | still
  · have grown :=
      RecordTable.rows_served inserts served (handles.legible legible)
    rw [handles.db] at grown
    rcases grown with same | ⟨_, _, _, _, _, _, _, appended⟩
    · exact ⟨[], by rw [same, List.append_nil]⟩
    · exact ⟨_, appended⟩
  · exact ⟨[], by rw [still.1, List.append_nil]⟩

namespace Tables

/-! A database server that keeps the record table in memory. -/

open Buffer (ofText)
open Decimal Quoting

/-- The rows of the record table, with what its columns can hold. -/
abbrev Rows :=
  { rows : List Stored // ∀ stored ∈ rows, stored.Proper ∧ InInt stored.recvid }

def storedOf (sqlstr : Buffer) : Stored :=
  let record := inserted sqlstr
  ⟨atoi record.sendid, atoi record.recvid, atoll record.time,
    record.message.cString⟩

def selectsStored (sqlstr : Buffer) (stored : Stored) : Bool :=
  if sqlstr = serhMessageSql 0 0xFFFF then
    stored.recvid = 0xFFFF
  else
    sqlstr = serhMessageSql stored.sendid stored.recvid ∨
      sqlstr = serhMessageSql stored.recvid stored.sendid

def shownStored (stored : Stored) : Row :=
  [some [], some (ofInt stored.sendid), some (ofInt stored.recvid),
    some (ofInt stored.time), some stored.message]

theorem atoi_inInt (text : Buffer) : InInt (atoi text) := by
  unfold atoi InInt
  rw [Int.bmod_def]
  omega

theorem atoll_bounds (text : Buffer) : -9223372036854775808 ≤ atoll text ∧
    atoll text ≤ 9223372036854775807 := by
  have clamped (number : Int) : -9223372036854775808 ≤ clamp number ∧
      clamp number ≤ 9223372036854775807 := by
    unfold clamp
    omega
  unfold atoll strtol
  split
  · exact clamped _
  · exact clamped _
  · exact clamped _

theorem clean_cString (text : Buffer) : (0 : UInt8) ∉ text.cString := by
  intro member
  have holds := List.mem_takeWhile_imp member
  simp at holds

theorem storedOf_proper (sqlstr : Buffer) :
    (storedOf sqlstr).Proper ∧ InInt (storedOf sqlstr).recvid :=
  ⟨⟨atoi_inInt _, atoll_bounds _, clean_cString _⟩, atoi_inInt _⟩

theorem appended_proper (rows : Rows) (sqlstr : Buffer) :
    ∀ stored ∈ rows.val ++ [storedOf sqlstr],
      stored.Proper ∧ InInt stored.recvid := by
  intro stored member
  rcases List.mem_append.mp member with before | last
  · exact rows.property stored before
  · rw [List.mem_singleton.mp last]
    exact storedOf_proper sqlstr

def inserts (rows : Rows) (sqlstr : Buffer) : Reply × Rows :=
  (.done, ⟨rows.val ++ [storedOf sqlstr], appended_proper rows sqlstr⟩)

/-- The environment of a server with these accounts and a record table. -/
def storedEnv (accounts : List Account) : Env Rows where
  query := fun rows sqlstr =>
    if insertRecord.isPrefixOf sqlstr then
      inserts rows sqlstr
    else if (ofText "select *").isPrefixOf sqlstr then
      (.rows ((rows.val.filter (selectsStored sqlstr)).map shownStored), rows)
    else
      ((Tables.mk accounts []).answer sqlstr, rows)
  time := fun rows => (rows.val.length % 2147483648 : Nat)
  stray := fun _ => false

theorem saveMessageSql_cString {text : Buffer} (clean : (0 : UInt8) ∉ text)
    (sendid recvid time : Int) :
    (saveMessageSql sendid recvid time text).cString =
      saveMessageSql sendid recvid time text := by
  apply Buffer.cString_of_clean
  intro member
  have numbers := Database.clean_ofInt
  have texts : (0 : UInt8) ∉ ofText
      "insert into record(sendid,recvid,time,message) values('" ∧
      (0 : UInt8) ∉ ofText "','" ∧ (0 : UInt8) ∉ ofText "')" := by
    decide
  simp [saveMessageSql, texts, numbers, clean] at member

theorem behind_append {begins : Buffer} (free : quote ∉ begins)
    (rest : Buffer) : behind (begins ++ quote :: rest) 0 = rest := by
  have skipped : ∀ byte ∈ begins, decide (byte ≠ 0x27) = true :=
    fun byte member => decide_eq_true fun same : byte = quote =>
      free (same ▸ member)
  rw [behind, List.drop_zero, List.dropWhile_append_of_pos skipped,
    List.dropWhile_cons_of_neg (by simp [quote])]
  rfl

theorem unquoted_append {text : Buffer} (free : quote ∉ text)
    (rest : Buffer) : unquoted (text ++ quote :: rest) = text := by
  have taken : ∀ byte ∈ text, decide (byte ≠ 0x27) = true :=
    fun byte member => decide_eq_true fun same : byte = quote =>
      free (same ▸ member)
  rw [unquoted, List.takeWhile_append_of_pos taken,
    List.takeWhile_cons_of_neg (by simp [quote]), List.append_nil]

theorem inserted_render {begins text : Buffer} (free : quote ∉ begins)
    (first second third : Int) (inside : quote ∉ text) :
    inserted (render [.plain begins, .literal (ofInt first),
      .plain (ofText ","), .literal (ofInt second), .plain (ofText ","),
      .literal (ofInt third), .plain (ofText ","), .literal text,
      .plain (ofText ")")]) =
        ⟨ofInt first, ofInt second, ofInt third, text⟩ := by
  have number (n : Int) : quote ∉ ofInt n := (clean_ofInt n).2.1
  have comma : quote ∉ ofText "," := by decide
  have shape (pieces : List Piece) (value : Buffer) :
      render (.literal value :: pieces) =
        quote :: (value ++ quote :: render pieces) := by
    simp [render, Piece.text]
  have plain (pieces : List Piece) (value : Buffer) :
      render (.plain value :: pieces) = value ++ render pieces := rfl
  simp only [inserted, shape, plain, behind_append free, behind_append comma,
    behind_append (number _), unquoted_append (number _),
    unquoted_append inside]

theorem storedOf_storing {sendid recvid time : Int} {text : Buffer}
    (sender : InInt sendid) (receiver : InInt recvid)
    (early : -9223372036854775808 ≤ time) (late : time ≤ 9223372036854775807)
    (clean : (0 : UInt8) ∉ text) (inside : quote ∉ text) :
    storedOf (saveMessageSql sendid recvid time text) =
      ⟨sendid, recvid, time, text⟩ := by
  have rendered : saveMessageSql sendid recvid time text = _ :=
    Statement.sqlstr_eq text (.saveMessage sendid recvid time)
  rw [storedOf, rendered, Statement.intended,
    inserted_render (by decide) sendid recvid time inside]
  dsimp only
  rw [atoi_ofInt sender.1 sender.2, atoi_ofInt receiver.1 receiver.2, atoll,
    strtol_ofInt early late, Buffer.cString_of_clean clean]

/-! The select statements tell the conversations apart. -/

theorem split_at_blank {first second x y : Buffer} (free : (32 : UInt8) ∉ first)
    (free' : (32 : UInt8) ∉ second)
    (same : first ++ 32 :: x = second ++ 32 :: y) : first = second ∧ x = y := by
  have front (text rest : Buffer) (free : (32 : UInt8) ∉ text) :
      (text ++ 32 :: rest).takeWhile (· ≠ 32) = text := by
    rw [List.takeWhile_append_of_pos, List.takeWhile_cons_of_neg (by simp),
      List.append_nil]
    intro byte member
    exact decide_eq_true fun blank => free (blank ▸ member)
  have equal : first = second := by
    rw [← front first x free, same, front second y free']
  subst equal
  exact ⟨rfl, (List.cons.inj (List.append_cancel_left same)).2⟩

theorem blank_ofInt (number : Int) : (32 : UInt8) ∉ ofInt number := by
  have digits : ∀ natural, (32 : UInt8) ∉ ofNat natural := by
    intro natural member
    exact absurd (isDigit_of_mem natural 32 member).1 (by decide)
  cases number with
  | ofNat natural => exact digits natural
  | negSucc natural =>
      intro member
      cases List.mem_cons.mp member with
      | inl minus => cases minus
      | inr digit => exact digits (natural + 1) digit

theorem ofInt_injective {first second : Int} (low : InInt first)
    (high : InInt second) (same : ofInt first = ofInt second) :
    first = second := by
  rw [← atoi_ofInt low.1 low.2, same, atoi_ofInt high.1 high.2]

theorem serhMessageSql_private {srid : Int} (myid : Int)
    (other : srid ≠ 0xFFFF) :
    serhMessageSql myid srid =
      ofText "select * from record where sendid=" ++ (ofInt myid ++ 32 ::
        (ofText "and recvid=" ++ (ofInt srid ++ 32 ::
          (ofText "or sendid=" ++ ofInt srid ++ ofText " and recvid=" ++
            ofInt myid ++ ofText " order by rid asc")))) := by
  have first : ofText " and recvid=" = 32 :: ofText "and recvid=" := rfl
  have second : ofText " or sendid=" = 32 :: ofText "or sendid=" := rfl
  rw [serhMessageSql, if_neg other, first, second]
  simp only [List.append_assoc, List.cons_append]

theorem serhMessageSql_inj {myid srid myid' srid' : Int}
    (mine : InInt myid) (theirs : InInt srid) (mine' : InInt myid')
    (theirs' : InInt srid') (other : srid ≠ 0xFFFF) :
    serhMessageSql myid srid = serhMessageSql myid' srid' ↔
      myid' = myid ∧ srid' = srid := by
  constructor
  · intro same
    have other' : srid' ≠ 0xFFFF := by
      rintro rfl
      rw [serhMessageSql_private myid other] at same
      have differs := congrArg (fun sqlstr => sqlstr[27]?) same
      cases differs
    rw [serhMessageSql_private myid other,
      serhMessageSql_private myid' other'] at same
    obtain ⟨first, rest⟩ := split_at_blank (blank_ofInt myid)
      (blank_ofInt myid') (List.append_cancel_left same)
    obtain ⟨second, _⟩ := split_at_blank (blank_ofInt srid)
      (blank_ofInt srid') (List.append_cancel_left rest)
    exact ⟨(ofInt_injective mine mine' first).symm,
      (ofInt_injective theirs theirs' second).symm⟩
  · rintro ⟨rfl, rfl⟩
    rfl

theorem selectsStored_eq {myid srid : Int} {stored : Stored}
    (mine : InInt myid) (theirs : InInt srid)
    (proper : stored.Proper ∧ InInt stored.recvid) :
    selectsStored (serhMessageSql myid srid) stored =
      stored.between myid srid := by
  have everybody (any : Int) :
      serhMessageSql any 0xFFFF = serhMessageSql 0 0xFFFF := rfl
  unfold selectsStored Stored.between
  by_cases all : srid = 0xFFFF
  · rw [all, everybody myid, if_pos rfl, if_pos rfl]
  · have single : serhMessageSql myid srid ≠ serhMessageSql 0 0xFFFF := by
      rw [Ne, serhMessageSql_inj mine theirs (by decide) (by decide) all]
      exact fun both => all both.2.symm
    have sender : InInt stored.sendid := proper.1.sendid
    rw [if_neg single, if_neg all]
    apply decide_eq_decide.mpr
    rw [serhMessageSql_inj mine theirs sender proper.2 all,
      serhMessageSql_inj mine theirs proper.2 sender all,
      @and_comm (stored.recvid = myid)]

theorem serhMessageSql_cString (myid srid : Int) :
    (serhMessageSql myid srid).cString = serhMessageSql myid srid := by
  apply Buffer.cString_of_clean
  intro member
  have numbers := Database.clean_ofInt
  have texts : (0 : UInt8) ∉ ofText "select * from record where sendid=" ∧
      (0 : UInt8) ∉ ofText " and recvid=" ∧
      (0 : UInt8) ∉ ofText " or sendid=" ∧
      (0 : UInt8) ∉ ofText " order by rid asc" ∧ (0 : UInt8) ∉ ofText
        "select * from record where recvid=0xFFFF order by rid asc" := by
    decide
  unfold serhMessageSql at member
  split at member
  · exact texts.2.2.2.2 member
  · simp [texts, numbers] at member

theorem query_insert (accounts : List Account) (rows : Rows)
    {sqlstr : Buffer} (insert : insertRecord <+: sqlstr) :
    (storedEnv accounts).query rows sqlstr = inserts rows sqlstr := by
  have here := List.isPrefixOf_iff_prefix.mpr insert
  simp only [storedEnv, here, if_true]

theorem query_select (accounts : List Account) (rows : Rows)
    (myid srid : Int) :
    (storedEnv accounts).query rows (serhMessageSql myid srid) =
      (.rows ((rows.val.filter (selectsStored (serhMessageSql myid
        srid))).map shownStored), rows) := by
  unfold serhMessageSql
  split <;> rfl

def storedTable (accounts : List Account) :
    RecordTable (storedEnv accounts) where
  rows := fun rows => rows.val
  proper := fun rows stored member => (rows.property stored member).1
  kept := by
    intro rows sqlstr other
    have front : ¬ insertRecord.isPrefixOf (Buffer.cString sqlstr) = true := by
      intro insert
      exact other ((List.isPrefixOf_iff_prefix.mp insert).trans
        (List.takeWhile_prefix _))
    simp only [mysqlQuery, storedEnv, if_neg front]
    split <;> rfl
  selected := by
    intro rows myid srid found mine theirs answered
    rw [← Database.serhMessageSql_eq, mysqlQuery, serhMessageSql_cString,
      query_select] at answered
    cases answered
    have same : rows.val.filter (selectsStored (serhMessageSql myid srid)) =
        rows.val.filter (Stored.between myid srid) :=
      List.filter_congr fun stored member =>
        selectsStored_eq mine theirs (rows.property stored member)
    rw [same, List.forall₂_map_left_iff]
    exact List.forall₂_same.mpr fun stored _ => ⟨rfl, rfl, rfl⟩

theorem storedTable_inserts (accounts : List Account) (charset : Charset) :
    (storedTable accounts).Inserts charset := by
  intro rows sendid recvid text sender receiver literal _
  obtain ⟨clean, inside⟩ := literal.free
  have same : (storedEnv accounts).storing rows sendid recvid text =
      saveMessageSql sendid recvid ((storedEnv accounts).time rows) text :=
    (Statement.sqlstr_eq text (.saveMessage sendid recvid
      ((storedEnv accounts).time rows))).symm
  have insert : insertRecord <+: saveMessageSql sendid recvid
      ((storedEnv accounts).time rows) text := ⟨_, rfl⟩
  have row := @storedOf_storing sendid recvid ((storedEnv accounts).time rows)
    text sender receiver (by simp only [storedEnv]; omega)
    (by simp only [storedEnv]; omega) clean inside
  rw [same, mysqlQuery, saveMessageSql_cString clean, query_insert _ _ insert]
  change rows.val ++ [storedOf _] = _
  rw [row]
  rfl

end Tables

end GroupChat.Server
