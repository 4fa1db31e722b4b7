import GroupChat.Lib.Path
import GroupChat.Server.FileTable
import GroupChat.Server.Passwords

namespace GroupChat.Server

/-! What the server is for: the users who are logged in write to each other,
change their passwords and offer each other files.  There are no frames, no
queues and no statements here. -/

open Machine (Path)

@[ext] structure Service where
  online : Uid → Option Fd
  records : List Stored
  accounts : List Account
  files : List FileRow

/-- What a user does. -/
inductive Deed where
  | login (uid : Uid) (fd : Fd)
  | leave (uid : Uid)
  | write (uid dstUid : Uid) (time : Int) (message : Buffer)
  | change (uid : Uid) (secuPasswd : Buffer)
  | offer (uid dstUid : Uid) (tid : Int) (allsiz : UInt32) (filename : Buffer)
  | answer (uid srcUid : Uid) (accepted : Bool)
  | count (uid srcUid : Uid) (siz : UInt32)

namespace Deed

def actor : Deed → Uid
  | .login uid _ => uid
  | .leave uid => uid
  | .write uid _ _ _ => uid
  | .change uid _ => uid
  | .offer uid _ _ _ _ => uid
  | .answer uid _ _ => uid
  | .count uid _ _ => uid

def partner : Deed → Option Uid
  | .offer _ dstUid _ _ _ => some dstUid
  | .answer _ srcUid _ => some srcUid
  | .count _ srcUid _ => some srcUid
  | .login _ _ | .leave _ | .write _ _ _ _ | .change _ _ => none

/-- The row that a text is stored as. -/
def row : Deed → Option Stored
  | .write uid dstUid time message =>
      some ⟨toSigned uid, toSigned dstUid, time, message⟩
  | .login _ _ | .leave _ | .change _ _ | .offer _ _ _ _ _ | .answer _ _ _
  | .count _ _ _ => none

end Deed

namespace Service

/-- A login gives up the session the user has elsewhere. -/
def next (a : Service) : Deed → Service
  | .login uid fd => { a with online := Function.update a.online uid (some fd) }
  | .leave uid => { a with online := Function.update a.online uid none }
  | .write uid dstUid time message =>
      { a with
        records := a.records ++
          [⟨toSigned uid, toSigned dstUid, time, message⟩] }
  | .change uid secuPasswd =>
      { a with accounts := LoginTable.written a.accounts uid secuPasswd }
  | .offer uid dstUid tid allsiz filename =>
      { a with
        files := a.files ++ [⟨tid, toSigned uid, toSigned dstUid,
          toSigned allsiz, filename, 0, 0⟩] }
  | .answer uid srcUid true =>
      { a with
        files := a.files.map
          (FileRow.permit (toSigned srcUid) (toSigned uid)) }
  | .answer uid srcUid false =>
      { a with
        files := a.files.filter fun row =>
          !row.waits (toSigned srcUid) (toSigned uid) }
  | .count uid srcUid siz =>
      { a with
        files := a.files.map
          (FileRow.update (toSigned srcUid) (toSigned uid) (toSigned siz)) }

/-- Only a login needs no session, and it needs a connection of its own. -/
def Possible (a : Service) (deed : Deed) : Prop :=
  match deed with
  | .login uid fd => ∀ other, a.online other = some fd → other = uid
  | _ => (a.online deed.actor).isSome = true ∧
      ∀ partner ∈ deed.partner, (a.online partner).isSome = true

end Service

/-- The users doing one thing after the other. -/
def service : Machine Service Deed where
  initial := fun a => ∀ uid, a.online uid = none
  enabled := Service.Possible
  next := fun a deed => .ok (a.next deed)

theorem Service.next_records (a : Service) (deed : Deed) :
    (a.next deed).records = a.records ++ deed.row.toList := by
  cases deed with
  | write => rfl
  | answer uid srcUid accepted =>
      cases accepted with
      | true => exact (List.append_nil a.records).symm
      | false => exact (List.append_nil a.records).symm
  | login | leave | change | offer | count =>
      exact (List.append_nil a.records).symm

theorem Service.records_after {a a' : Service} {deeds : List Deed}
    (path : Machine.Path service a deeds a') :
    a'.records = a.records ++ deeds.filterMap Deed.row := by
  induction path with
  | nil a => exact (List.append_nil a.records).symm
  | @cons before middle after deed deeds possible moved rest induction =>
      cases moved
      rw [induction, Service.next_records, List.append_assoc]
      cases row : deed.row with
      | none => rw [List.filterMap_cons_none row]; rfl
      | some stored => rw [List.filterMap_cons_some row]; rfl

/-- What a transfer was offered as. -/
def FileRow.terms (row : FileRow) : Int × Int × Int × Int × Buffer :=
  (row.tid, row.sendid, row.recvid, row.allsiz, row.filename)

theorem FileRow.permit_terms (sendid recvid : Int) (row : FileRow) :
    (row.permit sendid recvid).terms = row.terms := by
  unfold permit
  split <;> rfl

theorem FileRow.update_terms (sendid recvid siz : Int) (row : FileRow) :
    (row.update sendid recvid siz).terms = row.terms := by
  unfold update
  split <;> rfl

theorem filter_map_of_fixed {α : Type} {p : α → Bool} {f : α → α}
    (found : ∀ row, p (f row) = p row) (fixed : ∀ row, p row = true →
      f row = row) (rows : List α) : (rows.map f).filter p = rows.filter p := by
  induction rows with
  | nil => rfl
  | cons row rows induction =>
      rw [List.map_cons, List.filter_cons, List.filter_cons, found, induction]
      split
      next here => rw [fixed row here]
      next => rfl

/-- Nothing was done in the user's name: the account is as it was, no message
was written, no file was offered, and the transfers to the user are as they
were, up to new offers behind them. -/
structure Untouched (uid : Uid) (a a' : Service) : Prop where
  accounts : a'.accounts.filter (fun account => account.uid = uid) =
    a.accounts.filter fun account => account.uid = uid
  records : a'.records.filter (fun stored => stored.sendid = toSigned uid) =
    a.records.filter fun stored => stored.sendid = toSigned uid
  offered : ((a'.files.filter fun row => row.sendid = toSigned uid).map
      FileRow.terms).Sublist
    ((a.files.filter fun row => row.sendid = toSigned uid).map FileRow.terms)
  received : a.files.filter (fun row => row.recvid = toSigned uid) <+:
    a'.files.filter fun row => row.recvid = toSigned uid

namespace Untouched

variable {a a' a'' : Service} {uid : Uid}

theorem refl (uid : Uid) (a : Service) : Untouched uid a a :=
  ⟨rfl, rfl, .refl _, List.prefix_rfl⟩

theorem trans (first : Untouched uid a a') (second : Untouched uid a' a'') :
    Untouched uid a a'' where
  accounts := second.accounts.trans first.accounts
  records := second.records.trans first.records
  offered := second.offered.trans first.offered
  received := first.received.trans second.received

theorem of_tables (accounts : a'.accounts = a.accounts)
    (records : a'.records = a.records) (files : a'.files = a.files) :
    Untouched uid a a' := by
  constructor
  · rw [accounts]
  · rw [records]
  · rw [files]
  · exact files ▸ List.prefix_rfl

theorem of_files (accounts : a'.accounts = a.accounts)
    (records : a'.records = a.records)
    (offered : ((a'.files.filter fun row => row.sendid = toSigned uid).map
        FileRow.terms).Sublist ((a.files.filter fun row =>
          row.sendid = toSigned uid).map FileRow.terms))
    (received : a.files.filter (fun row => row.recvid = toSigned uid) <+:
      a'.files.filter fun row => row.recvid = toSigned uid) :
    Untouched uid a a' := by
  constructor
  · rw [accounts]
  · rw [records]
  · exact offered
  · exact received

theorem of_map {f : FileRow → FileRow} (accounts : a'.accounts = a.accounts)
    (records : a'.records = a.records) (files : a'.files = a.files.map f)
    (terms : ∀ row, (f row).terms = row.terms)
    (fixed : ∀ row, row.recvid = toSigned uid → f row = row) :
    Untouched uid a a' := by
  have sendid (row : FileRow) : (f row).sendid = row.sendid :=
    congrArg (fun terms => terms.2.1) (terms row)
  have recvid (row : FileRow) : (f row).recvid = row.recvid :=
    congrArg (fun terms => terms.2.2.1) (terms row)
  refine of_files accounts records ?_ ?_
  · have same : (a.files.map f).filter (fun row =>
        decide (row.sendid = toSigned uid)) =
          (a.files.filter fun row => row.sendid = toSigned uid).map f := by
      rw [List.filter_map]
      exact congrArg (List.map f) (List.filter_congr fun row _ => by
        simp only [Function.comp_apply, sendid])
    have kept : FileRow.terms ∘ f = FileRow.terms := funext terms
    rw [files, same, List.map_map, kept]
  · have same := @filter_map_of_fixed FileRow
      (fun row => decide (row.recvid = toSigned uid)) f
      (fun row => by simp only [recvid])
      (fun row here => fixed row (of_decide_eq_true here)) a.files
    rw [← files] at same
    exact same.symm ▸ List.prefix_rfl

theorem of_deed {deed : Deed} (other : deed.actor ≠ uid) (a : Service) :
    Untouched uid a (a.next deed) := by
  cases deed with
  | login user fd => exact of_tables rfl rfl rfl
  | leave user => exact of_tables rfl rfl rfl
  | write user dstUid time message =>
      have foreign : toSigned user ≠ toSigned uid := fun same =>
        other (toSigned_injective same)
      refine ⟨rfl, ?_, .refl _, List.prefix_rfl⟩
      simp [Service.next, foreign]
  | change user secuPasswd =>
      have theirs : ∀ rows : List Account,
          (rows.filter fun account => account.uid ≠ user).filter
              (fun account => account.uid = uid) =
            rows.filter fun account => account.uid = uid := by
        intro rows
        rw [List.filter_filter]
        refine List.filter_congr fun account _ => ?_
        cases own : decide (account.uid = uid) with
        | true =>
            have distinct : account.uid ≠ user := by
              rw [of_decide_eq_true own]
              exact Ne.symm other
            simp [distinct]
        | false => rfl
      refine ⟨?_, rfl, .refl _, List.prefix_rfl⟩
      have same := LoginTable.others_written a.accounts user secuPasswd
      exact (theirs _).symm.trans ((congrArg _ same).trans (theirs _))
  | offer user dstUid tid allsiz filename =>
      have foreign : toSigned user ≠ toSigned uid := fun same =>
        other (toSigned_injective same)
      refine of_files rfl rfl ?_ ?_
      · simp [Service.next, foreign]
      · simp only [Service.next, List.filter_append]
        exact List.prefix_append _ _
  | answer user srcUid accepted =>
      have foreign : toSigned user ≠ toSigned uid := fun same =>
        other (toSigned_injective same)
      have away (row : FileRow) (here : row.recvid = toSigned uid) :
          row.waits (toSigned srcUid) (toSigned user) = false := by
        apply Bool.eq_false_iff.mpr
        intro waits
        obtain ⟨_, recvid, _⟩ := FileRow.isAt_iff.mp waits
        exact foreign (recvid.symm.trans here)
      cases accepted with
      | true =>
          exact of_map rfl rfl rfl (FileRow.permit_terms _ _)
            (fun row here => FileRow.permit_eq_self.mpr (away row here))
      | false =>
          refine of_files rfl rfl ?_ ?_
          · exact (List.filter_sublist.filter _).map _
          · have same : (a.files.filter fun row =>
                !row.waits (toSigned srcUid) (toSigned user)).filter
                  (fun row => row.recvid = toSigned uid) =
                a.files.filter fun row => row.recvid = toSigned uid := by
              rw [List.filter_filter]
              refine List.filter_congr fun row _ => ?_
              cases own : decide (row.recvid = toSigned uid) with
              | true => simp [away row (of_decide_eq_true own)]
              | false => rfl
            exact same.symm ▸ List.prefix_rfl
  | count user srcUid siz =>
      have foreign : toSigned user ≠ toSigned uid := fun same =>
        other (toSigned_injective same)
      refine of_map rfl rfl rfl (FileRow.update_terms _ _ _) ?_
      intro row here
      apply FileRow.update_eq_self.mpr
      intro goes
      obtain ⟨_, recvid, _⟩ := FileRow.isAt_iff.mp goes
      exact absurd (recvid.symm.trans here) foreign

/-- What somebody else does, and logins of the user, touch nothing. -/
theorem of_path {deeds : List Deed} (path : Path service a deeds a')
    (others : ∀ deed ∈ deeds, deed.actor = uid →
      ∃ fd, deed = .login uid fd) : Untouched uid a a' := by
  induction path with
  | nil a => exact refl uid a
  | @cons before middle after deed deeds possible moved rest induction =>
      cases moved
      have here : Untouched uid before (before.next deed) := by
        cases own : decide (deed.actor = uid) with
        | true =>
            obtain ⟨fd, rfl⟩ := others deed List.mem_cons_self
              (of_decide_eq_true own)
            exact of_tables rfl rfl rfl
        | false => exact of_deed (of_decide_eq_false own) before
      exact here.trans (induction fun other member =>
        others other (List.mem_cons_of_mem deed member))

end Untouched

end GroupChat.Server
