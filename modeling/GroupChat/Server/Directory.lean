import Mathlib.Algebra.GroupWithZero.Nat
import Mathlib.Data.List.Perm.Lattice
import GroupChat.Lib.Lowest
import GroupChat.Server.Sessions

namespace GroupChat.Server

/-! The registered users, and the two lists of them a login is answered with. -/

variable {ω : Type} {env : Env ω} {users : List Uid}

/-- The login table as it stays during a run: its ids, each once, are what the
list of all ids gives where it is answered, among them is every id that can be
logged in with, and its colours are numbers. -/
structure Directory (env : Env ω) (users : List Uid) : Prop where
  distinct : users.Nodup
  listed : ∀ world rows,
    (Database.mysqlQuery env world Database.allUidSql).1 = .rows rows →
      Database.uidsOf rows = .ok users
  granted : ∀ uid, Connections.Verified env uid → uid ∈ users
  colored : ∀ world uid row rows,
    (Database.mysqlQuery env world (Database.loginColorSql uid)).1 =
      .rows (row :: rows) → ∃ text, row.text 0 = .ok text

/-- The list of all ids is answered. -/
def Listed (env : Env ω) (world : ω) : Prop :=
  ∃ rows, (Database.mysqlQuery env world Database.allUidSql).1 = .rows rows

namespace Directory

theorem getAllUid_listed (directory : Directory env users) {world : ω}
    (answered : Listed env world) :
    Database.getAllUid env world = .ok (0, users,
      (Database.mysqlQuery env world Database.allUidSql).2) := by
  obtain ⟨rows, reply⟩ := answered
  have read := directory.listed world rows reply
  simp only [Database.getAllUid, reply, read, Exec.bind_ok]

theorem getAllUid_unlisted {world : ω} (silent : ¬ Listed env world) :
    ∃ ret, Database.getAllUid env world = .ok (ret, [],
      (Database.mysqlQuery env world Database.allUidSql).2) := by
  cases reply : (Database.mysqlQuery env world Database.allUidSql).1 with
  | failed =>
      refine ⟨-1, ?_⟩
      simp only [Database.getAllUid, reply]
  | done =>
      refine ⟨0, ?_⟩
      simp only [Database.getAllUid, reply]
  | rows rows => exact absurd ⟨rows, reply⟩ silent

theorem getLoginColor_completes (directory : Directory env users) (world : ω)
    (uid : Int) :
    ∃ color, Database.getLoginColor env world uid = .ok (color,
      (Database.mysqlQuery env world (Database.loginColorSql uid)).2) := by
  unfold Database.getLoginColor Database.numberOf
  dsimp only
  cases reply : (Database.mysqlQuery env world
    (Database.loginColorSql uid)).1 with
  | failed => exact ⟨-1, rfl⟩
  | done => exact ⟨-1, rfl⟩
  | rows rows =>
      cases rows with
      | nil => exact ⟨-1, rfl⟩
      | cons row rows =>
          obtain ⟨text, read⟩ := directory.colored world uid row rows reply
          refine ⟨Decimal.atoi text, ?_⟩
          simp only [read, Exec.bind_ok]

end Directory

/-! The two lists. -/

def rosterMsg (subType : UInt8) (uids : List Uid) : Message where
  header := ⟨0xA1, subType, Message.netLength (4 * uids.length)⟩
  data := uids.flatMap Buffer.ofWord

namespace Connections

variable {s : Connections ω} {fd : Fd} {myUid : Uid}

def bound (s : Connections ω) (uid : Uid) : Bool :=
  (s.uidToFd.lookup uid).isSome

def onlineOthers (s : Connections ω) (users : List Uid) (myUid : Uid) :
    List Uid :=
  users.filter fun uid => uid ≠ myUid ∧ s.bound uid = true

def offlineOthers (s : Connections ω) (users : List Uid) (myUid : Uid) :
    List Uid :=
  users.filter fun uid => uid ≠ myUid ∧ s.bound uid = false

theorem bound_congr {s s' : Connections ω} (same : s'.uidToFd = s.uidToFd) :
    s'.bound = s.bound := by
  funext uid
  rw [bound, same]
  rfl

theorem onlineOthers_congr {s s' : Connections ω}
    (same : s'.uidToFd = s.uidToFd) (users : List Uid) (myUid : Uid) :
    s'.onlineOthers users myUid = s.onlineOthers users myUid := by
  rw [onlineOthers, bound_congr same]
  rfl

theorem offlineOthers_congr {s s' : Connections ω}
    (same : s'.uidToFd = s.uidToFd) (users : List Uid) (myUid : Uid) :
    s'.offlineOthers users myUid = s.offlineOthers users myUid := by
  rw [offlineOthers, bound_congr same]
  rfl

theorem fillLists_filter {bound : Uid → Bool} {users : List Uid}
    {onlineRoom offlineRoom : Nat}
    (online : (users.filter fun uid =>
      uid ≠ myUid ∧ bound uid = true).length ≤ onlineRoom)
    (offline : (users.filter fun uid =>
      uid ≠ myUid ∧ bound uid = false).length ≤ offlineRoom) :
    fillLists bound myUid users onlineRoom offlineRoom =
      .ok (users.filter (fun uid => uid ≠ myUid ∧ bound uid = true),
        users.filter (fun uid => uid ≠ myUid ∧ bound uid = false)) := by
  induction users generalizing onlineRoom offlineRoom with
  | nil => rfl
  | cons uid users induction =>
      by_cases self : uid = myUid
      · simp only [self, ne_eq, not_true_eq_false, false_and, decide_false,
          Bool.false_eq_true, not_false_eq_true, List.filter_cons_of_neg]
          at online offline ⊢
        simpa only [fillLists, if_true] using induction online offline
      · cases here : bound uid with
        | true =>
            simp only [List.filter_cons, self, here, ne_eq, not_false_eq_true,
              true_and, decide_true, if_true, Bool.true_eq_false,
              decide_false, Bool.false_eq_true, if_false, List.length_cons]
              at online offline ⊢
            have room : 0 < onlineRoom := by omega
            simp only [fillLists, self, here, if_false, if_true,
              Exec.require_of room, Exec.bind_ok,
              induction (Nat.le_sub_one_of_lt online) offline]
        | false =>
            simp only [List.filter_cons, self, here, ne_eq, not_false_eq_true,
              true_and, decide_true, if_true, Bool.false_eq_true,
              decide_false, if_false, List.length_cons]
              at online offline ⊢
            have room : 0 < offlineRoom := by omega
            simp only [fillLists, self, here, if_false, Bool.false_eq_true,
              Exec.require_of room, Exec.bind_ok,
              induction online (Nat.le_sub_one_of_lt offline)]

/-- Each bound user is registered. -/
def Registered (s : Connections ω) (users : List Uid) : Prop :=
  ∀ uid, s.bound uid = true → uid ∈ users

theorem bound_iff {uid : Uid} :
    s.bound uid = true ↔ ∃ fd, s.uidToFd.lookup uid = some fd :=
  Option.isSome_iff_exists

theorem filter_bound_perm (distinct : users.Nodup)
    (registered : s.Registered users) :
    (users.filter fun uid => s.bound uid).Perm s.uidToFd.keys := by
  apply (List.perm_ext_iff_of_nodup (distinct.filter _)
    (AList.keys_nodup _)).mpr
  intro uid
  have key : uid ∈ s.uidToFd.keys ↔ s.bound uid = true :=
    AList.lookup_isSome.symm
  rw [List.mem_filter, key]
  exact ⟨fun both => both.2, fun here => ⟨registered uid here, here⟩⟩

theorem length_keys (s : Connections ω) :
    s.uidToFd.keys.length = s.uidToFd.entries.length := by
  simp [AList.keys, List.keys]

theorem length_bound (distinct : users.Nodup)
    (registered : s.Registered users) :
    (users.filter fun uid => s.bound uid).length =
      s.uidToFd.entries.length := by
  rw [(filter_bound_perm distinct registered).length_eq, length_keys]

theorem count_onlineOthers (users : List Uid) (here : s.bound myUid = true) :
    (s.onlineOthers users myUid).length + users.count myUid =
      users.countP s.bound := by
  induction users with
  | nil => rfl
  | cons user users induction =>
      rw [onlineOthers] at induction ⊢
      rw [List.filter_cons, List.count_cons, List.countP_cons]
      cases same : decide (user = myUid) with
      | true =>
          have same := of_decide_eq_true same
          simp [same, here] at induction ⊢
          omega
      | false =>
          have other := of_decide_eq_false same
          simp [other] at induction ⊢
          split
          · rw [List.length_cons]
            omega
          · omega

theorem count_offlineOthers (users : List Uid) (here : s.bound myUid = true) :
    (s.offlineOthers users myUid).length + users.countP s.bound =
      users.length := by
  have away : s.offlineOthers users myUid =
      users.filter fun user => ! s.bound user := by
    apply List.filter_congr
    intro user _
    cases online : s.bound user with
    | true => simp
    | false =>
        have different : user ≠ myUid := by
          intro same
          rw [same, here] at online
          contradiction
        simp [different]
  rw [away, List.countP_eq_length_filter, Nat.add_comm]
  exact List.length_eq_length_filter_add .. |>.symm

theorem length_onlineOthers (distinct : users.Nodup)
    (registered : s.Registered users) (here : s.bound myUid = true) :
    (s.onlineOthers users myUid).length + 1 = s.uidToFd.entries.length := by
  have counted := count_onlineOthers users here
  rw [List.count_eq_one_of_mem distinct (registered myUid here),
    List.countP_eq_length_filter] at counted
  exact counted.trans (length_bound distinct registered)

theorem length_offlineOthers (distinct : users.Nodup)
    (registered : s.Registered users) (here : s.bound myUid = true) :
    (s.offlineOthers users myUid).length + s.uidToFd.entries.length =
      users.length := by
  have counted := count_offlineOthers users here
  rw [List.countP_eq_length_filter] at counted
  rw [← length_bound distinct registered]
  exact counted

/-! Sizes as the server computes them. -/

theorem sizeSub_of_le {minuend subtrahend : Nat}
    (below : subtrahend ≤ minuend) (small : minuend < 18446744073709551616) :
    sizeSub minuend subtrahend = minuend - subtrahend := by
  unfold sizeSub
  omega

theorem idBytes_small {len : Nat} (small : len ≤ 2 ^ 32) :
    idBytes len = .ok (4 * len) := by
  have whole : 4 * len % 18446744073709551616 = 4 * len := by omega
  have room : 4 * len ≤ 9223372036854775807 := by omega
  simp only [idBytes, whole, Exec.require_of room, Exec.bind_ok]

theorem idBytes_negative {len : Nat} (some : 0 < len)
    (small : len ≤ 2 ^ 32) :
    idBytes (sizeSub 0 len) = .error .exception := by
  have large : ¬ 4 * sizeSub 0 len % 18446744073709551616 ≤
      9223372036854775807 := by
    unfold sizeSub
    omega
  simp only [idBytes, Exec.require_of_not large, Exec.bind_error]

theorem length_flatMap_ofWord (uids : List Uid) :
    (uids.flatMap Buffer.ofWord).length = 4 * uids.length := by
  induction uids with
  | nil => rfl
  | cons uid uids induction =>
      rw [List.flatMap_cons, List.length_append, induction,
        Buffer.length_ofWord, List.length_cons]
      omega

theorem listMsg_full {subType : UInt8} {uids : List Uid} {len : Nat}
    (full : uids.length = len) :
    listMsg subType len (4 * len) uids = rosterMsg subType uids := by
  subst full
  have size := length_flatMap_ofWord uids
  have data : Buffer.overwrite (List.replicate (4 * uids.length) 0) 0
      (uids.flatMap Buffer.ofWord) = uids.flatMap Buffer.ofWord := by
    simp [Buffer.overwrite, size]
  rw [listMsg, data]
  rfl

theorem length_users (distinct : users.Nodup) :
    users.length ≤ 2 ^ 32 := by
  have numbers : (users.map UInt32.toNat).Nodup :=
    distinct.map fun _ _ same => UInt32.toNat.inj same
  have below : ∀ number ∈ users.map UInt32.toNat, number < 2 ^ 32 := by
    intro number member
    obtain ⟨uid, _, rfl⟩ := List.mem_map.mp member
    exact uid.toNat_lt
  have fewer := length_le_of_below numbers below
  rw [List.length_map] at fewer
  exact fewer

theorem length_entries (s : Connections ω) :
    s.uidToFd.entries.length ≤ 2 ^ 32 := by
  have fewer := length_users (AList.keys_nodup s.uidToFd)
  rw [length_keys] at fewer
  exact fewer

/-- The list of users as a bound user gets it. -/
theorem pushUserlist_listed (directory : Directory env users)
    (registered : s.Registered users) (answered : Listed env s.db)
    (forward : s.fdToUid.lookup fd = some myUid)
    (here : s.bound myUid = true) :
    s.pushUserlist env fd = .ok ({ s with
        db := (Database.mysqlQuery env s.db Database.allUidSql).2 }.pushes
      [(fd, rosterMsg 0x00 (s.onlineOthers users myUid)),
        (fd, rosterMsg 0x01 (s.offlineOthers users myUid))]) := by
  have online := length_onlineOthers directory.distinct registered here
  have offline := length_offlineOthers directory.distinct registered here
  have many := length_users directory.distinct
  have onlineSize : sizeSub s.uidToFd.entries.length 1 =
      (s.onlineOthers users myUid).length := by
    rw [sizeSub_of_le (by omega) (by omega)]
    omega
  have offlineSize : sizeSub users.length s.uidToFd.entries.length =
      (s.offlineOthers users myUid).length := by
    rw [sizeSub_of_le (by omega) (by omega)]
    omega
  have onlineRoom : idBytes (s.onlineOthers users myUid).length =
      .ok (4 * (s.onlineOthers users myUid).length) :=
    idBytes_small (by omega)
  have offlineRoom : idBytes (s.offlineOthers users myUid).length =
      .ok (4 * (s.offlineOthers users myUid).length) :=
    idBytes_small (by omega)
  have filled : fillLists (fun uid => (s.uidToFd.lookup uid).isSome) myUid
      users (s.onlineOthers users myUid).length
        (s.offlineOthers users myUid).length =
      .ok (s.onlineOthers users myUid, s.offlineOthers users myUid) :=
    fillLists_filter (Nat.le_refl _) (Nat.le_refl _)
  unfold pushUserlist
  rw [directory.getAllUid_listed answered]
  simp only [Exec.bind_ok]
  rw [onlineSize, offlineSize, forward]
  simp only [Exec.demand_some, Exec.bind_ok]
  rw [onlineRoom, offlineRoom]
  simp only [Exec.bind_ok]
  rw [Nat.mul_div_cancel_left _ (Nat.zero_lt_succ 3),
    Nat.mul_div_cancel_left _ (Nat.zero_lt_succ 3), filled]
  simp only [Exec.bind_ok]
  rw [listMsg_full rfl, listMsg_full rfl]
  rfl

theorem pushUserlist_unlisted (silent : ¬ Listed env s.db)
    (here : s.bound myUid = true) :
    ∀ s', s.pushUserlist env fd ≠ .ok s' := by
  intro s' pushed
  obtain ⟨_, userList, _, _, _, offlineBytes, _, _, listed, _, _, offline,
    _⟩ := pushUserlist_eq pushed
  obtain ⟨ret, none⟩ := Directory.getAllUid_unlisted silent
  rw [none] at listed
  cases listed
  obtain ⟨owner, found⟩ := bound_iff.mp here
  have entry : (⟨myUid, owner⟩ : Sigma fun _ : Uid => Fd) ∈
      s.uidToFd.entries := FinMap.mem_entries.mpr found
  have some := List.length_pos_of_mem entry
  rw [List.length_nil, idBytes_negative some (length_entries s)] at offline
  cases offline

end Connections

theorem Directory.registered (directory : Directory env users) {s : State ω}
    (reached : (machine env).Reachable s) : s.conns.Registered users := by
  intro uid bound
  obtain ⟨owner, found⟩ := Connections.bound_iff.mp bound
  have inverse := (sessions_invariant.holds reached).inverse
  exact directory.granted uid
    (bound_verified reached ((inverse owner uid).mpr found))

/-! The accounts of a database that keeps them. -/

namespace Tables

open Decimal Database

variable {accounts : List Account}

theorem uidsOf_accounts (accounts : List Account) :
    uidsOf (accounts.map fun account => [some (ofNat account.uid.toNat)]) =
      .ok (accounts.map Account.uid) := by
  induction accounts with
  | nil => rfl
  | cons account accounts induction =>
      have read : Row.text [some (ofNat account.uid.toNat)] 0 =
          .ok (ofNat account.uid.toNat).cString := rfl
      simp only [List.map_cons, uidsOf, read, Exec.bind_ok, induction,
        cString_ofNat, ofInt_atoi_ofNat]

theorem loginUid_account {records : List Record}
    {username secuPasswd : Buffer} {legal first : Bool} {uid : Uid}
    {checked : LoginCheck (List Record)}
    (found : loginUid (keptEnv accounts) records username secuPasswd legal
      first uid = .ok checked) : checked.uid ∈ accounts.map Account.uid := by
  have reply : (mysqlQuery (keptEnv accounts) records
      (loginUidSql username secuPasswd)).1 = _ :=
    answer_loginUid ⟨accounts, records⟩ username secuPasswd
  simp only [loginUid, reply] at found
  obtain ⟨row, front, rest⟩ := Exec.of_bind_ok found
  rw [Exec.demand_eq_ok, List.head?_eq_some_iff] at front
  obtain ⟨others, rows⟩ := front
  have member := rows ▸ List.mem_cons_self
  obtain ⟨account, kept, same⟩ := List.mem_map.mp member
  subst same
  obtain ⟨uidText, read, rest⟩ := Exec.of_bind_ok rest
  obtain ⟨_, _, rest⟩ := Exec.of_bind_ok rest
  cases read
  cases rest
  rw [cString_ofNat, ofInt_atoi_ofNat]
  exact List.mem_map_of_mem (List.mem_of_mem_filter kept)

theorem verified_account {uid : Uid}
    (verified : Connections.Verified (keptEnv accounts) uid) :
    uid ∈ accounts.map Account.uid := by
  obtain ⟨records, username, passwd, checked, login, legal, _, rfl⟩ := verified
  have reply : (mysqlQuery (keptEnv accounts) records
      (loginCountSql username (MD5.hexdigest passwd))).1 = _ :=
    answer_loginCount ⟨accounts, records⟩ username (MD5.hexdigest passwd)
  simp only [loginCheck, reply] at login
  obtain ⟨count, _, rest⟩ := Exec.of_bind_ok login
  split at rest
  · exact loginUid_account rest
  · cases rest
    contradiction

theorem keptEnv_directory (distinct : (accounts.map Account.uid).Nodup) :
    Directory (keptEnv accounts) (accounts.map Account.uid) where
  distinct := distinct
  listed := by
    intro records rows reply
    have answered : (mysqlQuery (keptEnv accounts) records allUidSql).1 = _ :=
      answer_allUid ⟨accounts, records⟩
    rw [answered] at reply
    cases reply
    exact uidsOf_accounts accounts
  granted := fun uid verified => verified_account verified
  colored := by
    intro records uid row rows reply
    have answered : (mysqlQuery (keptEnv accounts) records
        (loginColorSql uid)).1 = _ := answer_loginColor ⟨accounts, records⟩ uid
    rw [answered] at reply
    cases reply
    exact ⟨_, rfl⟩

theorem keptEnv_listed (records : List Record) :
    Listed (keptEnv accounts) records :=
  ⟨_, answer_allUid ⟨accounts, records⟩⟩

end Tables

end GroupChat.Server
