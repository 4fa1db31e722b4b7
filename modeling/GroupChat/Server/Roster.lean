import GroupChat.Server.Login

namespace GroupChat.Server

/-! The sizes of the two lists of users, and what is written into them. -/

variable {ω : Type} {env : Env ω}

namespace Connections

variable {s w : Connections ω} {fd : Fd} {uid : Uid} {users : List Uid}

/-- A login that has come to the point where `push_userlist` is called, in the
last of the states. -/
inductive Greets (env : Env ω) (s : Connections ω) (fd : Fd) :
    Uid → Connections ω → Prop
  | intro {checked : Database.LoginCheck ω} {primaryColor : Int} {db : ω}
      {subType : UInt8} {taken : Connections ω}
      (login : s.LoginFrame fd)
      (credentials : Database.loginCheck env s.db
        (fixedField (s.frame fd).data 0 28)
        (fixedField (s.frame fd).data 28 28) false true 0 = .ok checked)
      (answered : 0 ≤ checked.ret)
      (legal : checked.legal = true)
      (colored : Database.getLoginColor env checked.world
        (toSigned checked.uid) = .ok (primaryColor, db))
      (took : takeover ({ s with db := db }.noteLogin fd true checked.uid)
        checked.uid checked.first = .ok (subType, taken))
      (free : taken.fdToUid.lookup fd = none)
      (fresh : ∀ entry ∈ taken.fdToUid.entries, entry.2 ≠ checked.uid) :
      Greets env s fd checked.uid
        (taken.welcomed fd checked.uid subType primaryColor)

theorem Greets.bound (greets : s.Greets env fd uid w) :
    w.fdToUid.lookup fd = some uid ∧ w.bound uid = true := by
  cases greets with
  | intro =>
      constructor
      · rw [welcomed_fdToUid, FinMap.lookup_insert_eq, if_pos rfl]
      · rw [Connections.bound, welcomed_uidToFd, FinMap.lookup_insert_eq,
          if_pos rfl]
        rfl

theorem Greets.of_asks {asked : ω} {first : Bool} {primaryColor : Int}
    (login : s.LoginFrame fd) (asks : s.Asks env fd (.right uid first) asked)
    (colored : Database.getLoginColor env asked (toSigned uid) =
      .ok (primaryColor, colorAsked env asked uid))
    (inverse : FinMap.Inverse s.fdToUid s.uidToFd)
    (fit : s.Fits fd uid first) : ∃ w, s.Greets env fd uid w := by
  obtain ⟨subType, taken, took, taking⟩ := @takeover_takesOver ω
    ({ s with db := colorAsked env asked uid }.noteLogin fd true uid) inverse
      uid first
  obtain ⟨free, vacant⟩ := (taking.fits inverse).mpr fit
  have fresh := ((taking.inverse inverse).fresh_iff uid).mpr vacant
  exact ⟨_, .intro login (loginCheck_right asks) (Int.le_refl 0) rfl colored
    took free fresh⟩

theorem Greets.registered (greets : s.Greets env fd uid w)
    (directory : Directory env users)
    (inverse : FinMap.Inverse s.fdToUid s.uidToFd)
    (registered : s.Registered users) : w.Registered users := by
  cases greets with
  | @intro checked primaryColor db subType taken login credentials answered
      legal colored took free fresh =>
      have known : checked.uid ∈ users := directory.granted checked.uid
        ⟨_, _, _, _, credentials, legal, answered, rfl⟩
      obtain ⟨subType', taken', took', taking⟩ := @takeover_takesOver ω
        ({ s with db := db }.noteLogin fd true checked.uid) inverse
          checked.uid checked.first
      rw [took] at took'
      cases took'
      intro user bound
      rw [welcomed_bound, Bool.or_eq_true, decide_eq_true_eq] at bound
      rcases bound with rfl | kept
      · exact known
      · exact taking.registered registered user kept

/-- The list of users is filled exactly: neither size is below zero, and the
loop writes as many ids into each of the two buffers as were counted for it. -/
def FillsLists (env : Env ω) (w : Connections ω) (fd : Fd) : Prop :=
  ∃ ret users db uid onlineBytes offlineBytes online offline,
    Database.getAllUid env w.db = .ok (ret, users, db) ∧
    w.fdToUid.lookup fd = some uid ∧
    1 ≤ w.uidToFd.entries.length ∧
    w.uidToFd.entries.length ≤ users.length ∧
    idBytes (sizeSub w.uidToFd.entries.length 1) = .ok onlineBytes ∧
    idBytes (sizeSub users.length w.uidToFd.entries.length) =
      .ok offlineBytes ∧
    fillLists w.bound uid users (onlineBytes / 4) (offlineBytes / 4) =
      .ok (online, offline) ∧
    online.length = sizeSub w.uidToFd.entries.length 1 ∧
    offline.length = sizeSub users.length w.uidToFd.entries.length

/-- Where the loop ends it has sorted the users into the two lists. -/
theorem fillLists_ok {bound : Uid → Bool} {online offline : List Uid}
    {onlineRoom offlineRoom : Nat}
    (filled : fillLists bound uid users onlineRoom offlineRoom =
      .ok (online, offline)) :
    online = users.filter (fun user => user ≠ uid ∧ bound user = true) ∧
      offline = users.filter (fun user => user ≠ uid ∧ bound user = false) := by
  induction users generalizing online offline onlineRoom offlineRoom with
  | nil =>
      cases filled
      exact ⟨rfl, rfl⟩
  | cons user users induction =>
      simp only [fillLists] at filled
      split at filled
      · rename_i self
        obtain ⟨rfl, rfl⟩ := induction filled
        simp [self]
      · rename_i other
        split at filled
        · rename_i here
          obtain ⟨_, _, rest⟩ := Exec.of_bind_ok filled
          obtain ⟨⟨more, away⟩, sorted, rest⟩ := Exec.of_bind_ok rest
          obtain ⟨rfl, rfl⟩ := induction sorted
          cases rest
          simp [other, here]
        · rename_i here
          obtain ⟨_, _, rest⟩ := Exec.of_bind_ok filled
          obtain ⟨⟨more, away⟩, sorted, rest⟩ := Exec.of_bind_ok rest
          obtain ⟨rfl, rfl⟩ := induction sorted
          cases rest
          simp [other, here]

/-- A list with each user once, the bound ones among them, has the entries
that the sizes stand for. -/
theorem Registered.counts (registered : w.Registered users)
    (distinct : users.Nodup) (here : w.bound uid = true) :
    users.countP w.bound = w.uidToFd.entries.length ∧ users.count uid = 1 := by
  constructor
  · rw [List.countP_eq_length_filter]
    exact length_bound distinct registered
  · exact List.count_eq_one_of_mem distinct (registered uid here)

theorem idBytes_limit {len : Nat} (limit : len ≤ 2305843009213693951) :
    idBytes len = .ok (4 * len) := by
  have whole : 4 * len % 18446744073709551616 = 4 * len := by omega
  have room : 4 * len ≤ 9223372036854775807 := by omega
  simp only [idBytes, whole, Exec.require_of room, Exec.bind_ok]

end Connections

open Connections

/-- The two lists are filled exactly if and only if `get_all_uid` has found as
many entries of bound users as there are bound users, one of them the user's
own. -/
theorem userlist_filled_iff (env : Env ω) (s : Connections ω) (fd : Fd)
    (uid : Uid) (w : Connections ω) (greets : s.Greets env fd uid w)
    (ret : Int) (users : List Uid) (db : ω)
    (listed : Database.getAllUid env w.db = .ok (ret, users, db))
    (limit : users.length ≤ 2305843009213693951) :
    w.FillsLists env fd ↔
      users.countP w.bound = w.uidToFd.entries.length ∧
        users.count uid = 1 := by
  obtain ⟨mine, here⟩ := greets.bound
  have online := count_onlineOthers users here
  have offline := count_offlineOthers users here
  have many := length_entries w
  constructor
  · rintro ⟨_, _, _, _, onlineBytes, offlineBytes, onlineUids, offlineUids,
      answered, bound, some, fewer, _, _, filled, onlineSize, offlineSize⟩
    rw [listed] at answered
    cases answered
    rw [mine] at bound
    cases bound
    obtain ⟨onlineEq, offlineEq⟩ := fillLists_ok filled
    rw [onlineEq, sizeSub_of_le some (by omega)] at onlineSize
    rw [offlineEq, sizeSub_of_le fewer (by omega)] at offlineSize
    have onlineCount : (w.onlineOthers users uid).length =
        w.uidToFd.entries.length - 1 := onlineSize
    have offlineCount : (w.offlineOthers users uid).length =
        users.length - w.uidToFd.entries.length := offlineSize
    omega
  · rintro ⟨bound, own⟩
    have some : 1 ≤ w.uidToFd.entries.length := by omega
    have fewer : w.uidToFd.entries.length ≤ users.length := by omega
    have onlineSize : sizeSub w.uidToFd.entries.length 1 =
        (w.onlineOthers users uid).length := by
      rw [sizeSub_of_le some (by omega)]
      omega
    have offlineSize : sizeSub users.length w.uidToFd.entries.length =
        (w.offlineOthers users uid).length := by
      rw [sizeSub_of_le fewer (by omega)]
      omega
    refine ⟨ret, users, db, uid, _, _, w.onlineOthers users uid,
      w.offlineOthers users uid, listed, mine, some, fewer,
      idBytes_limit (by omega), idBytes_limit (by omega), ?_, ?_, ?_⟩
    · rw [Nat.mul_div_cancel_left _ (Nat.zero_lt_succ 3),
        Nat.mul_div_cancel_left _ (Nat.zero_lt_succ 3)]
      apply fillLists_filter
      · exact Nat.le_of_eq onlineSize.symm
      · exact Nat.le_of_eq offlineSize.symm
    · exact onlineSize.symm
    · exact offlineSize.symm

namespace Tables

/-- A server whose accounts stay as they are and whose query for all ids
fails. -/
def unlistedEnv (accounts : List Account) : Env (List Record) where
  query := fun records sqlstr =>
    if (Buffer.ofText "select uid from").isPrefixOf sqlstr then
      (.failed, records)
    else
      (keptEnv accounts).query records sqlstr
  time := (keptEnv accounts).time
  stray := (keptEnv accounts).stray

theorem unlistedEnv_judged {accounts : List Account} {records after : List Record}
    {username passwd : Buffer} {verdict : Verdict}
    (judged : Judged (keptEnv accounts) records username passwd verdict
      after) :
    Judged (unlistedEnv accounts) records username passwd verdict after := by
  cases judged with
  | right counted one found => exact .right counted one found
  | wrong counted other => exact .wrong counted other

end Tables

theorem first_asks (records : List Record) :
    Judged (Tables.keptEnv threeAccounts) records
      (Connections.fixedField (loginFrame "a").data 0 28)
      (Connections.fixedField (loginFrame "a").data 28 28) (.right 1 false)
      records :=
  keptEnv_judged (by decide +kernel) (by decide +kernel) records

theorem loginFrame_login {s : Connections ω} {fd : Fd}
    {net : List ReadResult} (handed : s.Handed fd net (loginFrame "a")) :
    (s.setConn fd ((s.conns fd).receive net).2).LoginFrame fd := by
  have same := frame_handed handed
  constructor <;> rw [same] <;> rfl

theorem userlist_filled_second : ∃ (s : State (List Record))
    (w : Connections (List Record)),
    (machine (Tables.keptEnv threeAccounts)).Reachable s ∧
    (s.conns.setConn 4 ((s.conns.conns 4).receive
      (whole (loginFrame "a"))).2).Greets (Tables.keptEnv threeAccounts) 4 1 w ∧
    s.conns.bound 2 = true ∧
    w.FillsLists (Tables.keptEnv threeAccounts) 4 := by
  have replayed : ((machine (Tables.keptEnv threeAccounts)).replay
      (.init [] 1024) (arrives 5 [loginFrame "b"] ++ [.accept 4])).any
        (fun s => handsOver s 4 (loginFrame "a") ∧ s.conns.bound 2 = true ∧
          s.conns.fdToUid.lookup 4 = none) = true := by
    decide +kernel
  obtain ⟨s, reached, holds⟩ :=
    Machine.Reachable.of_replay replayed (keptEnv_initial threeAccounts)
  obtain ⟨taking, bound, free⟩ := of_decide_eq_true holds
  obtain ⟨_, handed⟩ := of_decide_eq_true taking
  have asks : (s.conns.setConn 4
      ((s.conns.conns 4).receive (whole (loginFrame "a"))).2).Asks
        (Tables.keptEnv threeAccounts) 4 (.right 1 false) s.conns.db := by
    rw [Asks, frame_handed handed]
    exact first_asks s.conns.db
  have inverse := (sessions_invariant.holds reached).inverse
  obtain ⟨w, greets⟩ := Greets.of_asks (loginFrame_login handed) asks rfl
    inverse (.inl ⟨free, by simp⟩)
  have registered := greets.registered threeAccounts_directory inverse
    (threeAccounts_directory.registered reached)
  refine ⟨s, w, reached, greets, bound, (userlist_filled_iff _ _ 4 1 w greets 0
    [1, 2, 3] w.db (threeAccounts_directory.getAllUid_listed
      (Tables.keptEnv_listed w.db)) (by decide)).mpr ?_⟩
  exact registered.counts threeAccounts_directory.distinct greets.bound.2

/-- With nobody listed the room for the users who are offline is below
zero. -/
theorem unlisted_login_wraps : ¬ ∀ (s : State (List Record)) (fd : Fd)
    (net : List ReadResult) (frame : Message) (uid : Uid)
    (w : Connections (List Record)),
    (machine (Tables.unlistedEnv threeAccounts)).Reachable s →
    s.clientFds fd = true → s.conns.Handed fd net frame →
    (s.conns.setConn fd ((s.conns.conns fd).receive net).2).Greets
      (Tables.unlistedEnv threeAccounts) fd uid w →
    w.FillsLists (Tables.unlistedEnv threeAccounts) fd := by
  intro always
  have replayed : ((machine (Tables.unlistedEnv threeAccounts)).replay
      (.init [] 1024) [.accept 4]).any
        (fun s => handsOver s 4 (loginFrame "a") ∧
          s.conns.fdToUid.lookup 4 = none) = true := by
    decide +kernel
  obtain ⟨s, reached, holds⟩ := Machine.Reachable.of_replay replayed
    ⟨_, _, rfl⟩
  obtain ⟨taking, free⟩ := of_decide_eq_true holds
  obtain ⟨opened, handed⟩ := of_decide_eq_true taking
  have asks : (s.conns.setConn 4
      ((s.conns.conns 4).receive (whole (loginFrame "a"))).2).Asks
        (Tables.unlistedEnv threeAccounts) 4 (.right 1 false) s.conns.db := by
    rw [Asks, frame_handed handed]
    exact Tables.unlistedEnv_judged (first_asks s.conns.db)
  obtain ⟨w, greets⟩ := Greets.of_asks (loginFrame_login handed) asks rfl
    (sessions_invariant.holds reached).inverse (.inl ⟨free, by simp⟩)
  obtain ⟨_, _, _, _, _, _, _, _, listed, _, some, fewer, _⟩ :=
    always s 4 _ _ 1 w reached opened handed greets
  have none : Database.getAllUid (Tables.unlistedEnv threeAccounts) w.db =
      .ok (-1, [], w.db) := rfl
  rw [none] at listed
  cases listed
  rw [List.length_nil] at fewer
  omega

end GroupChat.Server
