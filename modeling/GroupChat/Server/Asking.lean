import GroupChat.Server.Connections

namespace GroupChat.Server.Database

/-! The statements that the calls of the database send to its server. -/

variable {ω : Type} {env : Env ω} {among : Buffer → Prop}

/-- The world after statements of one kind. -/
inductive Asks (env : Env ω) (among : Buffer → Prop) : ω → ω → Prop
  | refl (world : ω) : Asks env among world world
  | query {world world' : ω} {sqlstr : Buffer}
      (before : Asks env among world world') (one : among sqlstr) :
      Asks env among world (mysqlQuery env world' sqlstr).2

theorem Asks.one {world : ω} {sqlstr : Buffer} (one : among sqlstr) :
    Asks env among world (mysqlQuery env world sqlstr).2 :=
  .query (.refl world) one

theorem Asks.trans {world world' world'' : ω}
    (before : Asks env among world world')
    (after : Asks env among world' world'') : Asks env among world world'' := by
  induction after with
  | refl => exact before
  | query _ one induction => exact .query induction one

/-- What holds of the selects and of the change of a password. -/
structure Everyday (among : Buffer → Prop) : Prop where
  select : ∀ sqlstr : Buffer, sqlstr[0]? = some 115 → among sqlstr
  updatePasswd : ∀ uid secuPasswd, among (updatePasswdSql uid secuPasswd)

theorem other_statement {begins sqlstr : Buffer} (index : Nat)
    {letter : UInt8} (here : sqlstr[index]? = some letter)
    (differs : begins[index]? ≠ some letter)
    (inside : index < begins.length) : ¬ begins <+: sqlstr := by
  intro front
  obtain ⟨rest, rfl⟩ := front
  rw [List.getElem?_append_left inside] at here
  exact differs here

/-! The calls that only select. -/

section Selects

variable (selects : ∀ sqlstr : Buffer, sqlstr[0]? = some 115 → among sqlstr)

include selects

theorem loginUid_asks {world : ω} {username secuPasswd : Buffer}
    {legal first : Bool} {uid : Uid} {checked : LoginCheck ω}
    (found : loginUid env world username secuPasswd legal first uid =
      .ok checked) : Asks env among world checked.world := by
  have asked : Asks env among world (mysqlQuery env world
      (loginUidSql username secuPasswd)).2 := .one (selects _ rfl)
  unfold loginUid at found
  dsimp only at found
  split at found
  · cases found
    exact asked
  · cases found
    exact asked
  · obtain ⟨_, _, rest⟩ := Exec.of_bind_ok found
    obtain ⟨_, _, rest⟩ := Exec.of_bind_ok rest
    obtain ⟨_, _, rest⟩ := Exec.of_bind_ok rest
    cases rest
    exact asked

theorem loginCheck_asks {world : ω} {username passwd : Buffer}
    {legal first : Bool} {uid : Uid} {checked : LoginCheck ω}
    (login : loginCheck env world username passwd legal first uid =
      .ok checked) : Asks env among world checked.world := by
  have asked : Asks env among world (mysqlQuery env world
      (loginCountSql username (MD5.hexdigest passwd))).2 :=
    .one (selects _ rfl)
  unfold loginCheck at login
  dsimp only at login
  split at login
  · cases login
    exact asked
  · obtain ⟨count, _, rest⟩ := Exec.of_bind_ok login
    split at rest
    · exact asked.trans (loginUid_asks selects rest)
    · cases rest
      exact asked
  · exact asked.trans (loginUid_asks selects login)

theorem checkUid_asks {world : ω} {uid : Int} {exist : Bool}
    {username : Buffer} {checked : CheckUid ω}
    (found : checkUid env world uid exist username = .ok checked) :
    Asks env among world checked.world := by
  have asked : Asks env among world (mysqlQuery env world
      (checkUidSql uid)).2 := .one (selects _ rfl)
  unfold checkUid at found
  dsimp only at found
  split at found
  · cases found
    exact asked
  · obtain ⟨_, _, rest⟩ := Exec.of_bind_ok found
    cases rest
    exact asked
  · cases found
    exact asked

theorem partyExists_asks {world : ω} {isPrivate exist publicExist : Bool}
    {uid : Uid} {checked : CheckUid ω}
    (found : Connections.partyExists env world isPrivate uid exist
      publicExist = .ok checked) : Asks env among world checked.world := by
  unfold Connections.partyExists at found
  split at found
  · exact checkUid_asks selects found
  · cases found
    exact .refl world

theorem numberOf_asks {world : ω} {sqlstr : Buffer} {result : Int × ω}
    (select : sqlstr[0]? = some 115)
    (found : numberOf env world sqlstr = .ok result) :
    Asks env among world result.2 := by
  have asked : Asks env among world (mysqlQuery env world sqlstr).2 :=
    .one (selects _ select)
  unfold numberOf at found
  dsimp only at found
  split at found
  · obtain ⟨_, _, rest⟩ := Exec.of_bind_ok found
    cases rest
    exact asked
  · cases found
    exact asked

theorem getAllUid_asks {world : ω} {result : Int × List Uid × ω}
    (found : getAllUid env world = .ok result) :
    Asks env among world result.2.2 := by
  have asked : Asks env among world (mysqlQuery env world allUidSql).2 :=
    .one (selects _ rfl)
  unfold getAllUid at found
  dsimp only at found
  split at found
  · cases found
    exact asked
  · cases found
    exact asked
  · obtain ⟨_, _, rest⟩ := Exec.of_bind_ok found
    cases rest
    exact asked

theorem serhMessage_asks {world : ω} {myid srid : Int}
    {found : SerhMessage ω}
    (searched : serhMessage env world myid srid = .ok found) :
    Asks env among world found.world := by
  obtain ⟨⟨count, world'⟩, counted, rest⟩ := Exec.of_bind_ok searched
  have before : Asks env among world world' :=
    numberOf_asks selects rfl counted
  have select : (serhMessageSql myid srid)[0]? = some 115 := by
    unfold serhMessageSql
    split <;> rfl
  have asked : Asks env among world (mysqlQuery env world'
      (serhMessageSql myid srid)).2 :=
    before.trans (.one (selects _ select))
  dsimp only at rest
  split at rest
  · cases rest
    exact asked
  · cases rest
    exact asked
  · obtain ⟨_, _, rest⟩ := Exec.of_bind_ok rest
    cases rest
    exact asked

end Selects

theorem statement_asks {world : ω} {sqlstr : Buffer} (one : among sqlstr) :
    Asks env among world (statement env world sqlstr).2 := by
  have asked : Asks env among world (mysqlQuery env world sqlstr).2 :=
    .one one
  unfold statement
  dsimp only
  split <;> exact asked

theorem updatePasswd_asks {world : ω} {uid : Int}
    {newpasswd oldpasswd : Buffer} {result : Int × ω}
    (everyday : Everyday among)
    (updated : updatePasswd env world uid newpasswd oldpasswd = .ok result) :
    Asks env among world result.2 := by
  obtain ⟨checked, found, rest⟩ := Exec.of_bind_ok updated
  obtain ⟨login, granted, rest⟩ := Exec.of_bind_ok rest
  have asked := (checkUid_asks everyday.select found).trans
    (loginCheck_asks everyday.select granted)
  split at rest
  · have update : Asks env among login.world (mysqlQuery env login.world
        (updatePasswdSql uid (MD5.hexdigest newpasswd))).2 :=
      .one (everyday.updatePasswd _ _)
    dsimp only at rest
    split at rest
    · cases rest
      exact asked.trans update
    · cases rest
      exact asked.trans update
  · cases rest
    exact asked

end GroupChat.Server.Database
