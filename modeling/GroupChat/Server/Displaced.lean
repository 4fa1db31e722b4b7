import GroupChat.Server.Login

namespace GroupChat.Server

/-! Requests that arrive on a connection whose session another login took. -/

variable {ω : Type} {env : Env ω}

def isWelcome (msg : Message) : Bool :=
  msg.header.type = 0x90 && msg.header.subType &&& 0xF0 = 0

/-- The client has received a whole message that tells it so. -/
def Conn.welcomed (conn : Conn) : Bool :=
  (List.range (conn.history.pushed.length + 1)).any fun count =>
    (conn.history.pushed.take count).any isWelcome &&
      (streamOf (conn.history.pushed.take count)).isPrefixOf
        conn.history.accepted

namespace State

/-- What a client sends before it is told that it is logged in are logins
only: no other frame has begun or come to its end. -/
def Patient (s : State ω) : Step → Prop
  | .recvMsg fd net =>
      (s.conns.conns fd).welcomed = true ∨
        (((s.conns.conns fd).receive net).1 = .complete →
          ((s.conns.conns fd).receive net).2.recvMsg.header.type = 0x10) ∧
        ∀ first ∈ ((s.conns.conns fd).receive net).2.partialFrame.head?,
          first = 0x10
  | _ => True

instance (s : State ω) : DecidablePred s.Patient := fun step =>
  match step with
  | .recvMsg _ _ => inferInstanceAs (Decidable (_ ∨ (_ → _) ∧ _))
  | .accept _ => inferInstanceAs (Decidable True)
  | .sendMsg _ _ => inferInstanceAs (Decidable True)
  | .closeConn _ => inferInstanceAs (Decidable True)

end State

/-- The runs in which clients wait for the answer to their login. -/
def patient (env : Env ω) : Machine (State ω) Step :=
  (machine env).restrict State.Patient

instance (s : State ω) : DecidablePred ((patient env).enabled s) :=
  fun step => inferInstanceAs (Decidable (s.Enabled step ∧ s.Patient step))

/-- The frames whose handlers need the sender to be bound. -/
def sessionTypes : List UInt8 := [0x12, 0x13, 0x15, 0x17, 0x18, 0x19, 0x1A]

/-- The handler of such a frame refuses it for its shape. -/
def Misshapen (frame : Message) : Prop :=
  match frame.header.type with
  | 0x12 => (frame.header.subType ≠ 0x00 ∧ frame.header.subType ≠ 0x01) ∨
      frame.header.length.toNat ≠ sizeofHeader + 4
  | 0x13 => (frame.header.subType ≠ 0x00 ∧ frame.header.subType ≠ 0x01) ∨
      sizeofHeader + 4 + 1024 < frame.header.length.toNat
  | 0x15 => frame.header.subType ≠ 0x00 ∨
      frame.header.length.toNat ≠ sizeofHeader + 56
  | 0x17 => frame.header.length.toNat ≠ sizeofHeader + 76
  | 0x18 => frame.header.length.toNat ≠ sizeofHeader + 8
  | 0x19 => frame.header.length.toNat ≠ sizeofHeader + frame.data.length
  | 0x1A => frame.header.length.toNat ≠ sizeofHeader + 12
  | _ => False

namespace Connections

variable {s s' : Connections ω} {fd : Fd}

/-- Handling the frame comes to nothing but the answer that it is unknown. -/
def OnlyUnknown (s : Connections ω) (fd : Fd) (run : Exec (Connections ω)) :
    Prop :=
  ∀ s', run = .ok s' ↔ Misshapen (s.frame fd) ∧ s' = s.parseUnknown fd

theorem myUid_unbound (free : s.fdToUid.lookup fd = none) :
    s.myUid fd = .error .exception := by
  simp only [myUid, free, Exec.demand_none, Exec.bind_error]

/-- A handler that goes no further without a session. -/
theorem onlyUnknown_of {refused : Prop} [Decidable refused]
    {rest : Exec (Connections ω)} (shape : Misshapen (s.frame fd) ↔ refused)
    (stops : ∀ s', rest ≠ .ok s') :
    s.OnlyUnknown fd
      (if refused then .ok (s.parseUnknown fd) else rest) := by
  intro s'
  rw [shape]
  split
  · rename_i refusing
    simp [refusing, eq_comm]
  · rename_i accepting
    simp [accepting, stops s']

theorem session_needed (free : s.fdToUid.lookup fd = none) {sized : Prop}
    [Decidable sized] (data : Buffer)
    (next : UInt32 → Uid → Exec (Connections ω)) (s' : Connections ω) :
    (do
      Exec.require sized .assertion
      let word ← data.wordAt 0
      let uid ← s.myUid fd
      next word uid) ≠ .ok s' := by
  intro completed
  obtain ⟨_, _, rest⟩ := Exec.of_bind_ok completed
  obtain ⟨_, _, rest⟩ := Exec.of_bind_ok rest
  obtain ⟨_, bound, _⟩ := Exec.of_bind_ok rest
  rw [myUid_unbound free] at bound
  cases bound

theorem parseChatrecord_unbound (free : s.fdToUid.lookup fd = none)
    (type : (s.frame fd).header.type = 0x12) :
    s.OnlyUnknown fd (s.parseChatrecord env fd) := by
  refine onlyUnknown_of ?_ (session_needed free _ _)
  simp only [Misshapen, type, ne_eq]

theorem parseTextmsg_unbound (free : s.fdToUid.lookup fd = none)
    (type : (s.frame fd).header.type = 0x13) :
    s.OnlyUnknown fd (s.parseTextmsg env fd) := by
  refine onlyUnknown_of ?_ (session_needed free _ _)
  simp only [Misshapen, type, ne_eq]

theorem parseChangePwd_unbound (free : s.fdToUid.lookup fd = none)
    (type : (s.frame fd).header.type = 0x15) :
    s.OnlyUnknown fd (s.parseChangePwd env fd) := by
  refine onlyUnknown_of ?_ ?_
  · simp only [Misshapen, type, ne_eq]
  · intro s' completed
    obtain ⟨_, bound, _⟩ := Exec.of_bind_ok completed
    rw [myUid_unbound free] at bound
    cases bound

theorem parseTransfileAskRc_unbound (free : s.fdToUid.lookup fd = none)
    (type : (s.frame fd).header.type = 0x17) :
    s.OnlyUnknown fd (s.parseTransfileAskRc env fd) := by
  refine onlyUnknown_of ?_ (session_needed free _ _)
  simp only [Misshapen, type, ne_eq]

theorem parseTransfileRepSc_unbound (free : s.fdToUid.lookup fd = none)
    (type : (s.frame fd).header.type = 0x18) :
    s.OnlyUnknown fd (s.parseTransfileRepSc env fd) := by
  refine onlyUnknown_of ?_ (session_needed free _ _)
  simp only [Misshapen, type, ne_eq]

theorem parseTransfileData_unbound (free : s.fdToUid.lookup fd = none)
    (type : (s.frame fd).header.type = 0x19) :
    s.OnlyUnknown fd (s.parseTransfileData fd) := by
  refine onlyUnknown_of ?_ ?_
  · simp only [Misshapen, type, ne_eq]
  · intro s' completed
    obtain ⟨_, _, rest⟩ := Exec.of_bind_ok completed
    obtain ⟨_, bound, _⟩ := Exec.of_bind_ok rest
    rw [myUid_unbound free] at bound
    cases bound

theorem parseTransfileAck_unbound (free : s.fdToUid.lookup fd = none)
    (type : (s.frame fd).header.type = 0x1A) :
    s.OnlyUnknown fd (s.parseTransfileAck env fd) := by
  refine onlyUnknown_of ?_ (session_needed free _ _)
  simp only [Misshapen, type, ne_eq]

/-- Without a session none of these frames gets past the check of its shape. -/
theorem parse_unbound (free : s.fdToUid.lookup fd = none)
    (type : (s.frame fd).header.type ∈ sessionTypes) :
    s.OnlyUnknown fd (s.parse env fd) := by
  unfold parse
  simp only [sessionTypes, List.mem_cons, List.not_mem_nil, or_false] at type
  rcases type with type | type | type | type | type | type | type
  · rw [type]
    exact parseChatrecord_unbound free type
  · rw [type]
    exact parseTextmsg_unbound free type
  · rw [type]
    exact parseChangePwd_unbound free type
  · rw [type]
    exact parseTransfileAskRc_unbound free type
  · rw [type]
    exact parseTransfileRepSc_unbound free type
  · rw [type]
    exact parseTransfileData_unbound free type
  · rw [type]
    exact parseTransfileAck_unbound free type

end Connections

/-- The frame leaves the server running, and leaves the sessions, the tables
and what is queued on the other connections alone. -/
def State.Shrugs (env : Env ω) (s : State ω) (fd : Fd)
    (net : List ReadResult) : Prop :=
  ∃ s', s.next env (.recvMsg fd net) = .ok s' ∧
    s'.conns.fdToUid = s.conns.fdToUid ∧
    s'.conns.uidToFd = s.conns.uidToFd ∧ s'.conns.db = s.conns.db ∧
    ∀ other, other ≠ fd →
      (s'.conns.conns other).sendQue = (s.conns.conns other).sendQue

/-- However clients wait for their logins, a request that arrives on a
connection without a session is left without effect exactly if its handler
refuses it for its shape. -/
theorem displaced_requests (env : Env ω) (s : State ω)
    (reached : (patient env).Reachable s) (fd : Fd)
    (net : List ReadResult) (frame : Message)
    (allowed : (patient env).enabled s (.recvMsg fd net))
    (handed : s.conns.Handed fd net frame)
    (type : frame.header.type ∈ sessionTypes)
    (free : s.conns.fdToUid.lookup fd = none) :
    s.Shrugs env fd net ↔ Misshapen frame := by
  have inside := opened_inside reached.of_restrict fd allowed.1
  have same := Connections.frame_handed handed
  have parsed := @Connections.parse_unbound ω env (s.conns.setConn fd
    ((s.conns.conns fd).receive net).2) fd free (by rw [same]; exact type)
  unfold Connections.OnlyUnknown at parsed
  rw [same] at parsed
  constructor
  · intro shrugs
    obtain ⟨s', moved, _⟩ := shrugs
    obtain ⟨conns, handled, _⟩ := (State.next_handed inside handed).mp moved
    exact ((parsed conns).mp handled).1
  · intro misshapen
    have handled := (parsed _).mpr ⟨misshapen, rfl⟩
    refine ⟨_, (State.next_handed inside handed).mpr ⟨_, handled, rfl⟩, rfl,
      rfl, rfl, ?_⟩
    intro other different
    simp [State.called, Connections.parseUnknown, Connections.push,
      Connections.setConn, different]

def historyFrame (subType : UInt8) (uid : Uid) : Message :=
  .ofData 0x12 subType (Buffer.ofWord uid)

/-- A user logs in and is told so, and logs in again elsewhere. -/
def displacing : List Step :=
  arrives 4 [loginFrame "a"] ++ [.sendMsg 4 [.took 4, .took 8]] ++
    arrives 5 [loginFrame "a"]

/-- A request without a session is left without effect where it has an unknown
`sub_type`. -/
theorem displaced_requests_refused : ∃ s : State (List Record),
    s.conns.fdToUid.lookup 5 = some 1 ∧
    s.Shrugs (Tables.keptEnv threeAccounts) 4 (whole (historyFrame 0x02 2)) := by
  have replayed : ((patient (Tables.keptEnv threeAccounts)).replay
      (.init [] 1024) displacing).any (fun s =>
        handsOver s 4 (historyFrame 0x02 2) ∧
          s.conns.fdToUid.lookup 5 = some 1 ∧
          s.conns.fdToUid.lookup 4 = none ∧
          (s.conns.conns 4).welcomed) = true := by
    decide +kernel
  obtain ⟨s, reached, holds⟩ :=
    Machine.Reachable.of_replay replayed (keptEnv_initial threeAccounts)
  obtain ⟨handing, bound, free, welcomed⟩ := of_decide_eq_true holds
  obtain ⟨opened, handed⟩ := of_decide_eq_true handing
  refine ⟨s, bound, (displaced_requests _ s reached 4 _ _
    ⟨opened, .inl welcomed⟩ handed (by decide) free).mpr ?_⟩
  exact .inl (by decide)

/-- A request still in flight when its sender's session is taken over stops the
server. -/
theorem displaced_request_stops : ∃ s : State (List Record),
    (patient (Tables.keptEnv threeAccounts)).Reachable s ∧
    (patient (Tables.keptEnv threeAccounts)).enabled s
      (.recvMsg 4 (whole (historyFrame 0x00 2))) ∧
    s.conns.Handed 4 (whole (historyFrame 0x00 2)) (historyFrame 0x00 2) ∧
    s.conns.fdToUid.lookup 4 = none ∧
    ¬ s.Shrugs (Tables.keptEnv threeAccounts) 4
      (whole (historyFrame 0x00 2)) := by
  have replayed : ((patient (Tables.keptEnv threeAccounts)).replay
      (.init [] 1024) displacing).any (fun s =>
        handsOver s 4 (historyFrame 0x00 2) ∧
          s.conns.fdToUid.lookup 4 = none ∧ (s.conns.conns 4).welcomed ∧
          (s.next (Tables.keptEnv threeAccounts)
            (.recvMsg 4 (whole (historyFrame 0x00 2)))).completes = false) =
        true := by
    decide +kernel
  obtain ⟨s, reached, holds⟩ :=
    Machine.Reachable.of_replay replayed (keptEnv_initial threeAccounts)
  obtain ⟨handing, free, welcomed, stops⟩ := of_decide_eq_true holds
  obtain ⟨opened, handed⟩ := of_decide_eq_true handing
  refine ⟨s, reached, ⟨opened, .inl welcomed⟩, handed, free, ?_⟩
  intro shrugs
  obtain ⟨s', moved, _⟩ := shrugs
  rw [moved, Exec.completes_ok] at stops
  cases stops

end GroupChat.Server
