import GroupChat.Client.Listing
import GroupChat.System.Requests

namespace GroupChat.System

/-! A client's list of contacts, from the moment it connects. -/

open Client
open Server hiding Uid machine Record

variable {ω : Type} {env : Env ω} {host : Host} {fd : Fd}

/-- The sessions of a client that has just connected. -/
structure Session.Connects (env : Env ω) (host : Host) (fd : Fd)
    (s : Session ω) : Prop extends Session.Begins env fd s where
  connected : ∃ c : TcpClient, s.client =
    (c.connect2Host host).connectionSuccess

/-- `exchange`, from a client that has just connected. -/
def connection (env : Env ω) (host : Host) (fd : Fd) :
    Machine (Session ω) Turn where
  initial := Session.Connects env host fd
  enabled := fun s turn => s.Enabled fd turn
  next := Session.next env host fd

instance (env : Env ω) (host : Host) (fd : Fd) (s : Session ω) :
    DecidablePred ((connection env host fd).enabled s) :=
  inferInstanceAs (DecidablePred (s.Enabled fd))

theorem connection_exchange {s : Session ω}
    (reached : (connection env host fd).Reachable s) :
    (exchange env host fd).Reachable s := by
  induction reached with
  | initial first => exact .initial first.toBegins
  | step _ allowed moved induction => exact .step induction allowed moved

namespace Session

variable {s : Session ω} {frames : List Message} {requests : List Request}

/-- The names that the client waits for are those of its requests without a
reply.  A reply that is refused is the last frame it takes. -/
structure Listed (s : Session ω) (requests : List Request) : Prop where
  listing : s.client.Listing (s.taken.flatMap statesOf)
    (namesAsked (requests.take (s.taken.countP TcpClient.isReply)))
    (namesAsked (requests.drop (s.taken.countP TcpClient.isReply)))
  granted : s.client.isOpen = true → ∀ frame ∈ s.taken,
    isAnswer frame = TcpClient.isReply frame
  settled : ∀ frame ∈ s.taken.dropLast,
    isAnswer frame = TcpClient.isReply frame

theorem countP_granted {taken : List Message}
    (granted : ∀ frame ∈ taken, isAnswer frame = TcpClient.isReply frame) :
    taken.countP isAnswer = taken.countP TcpClient.isReply :=
  List.countP_congr fun frame member => by rw [granted frame member]

namespace Listed

theorem waiting (listed : s.Listed requests)
    (paired : s.Paired frames requests) {now : Int} {frame : Message}
    (allowed : s.Enabled fd (.client (.frame now frame)))
    (reply : TcpClient.isReply frame = true) :
    ∃ request rest queue,
      requests.drop (s.taken.countP TcpClient.isReply) = request :: rest ∧
      requests.drop (s.taken.countP TcpClient.isReply + 1) = rest ∧
      requests.take (s.taken.countP TcpClient.isReply + 1) =
        requests.take (s.taken.countP TcpClient.isReply) ++ [request] ∧
      s.client.queueUid = request.uid :: queue ∧
      Answers request.frame frame := by
  obtain ⟨opened, reads⟩ := allowed
  obtain ⟨entry, next, wire⟩ := paired.taking reads
  have answer : isAnswer frame = true := by
    rw [TcpClient.isReply, Bool.and_eq_true] at reply
    exact reply.1
  rw [← isAnswer_of_wire wire] at answer
  obtain ⟨request, made, _, answers⟩ := paired.asked_next next answer
  have queue := paired.queueUid opened
  rw [countP_granted (listed.granted opened)] at made queue
  obtain ⟨inside, here⟩ := List.getElem?_eq_some_iff.mp made
  have front : requests.drop (s.taken.countP TcpClient.isReply) =
      request :: requests.drop (s.taken.countP TcpClient.isReply + 1) := by
    rw [← here]
    exact List.drop_eq_getElem_cons inside
  rw [front] at queue
  refine ⟨request, _, _, front, rfl, ?_, queue, ?_⟩
  · rw [List.take_add_one, Option.mem_def.mp made]
    rfl
  · rw [received_of_wire wire]
    exact answers

theorem congr {s' : Session ω} (listed : s.Listed requests)
    (client : s'.client = s.client) (taken : s'.taken = s.taken) :
    s'.Listed requests := by
  obtain ⟨listing, granted, settled⟩ := listed
  refine ⟨?_, ?_, ?_⟩
  · rw [client, taken]
    exact listing
  · rw [client, taken]
    exact granted
  · rw [taken]
    exact settled

theorem called (listed : s.Listed requests) {client : TcpClient}
    (remembers : TcpClient.Remembers s.client client)
    (isOpen : client.isOpen = true → s.client.isOpen = true) :
    { s with client := client }.Listed requests :=
  ⟨listed.listing.remembers remembers, fun opened =>
    listed.granted (isOpen opened), listed.settled⟩

theorem taking (listed : s.Listed requests) {now : Int} {frame : Message}
    {client : TcpClient} (opened : s.client.isOpen = true)
    (parsed : s.client.parseHeader host now frame = .ok client) :
    (client.isOpen = true → ∀ other ∈ s.taken ++ [frame],
      isAnswer other = TcpClient.isReply other) ∧
    ∀ other ∈ (s.taken ++ [frame]).dropLast,
      isAnswer other = TcpClient.isReply other := by
  have before := listed.granted opened
  refine ⟨?_, ?_⟩
  · intro still other member
    rcases List.mem_append.mp member with earlier | last
    · exact before other earlier
    · rw [List.mem_singleton.mp last]
      cases answer : isAnswer frame with
      | false =>
          unfold TcpClient.isReply
          unfold isAnswer at answer
          rw [answer, Bool.false_and]
      | true =>
          cases success : TcpClient.isReply frame with
          | true => rfl
          | false =>
              have closed := TcpClient.refused_closes parsed answer success
              rw [still] at closed
              cases closed
  · rw [List.dropLast_concat]
    exact before

end Listed

/-- Each contact but the one for everybody has the state in the last frame that
mentions its user. -/
def Follows (s : Session ω) : Prop :=
  ∀ contact ∈ s.client.contactsModel, contact.uid ≠ uidForAll →
    lastState s.taken contact.uid = some contact.isOffline

/-- The name of a user comes while its state is the one that was told first. -/
def Unchanged (s : Session ω) : Turn → Prop
  | .client (.frame _ frame) => TcpClient.isNameReply frame = true →
      ∀ uid ∈ s.client.queueUid.head?, uid ≠ uidForAll →
        lastState s.taken uid = firstState s.taken uid
  | _ => True

instance (s : Session ω) : DecidablePred s.Unchanged := fun turn =>
  match turn with
  | .client (.frame _ _) =>
      @instDecidableForall _ _ inferInstance (Option.decidableForallMem _)
  | .client .connect2Host | .client .connectionSuccess
  | .client (.login _ _) | .client (.sendMessage _ _)
  | .client (.changePassword _ _) | .client (.sendFile _)
  | .client (.setUid _) | .client .closeConnection | .server _ =>
      inferInstanceAs (Decidable True)

theorem Listed.handled (listed : s.Listed requests)
    (paired : s.Paired frames requests) {client : TcpClient}
    {now : Int} {frame : Message}
    (allowed : s.Enabled fd (.client (.frame now frame)))
    (parsed : s.client.parseHeader host now frame = .ok client) :
    (s.reacted (.frame now frame) client).Listed
      (requests ++ s.client.requests frame) ∧
    (s.Follows → ((s.reacted (.frame now frame) client).Follows ↔
      s.Unchanged (.client (.frame now frame)))) := by
  obtain ⟨granted, settled⟩ := listed.taking allowed.1 parsed
  have states : (s.taken ++ [frame]).flatMap statesOf =
      s.taken.flatMap statesOf ++ statesOf frame := by
    rw [List.flatMap_append, List.flatMap_singleton]
  have within : s.taken.countP TcpClient.isReply ≤ requests.length := by
    rw [← countP_granted (listed.granted allowed.1)]
    exact paired.countP_le
  cases reply : TcpClient.isReply frame with
  | false =>
      have unnamed : TcpClient.isNameReply frame = false := by
        cases named : TcpClient.isNameReply frame with
        | false => rfl
        | true =>
            rw [TcpClient.isReply_of_isNameReply named] at reply
            cases reply
      have next := listed.listing.parseHeader unnamed parsed
      have count : (s.taken ++ [frame]).countP TcpClient.isReply =
          s.taken.countP TcpClient.isReply := by
        rw [List.countP_append, List.countP_singleton, reply]
        rfl
      refine ⟨⟨?_, granted, settled⟩, ?_⟩
      · change client.Listing ((s.taken ++ [frame]).flatMap statesOf)
          (namesAsked (List.take ((s.taken ++ [frame]).countP _) _))
          (namesAsked (List.drop ((s.taken ++ [frame]).countP _) _))
        rw [states, count, List.take_append_of_le_length within,
          List.drop_append_of_le_length within, namesAsked_append]
        exact next.1
      · intro follows
        refine iff_of_true ?_ fun named => ?_
        · have after := next.2 follows
          rw [← states] at after
          exact after
        · rw [unnamed] at named
          cases named
  | true =>
      obtain ⟨request, rest, queue, waits, left, comes, front, answers⟩ :=
        listed.waiting paired allowed reply
      have answer : isAnswer frame = true := by
        rw [TcpClient.isReply, Bool.and_eq_true] at reply
        exact reply.1
      have count : (s.taken ++ [frame]).countP TcpClient.isReply =
          s.taken.countP TcpClient.isReply + 1 := by
        rw [List.countP_append, List.countP_singleton, reply]
        rfl
      have listing := listed.listing
      rw [waits] at listing
      have silent : ¬ (frame.header.type = 0xA1 ∧
          frame.header.subType ∈ [0x00, 0x01]) := by
        intro tells
        rw [isAnswer, tells.1] at answer
        cases answer
      rw [TcpClient.statesOf_eq_nil silent, List.append_nil] at states
      rw [TcpClient.requests_of_isAnswer answer, List.append_nil]
      have listed' {client : TcpClient} {told : List (Uid × Bool)}
          (same : told = s.taken.flatMap statesOf)
          (opened : client.isOpen = true → ∀ other ∈ s.taken ++ [frame],
            isAnswer other = TcpClient.isReply other)
          (next : client.Listing told
            (namesAsked (requests.take (s.taken.countP TcpClient.isReply) ++
              [request])) (namesAsked rest)) :
          (s.reacted (.frame now frame) client).Listed requests := by
        refine ⟨?_, opened, settled⟩
        change client.Listing ((s.taken ++ [frame]).flatMap statesOf)
          (namesAsked (List.take ((s.taken ++ [frame]).countP _) _))
          (namesAsked (List.drop ((s.taken ++ [frame]).countP _) _))
        rw [states, count, comes, left, ← same]
        exact next
      have code : frame.header.subType = 0x00 := by
        simp only [TcpClient.isReply, Bool.and_eq_true, decide_eq_true_eq]
          at reply
        exact reply.2
      cases request with
      | name uid =>
          have type : frame.header.type = 0x91 :=
            answers.trans (show (0x11 : UInt8) ||| 0x80 = 0x91 by decide)
          have named : TcpClient.isNameReply frame = true := by
            simp [TcpClient.isNameReply, type, code]
          have next := listing.name_comes named front parsed
          refine ⟨listed' rfl granted ?_, ?_⟩
          · rw [namesAsked_append]
            exact next.1
          · intro follows
            have unchanged : s.Unchanged (.client (.frame now frame)) ↔
                (uid ≠ uidForAll →
                  lastState s.taken uid = firstState s.taken uid) := by
              simp [Unchanged, named, front, Request.uid]
            rw [unchanged]
            change client.contactsModel.Follows
              ((s.taken ++ [frame]).flatMap statesOf) ↔ _
            rw [states]
            exact next.2 follows
      | history uid =>
          have type : frame.header.type = 0x92 :=
            answers.trans (show (0x12 : UInt8) ||| 0x80 = 0x92 by decide)
          have unnamed : TcpClient.isNameReply frame = false := by
            simp [TcpClient.isNameReply, type]
          have next := listing.parseHeader unnamed parsed
          rw [TcpClient.statesOf_eq_nil silent, List.append_nil,
            TcpClient.requests_of_isAnswer answer] at next
          refine ⟨listed' rfl granted ?_, ?_⟩
          · rw [namesAsked_append]
            simpa [namesAsked] using next.1
          · intro follows
            refine iff_of_true ?_ fun named => ?_
            · have after := next.2 follows
              rw [← states] at after
              exact after
            · rw [unnamed] at named
              cases named

theorem served_client (s : Session ω) (fd : Fd) (step : Step)
    (server : State ω) : (s.served fd step server).client = s.client ∧
      (s.served fd step server).taken = s.taken := by
  unfold served
  split <;> exact ⟨rfl, rfl⟩

/-- What one turn does to the contacts. -/
theorem next_listed (reached : (connection env host fd).Reachable s)
    (paired : s.Paired frames requests) (listed : s.Listed requests)
    {turn : Turn} {after : Session ω} (allowed : s.Enabled fd turn)
    (moved : s.next env host fd turn = .ok after) :
    (∃ frames' requests',
      after.Paired frames' requests' ∧ after.Listed requests') ∧
    (s.Follows → (after.Follows ↔ s.Unchanged turn)) := by
  have reached := connection_exchange reached
  have serving := serving_invariant.holds reached
  have next := serving_invariant.holds (reached.step allowed moved)
  cases turn with
  | server step =>
      obtain ⟨server, stepped, rest⟩ := Exec.of_bind_ok moved
      cases rest
      obtain ⟨client, taken⟩ := s.served_client fd step server
      refine ⟨⟨frames, requests,
        paired.served serving allowed stepped next,
        listed.congr client taken⟩, ?_⟩
      intro follows
      refine iff_of_true ?_ trivial
      rw [Follows, client, taken]
      exact follows
  | client event =>
      obtain ⟨client, reacts, rest⟩ := Exec.of_bind_ok moved
      cases rest
      cases event with
      | frame now frame =>
          have handled := listed.handled paired allowed reacts
          exact ⟨⟨_, _, paired.handled allowed.2 reacts, handled.1⟩,
            handled.2⟩
      | connect2Host => exact allowed.2.elim
      | connectionSuccess => exact allowed.2.elim
      | login _ _ | sendMessage _ _ | changePassword _ _ | sendFile _
      | setUid _ | closeConnection =>
          obtain ⟨made, calls⟩ := TcpClient.next_calls reacts
            ⟨by simp, by simp⟩ (by simp)
          have remembers := TcpClient.next_remembers reacts (by simp) (by simp)
          refine ⟨⟨_, _, paired.called calls,
            listed.called remembers calls.isOpen⟩, ?_⟩
          intro follows
          refine iff_of_true ?_ trivial
          change ∀ contact ∈ client.contactsModel, _
          rw [remembers.contacts]
          exact follows

theorem connected_listed (first : s.Connects env host fd) :
    s.Paired [] [] ∧ s.Listed [] ∧ s.Follows := by
  obtain ⟨c, client⟩ := first.connected
  have taken : s.taken = [] := by rw [first.rest]
  have everybody : s.client.contactsModel =
      [⟨uidForAll, false, host.fromLocal8Bit TcpClient.everybody⟩] := by
    rw [client]
    rfl
  have listing : s.client.Listing (s.taken.flatMap statesOf) [] [] := by
    rw [taken]
    refine ⟨?_, List.nodup_nil, ?_, ?_, ?_, ?_⟩
    · rw [everybody]
      exact .refl _
    · intro uid member
      cases member
    · intro uid member
      cases member
    · intro uid told
      cases told
    · intro uid member
      cases member
  refine ⟨first.paired, ⟨?_, ?_, ?_⟩, ?_⟩
  · rw [List.take_nil, List.drop_nil]
    exact listing
  · intro _ frame member
    rw [taken] at member
    cases member
  · intro frame member
    rw [taken] at member
    cases member
  · intro contact member other
    rw [everybody] at member
    rw [List.mem_singleton.mp member] at other
    exact absurd rfl other

theorem listed_invariant : (connection env host fd).Invariant fun s =>
    ∃ frames requests, s.Paired frames requests ∧ s.Listed requests where
  start := by
    intro s first
    obtain ⟨paired, listed, _⟩ := connected_listed first
    exact ⟨[], [], paired, listed⟩
  kept := by
    intro before turn after reached holds allowed moved
    obtain ⟨frames, requests, paired, listed⟩ := holds
    exact (next_listed reached paired listed allowed moved).1

theorem follows_invariant : ((connection env host fd).restrict
    Session.Unchanged).Invariant Session.Follows where
  start := fun _ first => (connected_listed first).2.2
  kept := by
    intro before turn after reached follows allowed moved
    have raw := reached.of_restrict
    obtain ⟨frames, requests, paired, listed⟩ := listed_invariant.holds raw
    exact ((next_listed raw paired listed allowed.1 moved).2 follows).mpr
      allowed.2

end Session

/-- Where no name comes after a change of its user's state, every contact but
the one for everybody shows the state that was told last; and from such a state
any turn keeps this exactly if it brings no such name. -/
theorem statuses_followed (env : Env ω) (host : Host) (fd : Fd)
    (s : Session ω) (reached : ((connection env host fd).restrict
      Session.Unchanged).Reachable s) :
    s.Follows ∧ ∀ turn after, s.Enabled fd turn →
      s.next env host fd turn = .ok after →
      (after.Follows ↔ s.Unchanged turn) := by
  have follows := Session.follows_invariant.holds reached
  refine ⟨follows, ?_⟩
  intro turn after allowed moved
  have raw := reached.of_restrict
  obtain ⟨frames, requests, paired, listed⟩ :=
    Session.listed_invariant.holds raw
  exact (Session.next_listed raw paired listed allowed moved).2 follows

def freshSession (host : Host) : Session (List Server.Record) where
  server :=
    { conns := (Connections.init [] 1024).accepted 4
      clientFds := Function.update (fun _ => false) 4 true
      hung := Function.update (fun _ => false) 4 false }
  client := (TcpClient.connect2Host host {}).connectionSuccess

theorem freshSession_initial (host : Host) :
    (connection (Tables.keptEnv threeAccounts) host 4).initial
      (freshSession host) where
  accepted := ⟨.init [] 1024, .initial ⟨_, _, rfl⟩, by decide, rfl⟩
  isOpen := rfl
  sent := rfl
  queueUid := rfl
  rest := rfl
  connected := ⟨{}, rfl⟩

/-- The turns on the first client's connection. -/
abbrev smallConnection : Machine (Session (List Server.Record)) Turn :=
  connection (Tables.keptEnv threeAccounts) Host.latin1 4

/-- A login, the replies to it up to the list of those who are offline, and the
reply with the public history. -/
def loginThenLists : List Turn :=
  let sends (len : Nat) : Turn := .server (.sendMsg 4 [.took 4, .took len])
  [.client (.login (.ofText "a") (.ofText "a")),
    .server (.recvMsg 4 (whole (loginFrame "a"))), sends 8, sends 0, sends 8,
    .client (.frame 0 ⟨⟨0x90, 0x00, 12⟩,
      Buffer.ofWord 1 ++ Buffer.ofWord 0⟩),
    .client (.frame 0 ⟨⟨0xA1, 0x00, 4⟩, []⟩),
    .server (.recvMsg 4 (whole (Request.history uidForAll).frame)), sends 0,
    .client (.frame 0 ⟨⟨0xA1, 0x01, 12⟩,
      Buffer.ofWord 2 ++ Buffer.ofWord 3⟩),
    .client (.frame 0 ⟨⟨0x92, 0x00, 4⟩, []⟩)]

def secondLogsIn : List Turn :=
  [.server (.accept 5), .server (.recvMsg 5 (whole (loginFrame "b"))),
    .server (.sendMsg 4 [.took 4, .took 4]),
    .client (.frame 0 ⟨⟨0xA1, 0x00, 8⟩, Buffer.ofWord 2⟩)]

def secondNamed : List Turn :=
  [.server (.recvMsg 4 (whole (Request.name 2).frame)),
    .server (.sendMsg 4 [.took 4, .took 1]), .client (.frame 0 nameReply)]

/-- The second user's name, and the second user's login. -/
theorem statuses_followed_name : ∃ s after,
    (smallConnection.restrict
      Session.Unchanged).Reachable s ∧
    s.client.contactsModel.map Contact.uid = [uidForAll, 2] ∧ s.Follows ∧
    s.next (Tables.keptEnv threeAccounts) Host.latin1 4
      (.client (.frame 0 ⟨⟨0xA1, 0x00, 8⟩, Buffer.ofWord 2⟩)) = .ok after ∧
    (after.Follows ↔ s.Unchanged
      (.client (.frame 0 ⟨⟨0xA1, 0x00, 8⟩, Buffer.ofWord 2⟩))) := by
  have replayed : ((smallConnection.restrict
      Session.Unchanged).replay (freshSession Host.latin1)
      (loginThenLists ++ secondNamed ++ secondLogsIn.dropLast)).any (fun s =>
        s.client.contactsModel.map Contact.uid = [uidForAll, 2] &&
        (decide (s.Enabled 4
          (.client (.frame 0 ⟨⟨0xA1, 0x00, 8⟩, Buffer.ofWord 2⟩))) &&
        (s.next (Tables.keptEnv threeAccounts) Host.latin1 4
          (.client (.frame 0 ⟨⟨0xA1, 0x00, 8⟩, Buffer.ofWord 2⟩))).isOk)) =
        true := by
    decide +kernel
  obtain ⟨s, reached, holds⟩ :=
    Machine.Reachable.of_replay replayed (freshSession_initial Host.latin1)
  simp only [Bool.and_eq_true, decide_eq_true_eq] at holds
  obtain ⟨listed, allowed, goes⟩ := holds
  cases moved : s.next (Tables.keptEnv threeAccounts) Host.latin1 4
      (.client (.frame 0 ⟨⟨0xA1, 0x00, 8⟩, Buffer.ofWord 2⟩)) with
  | error fault =>
      rw [moved] at goes
      cases goes
  | ok after =>
      obtain ⟨follows, next⟩ :=
        statuses_followed _ Host.latin1 4 s reached
      exact ⟨s, after, reached, listed, follows, moved,
        next _ after allowed moved⟩

/-- The name comes after the login: the user is shown as offline although it
was last said to be online. -/
theorem login_unshown : ∃ s contact,
    smallConnection.Reachable s ∧
    contact ∈ s.client.contactsModel ∧ contact.uid = 2 ∧
    contact.isOffline = true ∧ lastState s.taken contact.uid = some false := by
  have replayed : (smallConnection.replay
      (freshSession Host.latin1)
      (loginThenLists ++ secondLogsIn ++ secondNamed)).any (fun s =>
        s.client.contactsModel.any (fun contact =>
          contact.uid = 2 && contact.isOffline) &&
        lastState s.taken 2 = some false) = true := by
    decide +kernel
  obtain ⟨s, reached, holds⟩ :=
    Machine.Reachable.of_replay replayed (freshSession_initial Host.latin1)
  rw [Bool.and_eq_true, List.any_eq_true, decide_eq_true_eq] at holds
  obtain ⟨⟨contact, member, shown⟩, last⟩ := holds
  rw [Bool.and_eq_true, decide_eq_true_eq] at shown
  exact ⟨s, contact, reached, member, shown.1, shown.2, shown.1 ▸ last⟩

end GroupChat.System
