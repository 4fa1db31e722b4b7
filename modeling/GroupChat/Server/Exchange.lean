import GroupChat.Server.Chat
import GroupChat.Server.Privacy
import GroupChat.Server.Shown

namespace GroupChat.Server

/-! The texts that a user gets are the ones written to the user. -/

open Machine (Path Enacts)
open Connections

variable {ω : Type} {env : Env ω} {store : Store env}

namespace Deed

/-- A text for this user, or one for everybody by another user. -/
def addressed (uid : Uid) : Deed → Bool
  | .write srcUid dstUid _ _ =>
      if dstUid = 0xFFFF then srcUid ≠ uid else dstUid = uid
  | .login _ _ | .leave _ | .change _ _ | .offer _ _ _ _ _ | .answer _ _ _
  | .count _ _ _ => false

end Deed

/-- A message carries what was written: it tells the user it is from, and its
text is the one stored. -/
inductive Conveys (msg : Message) : Deed → Prop
  | write {srcUid dstUid : Uid} {time : Int} (kind : isText msg = true)
      (sender : msg.data.wordAt 0 = .ok srcUid) :
      Conveys msg (.write srcUid dstUid time (msg.data.drop 4))

theorem isText_textMsg {uid : Uid} {frame : Message}
    (kind : frame.header.subType = 0x00 ∨ frame.header.subType = 0x01) :
    isText (textMsg uid frame) = true := by
  cases kind with
  | inl single => simp [isText, textMsg, single]
  | inr everybody => simp [isText, textMsg, everybody]

theorem textMsg_conveys {srcUid dstUid : Uid} {frame : Message} {time : Int}
    (kind : frame.header.subType = 0x00 ∨ frame.header.subType = 0x01) :
    Conveys (textMsg srcUid frame)
      (.write srcUid dstUid time (frame.data.drop 4)) := by
  have front : (textMsg srcUid frame).data =
      Buffer.ofWord srcUid ++ frame.data.drop 4 := by
    simp [textMsg, Buffer.overwrite]
  have text : (textMsg srcUid frame).data.drop 4 = frame.data.drop 4 := by
    rw [front, List.drop_left' (Buffer.length_ofWord srcUid)]
  rw [← text]
  apply Conveys.write (isText_textMsg kind)
  rw [front]
  exact Buffer.wordAt_ofWord srcUid _

theorem filter_isText (msgs : List Message) :
    (msgs.filter isShown).filter isText = msgs.filter isText := by
  rw [List.filter_filter]
  congr
  funext msg
  rw [isShown]
  cases isText msg with
  | true => rfl
  | false => rfl

theorem Displays.no_text {handed : Option Message} {user : Option Uid}
    {rows rows' : List Stored} {shown : List Message}
    (displays : Displays handed user rows rows' shown)
    (same : rows' = rows) : shown.filter isText = [] := by
  cases displays with
  | nothing more => rfl
  | text uid frame stored kind keeps =>
      exact absurd (congrArg List.length same) (by simp)
  | history here mine type asked count => rfl

namespace Store

variable {s s' : Connections ω} {fd target : Fd} {uid : Uid}

theorem reached_iff_addressed (inverse : FinMap.Inverse s.fdToUid s.uidToFd)
    (bound : s.fdToUid.lookup fd = some uid) {frame : Message}
    {srcUid dstUid : Uid} (read : frame.data.wordAt 0 = .ok dstUid)
    (discreet : frame.header.subType = 0x00 →
      frame.data.wordAt 0 ≠ .ok 0xFFFF) (time : Int) (message : Buffer) :
    (s.reaches frame dstUid = true ∧ fd ∈ s.textTargets srcUid dstUid) ↔
      (Deed.write srcUid dstUid time message).addressed uid = true := by
  rw [mem_textTargets, Deed.addressed, reaches]
  cases everybody : decide (dstUid = 0xFFFF) with
  | true =>
      have everybody := of_decide_eq_true everybody
      subst everybody
      have shared : frame.header.subType ≠ 0x00 := fun kind =>
        discreet kind read
      rw [if_pos rfl, if_pos rfl, if_neg shared, decide_eq_true_iff]
      constructor
      · intro both
        obtain ⟨user, owner, other⟩ := both.2
        rw [bound] at owner
        cases owner
        exact other.symm
      · intro other
        exact ⟨rfl, uid, bound, other.symm⟩
  | false =>
      have one := of_decide_eq_false everybody
      rw [if_neg one, if_neg one, decide_eq_true_iff]
      constructor
      · intro both
        have owner := (inverse fd dstUid).mpr both.2
        rw [bound] at owner
        exact (Option.some.inj owner).symm
      · intro own
        have here := (inverse fd uid).mp bound
        rw [own, Connections.bound, here]
        simp

/-- What a text frame queues to a user who is logged in. -/
theorem FrameDeed.texts {deed : Deed}
    (inverse : FinMap.Inverse s.fdToUid s.uidToFd)
    (bound : s.fdToUid.lookup fd = some uid)
    (type : (s.frame target).header.type = 0x13)
    (discreet : DiscreetFrame store.charset (s.frame target))
    (asks : FrameDeed env s target deed)
    (parsed : s.parse env target = .ok s') :
    ∃ l, Queued s s' l ∧ List.Forall₂ Conveys
      ((sentTo fd l).filter isText) ([deed].filter (Deed.addressed uid)) := by
  cases asks with
  | login login => exact absurd (type.symm.trans login.type) (by decide)
  | change type' => exact absurd (type.symm.trans type') (by decide)
  | file asked =>
      have types := fileOp_type asked
      rw [type] at types
      exact absurd types (by decide)
  | @write srcUid dstUid checked _ shape read mine found answered saved =>
      have after := parse_text_saved type shape read mine found answered
        saved parsed
      subst after
      have queued := Queued.of_pushes s
        (Connections.saved env checked.world (s.frame target) srcUid dstUid).2
        ((target, textAnswer checked.exist
          (s.reaches (s.frame target) dstUid)) ::
            if s.reaches (s.frame target) dstUid then
              (s.textTargets srcUid dstUid).map fun other =>
                (other, textMsg srcUid (s.frame target))
            else [])
      refine ⟨_, queued, ?_⟩
      rw [← filter_isText, shown_text shape.kind (s.textTargets_nodup _ _)]
      have aimed := @reached_iff_addressed _ _ _ _ inverse bound _ srcUid _
        read (discreet type shape).2 (env.time checked.world)
        ((s.frame target).data.drop 4)
      split
      next here =>
        rw [List.filter_cons_of_pos (isText_textMsg shape.kind),
          List.filter_cons_of_pos (aimed.mp here)]
        exact .cons (textMsg_conveys shape.kind) .nil
      next away =>
        rw [List.filter_cons_of_neg fun here => away (aimed.mpr here)]
        exact .nil

end Store

/-- From one state to the other the texts queued to a connection are those that
were written to a user meanwhile, in their order. -/
def Gets (uid : Uid) (fd : Fd) (s s' : State ω)
    (deeds : List Deed) : Prop :=
  ∃ msgs, Queues s s' fd msgs ∧ List.Forall₂ Conveys
    (msgs.filter isText) (deeds.filter (Deed.addressed uid))

namespace Gets

variable {s s' s'' : State ω} {step : Step} {fd : Fd} {uid : Uid}

theorem refl (uid : Uid) (fd : Fd) (s : State ω) :
    Gets uid fd s s [] :=
  ⟨[], (List.append_nil _).symm, .nil⟩

theorem trans {deeds deeds' : List Deed} (first : Gets uid fd s s' deeds)
    (second : Gets uid fd s' s'' deeds') :
    Gets uid fd s s'' (deeds ++ deeds') := by
  obtain ⟨early, before, conveyed⟩ := first
  obtain ⟨late, after, conveyed'⟩ := second
  refine ⟨early ++ late, ?_, ?_⟩
  · rw [Queues, after, before, List.append_assoc]
  · rw [List.filter_append, List.filter_append]
    exact List.rel_append conveyed conveyed'

theorem of_kept (reached : (machine env).Reachable s)
    (legible : Legible store.charset s step)
    (moved : s.next env step = .ok s')
    (same : store.records.rows s'.conns.db = store.records.rows s.conns.db)
    {msgs : List Message} (queues : Queues s s' fd msgs) {deeds : List Deed}
    (none : deeds.filter (Deed.addressed uid) = []) :
    Gets uid fd s s' deeds := by
  have displays := State.next_displays store.recorded reached legible moved
    queues
  refine ⟨msgs, queues, ?_⟩
  rw [← filter_isText, displays.no_text same, none]
  exact .nil

end Gets

theorem State.queues_of_bound {s s' : State ω} {step : Step} {fd : Fd}
    {uid : Uid} (reached : (machine env).Reachable s)
    (allowed : (machine env).enabled s step)
    (moved : s.next env step = .ok s')
    (bound : s.conns.fdToUid.lookup fd = some uid)
    (stays : s'.conns.fdToUid.lookup fd = some uid) :
    ∃ msgs, Queues s s' fd msgs := by
  have queues := queues_invariant.holds reached fd
  have opened := (sessions_invariant.holds reached).opened fd uid bound
  have after := sessions_invariant.holds (.step reached allowed moved)
  have opened' := after.opened fd uid stays
  cases State.moves (sessions_invariant.holds reached) allowed moved fd with
  | accept closed _ conn wfds hung =>
      rw [closed] at opened
      cases opened
  | @recvMsg net l _ clientFds conn made wfds hung =>
      obtain ⟨reported, received⟩ :=
        Conn.receive_received net queues.receiving
      refine ⟨l, ?_⟩
      rw [Queues, conn, Conn.pushAll_pushed, received.same.pushed]
  | @sendMsg net msg outlet next _ clientFds front sent conn wfds hung =>
      obtain ⟨reported, chunk, transmitted⟩ := Conn.transmit_transmitted sent
      refine ⟨[], ?_⟩
      rw [Queues, conn, transmitted.pushed, List.append_nil]
  | closeConn closed conn wfds hung =>
      rw [closed] at opened'
      cases opened'
  | @other _ l elsewhere clientFds _ conn made wfds hung =>
      exact ⟨l, by rw [Queues, conn, Conn.pushAll_pushed]⟩

namespace Handles

variable {s s' : State ω} {step : Step} {fd : Fd} {conns : Connections ω}

theorem parsed (handles : Handles s step fd conns)
    (moved : s.next env step = .ok s') :
    conns.parse env fd = .ok s'.conns := by
  obtain ⟨net, rfl, complete, rfl⟩ := handles
  obtain ⟨⟨keep, after⟩, received, rest⟩ := Exec.of_bind_ok moved
  cases rest
  obtain ⟨_, ⟨closed, _⟩ | ⟨waiting, _⟩ | ⟨short, _⟩ | ⟨_, _, parsed⟩⟩ :=
    recvMsg_ok received
  · cases closed.symm.trans complete
  · cases waiting.symm.trans complete
  · cases short.symm.trans complete
  · exact parsed

end Handles

/-- The user has this connection, and no private text for everybody is handed
over. -/
def Attends (charset : Charset) (uid : Uid) (fd : Fd) (s : State ω)
    (step : Step) : Prop :=
  s.conns.fdToUid.lookup fd = some uid ∧ Discreet charset s step

instance (charset : Charset) (uid : Uid) (fd : Fd) (s : State ω) :
    DecidablePred (Attends charset uid fd s) := fun _ =>
  inferInstanceAs (Decidable (_ = _ ∧ Discreet _ _ _))

theorem Gets.of_deed {s s' : State ω} {step : Step} {fd : Fd} {uid : Uid}
    {deed : Deed} (reached : (machine env).Reachable s)
    (discreet : Discreet store.charset s step)
    (moved : s.next env step = .ok s')
    (bound : s.conns.fdToUid.lookup fd = some uid)
    {msgs : List Message} (queues : Queues s s' fd msgs)
    (means : Store.Means env s step deed)
    (done : store.service s'.conns = (store.service s.conns).next deed) :
    Gets uid fd s s' [deed] := by
  have rows : store.records.rows s'.conns.db =
      store.records.rows s.conns.db ++ deed.row.toList :=
    (congrArg Service.records done).trans (Service.next_records _ deed)
  cases deed with
  | write srcUid dstUid time message =>
      rcases means with ⟨target, conns, handles, frame⟩ | ⟨_, _, _, _, leaves⟩
      · have inverse := (sessions_invariant.holds reached).inverse
        have type : (conns.frame target).header.type = 0x13 := by
          cases frame with
          | write type => exact type
          | file asked mine succeeds file => cases file
        obtain ⟨fdToUid, uidToFd⟩ := handles.bindings
        obtain ⟨l, queued, conveyed⟩ := frame.texts
          (fdToUid ▸ uidToFd ▸ inverse) (fdToUid ▸ bound) type
          (handles.discreet discreet) (handles.parsed moved)
        rw [← queues.eq_sentTo (handles.pushed reached fd) queued] at conveyed
        exact ⟨msgs, queues, conveyed⟩
      · cases leaves
  | login | leave | change | offer | answer | count =>
      exact .of_kept reached discreet.legible moved
        (rows.trans (List.append_nil _)) queues rfl

theorem Gets.of_enacts {s s' : State ω} {steps : List Step} {fd : Fd}
    {uid : Uid} {deeds : List Deed} (reached : (plainly store).Reachable s)
    (enacts : Enacts ((plainly store).restrict (Attends store.charset uid fd))
      service (fun s => store.service s.conns) (Store.Means env) s steps deeds
      s')
    (bound : s'.conns.fdToUid.lookup fd = some uid) :
    s.conns.fdToUid.lookup fd = some uid ∧ Gets uid fd s s' deeds := by
  induction enacts with
  | nil s => exact ⟨bound, .refl uid fd s⟩
  | idle allowed moved same silent rest induction =>
      obtain ⟨later, gets⟩ := induction (.step reached allowed.1 moved) bound
      obtain ⟨⟨enabled, plain⟩, here, discreet⟩ := allowed
      have raw := reached.of_restrict
      obtain ⟨msgs, queues⟩ :=
        State.queues_of_bound raw enabled moved here later
      have records := congrArg Service.records same
      have nothing := @Gets.of_kept _ _ store _ _ _ fd uid raw
        discreet.legible moved records _ queues [] rfl
      exact ⟨here, nothing.trans gets⟩
  | @deed before middle after step steps deed deeds allowed moved meant
      possible done rest induction =>
      obtain ⟨later, gets⟩ := induction (.step reached allowed.1 moved) bound
      obtain ⟨⟨enabled, plain⟩, here, discreet⟩ := allowed
      have raw := reached.of_restrict
      obtain ⟨msgs, queues⟩ :=
        State.queues_of_bound raw enabled moved here later
      have one := Gets.of_deed raw discreet moved here queues meant
        (Except.ok.inj done).symm
      exact ⟨here, one.trans gets⟩

/-- While a user has a connection, whatever is done on the others: what the
steps do is stored in its order, and the texts queued to the connection are the
ones of it that are addressed to the user, each once and in the same order. -/
theorem texts_delivered (env : Env ω) (store : Store env) (uid : Uid) (fd : Fd)
    (s s' : State ω) (steps : List Step)
    (reached : (plainly store).Reachable s)
    (path : Path ((plainly store).restrict (Attends store.charset uid fd)) s
      steps s')
    (bound : s'.conns.fdToUid.lookup fd = some uid) :
    ∃ deeds, Enacts (plainly store) service (fun s => store.service s.conns)
        (Store.Means env) s steps deeds s' ∧
      store.records.rows s'.conns.db =
        store.records.rows s.conns.db ++ deeds.filterMap Deed.row ∧
      Gets uid fd s s' deeds := by
  obtain ⟨deeds, enacts⟩ := (server_refines env store).enacts path reached
  exact ⟨deeds, enacts.of_restrict, Service.records_after enacts.path,
    (Gets.of_enacts reached enacts bound).2⟩

def written (dstUid : Uid) (message : Buffer) : Message :=
  .ofData 0x13 (if dstUid = 0xFFFF then 0x01 else 0x00)
    (Buffer.ofWord dstUid ++ message)

/-- The first user writes to the second one, to everybody and to the third one,
who is not there; the second one writes to everybody. -/
def fourTexts : List Step :=
  [.recvMsg 4 [.data (written 2 (Buffer.ofText "hi")).wire],
    .recvMsg 4 [.data (written 0xFFFF (Buffer.ofText "all")).wire],
    .recvMsg 4 [.data (written 3 (Buffer.ofText "you")).wire],
    .recvMsg 5 [.data (written 0xFFFF (Buffer.ofText "me")).wire]]

/-- All of them are stored, and the second user gets two. -/
theorem texts_delivered_second : ∃ (s s' : State Tables.Whole)
    (deeds : List Deed), (deeds.filterMap Deed.row).length = 4 ∧
      (deeds.filter (Deed.addressed 2)).length = 2 ∧
      Gets 2 5 s s' deeds := by
  have replayed : ((plainly Tables.wholeStore).replay wholeStart
      (arrives 4 [loginFrame "a"] ++ arrives 5 [loginFrame "b"])).any (fun s =>
        s.conns.db.records.val = [] ∧
        (((plainly Tables.wholeStore).restrict (Attends .gbk 2
          5)).replay s fourTexts).any fun s' =>
            s'.conns.fdToUid.lookup 5 = some 2 ∧
            s'.conns.db.records.val.length = 4 ∧
            (((s'.conns.conns 5).history.pushed.drop
              (s.conns.conns 5).history.pushed.length).filter
                isText).length = 2) = true := by
    decide +kernel
  obtain ⟨s, reached, holds⟩ :=
    Machine.Reachable.of_replay replayed wholeStart_initial
  obtain ⟨empty, later⟩ := of_decide_eq_true holds
  obtain ⟨s', taken, ends⟩ := (Option.any_eq_true _ _).mp later
  obtain ⟨bound, four, two⟩ := of_decide_eq_true ends
  obtain ⟨deeds, _, rows, gets⟩ := texts_delivered Tables.wholeEnv
    Tables.wholeStore 2 5 s s' fourTexts reached (.of_replay taken) bound
  refine ⟨s, s', deeds, ?_, ?_, gets⟩
  · have stored : s'.conns.db.records.val =
        s.conns.db.records.val ++ deeds.filterMap Deed.row := rows
    rw [stored, empty] at four
    exact four
  · obtain ⟨msgs, queues, conveyed⟩ := gets
    rw [queues, List.drop_left] at two
    rw [← conveyed.length_eq]
    exact two

end GroupChat.Server
