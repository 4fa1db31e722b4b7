import GroupChat.Server.Closing
import GroupChat.Server.Frames

namespace GroupChat.Server

/-! The messages that get out to a client as a whole. -/

variable {ω : Type} {env : Env ω}

theorem writeToFd_short (results : List WriteResult) {data : Buffer}
    (some : data ≠ []) (ended : (writeToFd results data).res ≤ 0) :
    (writeToFd results data).accepted.length < data.length := by
  have failed : (writeToFd results data).res = -1 →
      (writeToFd results data).accepted.length < data.length := by
    clear some ended
    induction results, data using writeToFd.induct with
    | case1 results => simp [writeToFd]
    | case2 first data => simp [writeToFd]
    | case3 results first data induction =>
        simpa [writeToFd, WriteOutcome.repeated] using induction
    | case4 results first data => simp [writeToFd]
    | case5 results first data => simp [writeToFd]
    | case6 results first data => simp [writeToFd]
    | case7 count results first data induction =>
        intro failed
        rw [writeToFd] at failed ⊢
        have inner : (writeToFd results (data.drop count)).res = -1 := by
          by_contra other
          rcases (writeToFd_spec results (data.drop count)).counts with
            counted | ended
          · simp only [WriteOutcome.after, if_neg other, List.length_cons]
              at failed
            omega
          · exact other ended.1
        have short := induction inner
        rw [List.length_drop] at short
        simp only [WriteOutcome.after, List.length_append, List.length_cons,
          List.length_take]
        omega
  have size : 0 < data.length := List.length_pos_iff.mpr some
  rcases (writeToFd_spec results data).counts with counted | ended
  · omega
  · exact failed ended.1

namespace Connections

theorem Forwarded.sized {frame msg : Message} (made : Forwarded frame msg) :
    msg.sized = true := by
  have back (length : UInt16) : ntohs (htons length) = length :=
    ntohs_htons length
  cases made with
  | text srcUid type kind size long =>
      have whole : (textMsg srcUid frame).data.length =
          frame.data.length := by
        simp only [textMsg, Buffer.overwrite, List.length_append,
          List.length_take, List.length_drop, Buffer.length_ofWord]
        omega
      rw [Message.sized, whole]
      simp only [textMsg, back]
      exact decide_eq_true size
  | file kind size long =>
      rw [Message.sized]
      simp only [transfileMsg, back]
      exact decide_eq_true size

theorem OwnLast.sized {msg : Message} (own : OwnLast msg) :
    msg.sized = true := by
  cases own with
  | shutdown => rfl
  | unknown type =>
      have none : ntohs (Message.netLength 0) = 4 := by decide
      exact decide_eq_true (by rw [unknownMsg, none]; rfl)
  | refused => rfl

theorem Made.sized {source : Message → Prop} {msg : Message}
    (made : Made source msg) (last : Conn.lastHeader msg.header = true) :
    msg.sized = true := by
  have own (made : Made (fun _ => False) msg) : msg.sized = true := by
    rcases made.last last with own | impostor
    · exact own.sized
    · obtain ⟨_, frame, impossible, _⟩ := impostor
      exact impossible.elim
  cases made with
  | answer made => exact own (.answer made)
  | welcome code uid primaryColor => exact own (.welcome code uid primaryColor)
  | list kind len bytes uids => exact own (.list kind len bytes uids)
  | shutdown => exact own .shutdown
  | online uid online => exact own (.online uid online)
  | forward origin made => exact made.sized

end Connections

namespace Conn

/-- Of a message that does not tell its length not even the header gets out,
unless the connection is closed behind it. -/
theorem transmit_sized {conn conn' : Conn} {msg : Message}
    {net : List WriteResult} {outlet : Outlet} (proper : conn.Sending msg)
    (sent : conn.transmit msg net = .ok (outlet, conn')) :
    msg.sized = true ∨ lastHeader msg.header = true ∨
      outlet ≠ .popped ∧ ∃ chunk,
        conn'.history.accepted = conn.history.accepted ++ chunk ∧
        (conn.progress msg ++ chunk).length < sizeofHeader := by
  cases header : conn.sendingHeader with
  | false =>
      simp only [transmit, header, Bool.false_eq_true, if_false] at sent
      exact .inl (sendData_sized sent)
  | true =>
      simp only [transmit, header, if_true] at sent
      have position := (sending_header header).mp proper
      have out : (conn.progress msg).length = conn.sendLen := by
        simp only [progress, header, if_true, List.length_take,
          Header.length_memory]
        exact Nat.min_eq_left (Nat.le_of_lt position)
      unfold sendHeader at sent
      dsimp only at sent
      generalize outEq : writeToFd net (msg.header.memory.drop conn.sendLen) =
        write at sent
      have spec : WriteSpec net (msg.header.memory.drop conn.sendLen) write :=
        outEq ▸ writeToFd_spec _ _
      have room : (msg.header.memory.drop conn.sendLen).length =
          sizeofHeader - conn.sendLen := by
        rw [List.length_drop, Header.length_memory]
        rfl
      split at sent
      · rename_i ended
        cases sent
        have short := writeToFd_short net (List.length_pos_iff.mp (by omega))
          (outEq ▸ ended)
        rw [outEq, room] at short
        refine .inr (.inr ⟨by decide, write.accepted, rfl, ?_⟩)
        rw [List.length_append, out]
        omega
      · rename_i going
        have counted : write.res.toNat = write.accepted.length := by
          rcases spec.counts with counted | ended <;> omega
        simp only [counted, wrote_sendLen] at sent
        split at sent
        · rename_i more
          cases sent
          refine .inr (.inr ⟨by decide, write.accepted, rfl, ?_⟩)
          rw [List.length_append, out]
          exact more
        · split at sent
          · exact .inr (.inl ‹_›)
          · exact .inl (sendData_sized sent)

end Conn

/-- What a connection has taken: whole messages, and the beginning of the next
one. -/
structure History.Delivers (history : History) (sent rest : List Message)
    (part : Buffer) : Prop where
  pushed : history.pushed = sent ++ rest
  accepted : history.accepted = streamOf sent ++ part
  sized : ∀ msg ∈ sent, msg.sized = true
  begun : part = [] ∨ ∃ msg ∈ rest.head?, part <+: msg.bytes ∧
    (part.length < sizeofHeader ∨ msg.sized = true)

namespace History.Delivers

variable {history : History} {sent rest : List Message} {part : Buffer}

theorem append (delivers : history.Delivers sent rest part)
    (msgs : List Message) :
    { history with pushed := history.pushed ++ msgs }.Delivers sent
      (rest ++ msgs) part where
  pushed := by rw [delivers.pushed, List.append_assoc]
  accepted := delivers.accepted
  sized := delivers.sized
  begun := by
    rcases delivers.begun with none | ⟨msg, front, begun⟩
    · exact .inl none
    · refine .inr ⟨msg, ?_, begun⟩
      rw [Option.mem_def] at front ⊢
      rw [List.head?_append, front]
      rfl

theorem congr {history' : History} (delivers : history.Delivers sent rest part)
    (pushed : history'.pushed = history.pushed)
    (accepted : history'.accepted = history.accepted) :
    history'.Delivers sent rest part :=
  ⟨pushed.trans delivers.pushed, accepted.trans delivers.accepted,
    delivers.sized, delivers.begun⟩

/-- A frame and a message at the front of one stream are the same bytes where
both tell their length. -/
theorem wire_eq_bytes {frame msg : Message} {behind behind' : Buffer}
    (announced : frame.header.length.toNat = sizeofHeader + frame.data.length)
    (sized : msg.sized = true)
    (same : frame.wire ++ behind = msg.bytes ++ behind') :
    frame.wire = msg.bytes ∧ behind = behind' := by
  have size := of_decide_eq_true sized
  rw [Message.wire, Message.bytes, List.append_assoc, List.append_assoc]
    at same
  have headers := (List.append_inj same rfl).1
  rw [← Header.wire_ntohs msg.header] at headers
  have length : frame.header.length = ntohs msg.header.length :=
    congrArg Header.length (Header.wire_injective headers)
  rw [← List.append_assoc, ← List.append_assoc] at same
  apply List.append_inj same
  rw [List.length_append, List.length_append, Header.length_wire,
    Header.length_memory]
  have lengths := congrArg UInt16.toNat length
  omega

/-- The frames at the front of what was taken are messages that were queued. -/
theorem taken (delivers : history.Delivers sent rest part)
    {frames : List Message} (announced : ∀ frame ∈ frames,
      frame.header.length.toNat = sizeofHeader + frame.data.length)
    (front : wireOf frames <+: history.accepted) :
    frames.map Message.wire <+: history.pushed.map Message.bytes := by
  obtain ⟨pushed, accepted, sized, begun⟩ := delivers
  rw [accepted] at front
  rw [pushed]
  clear pushed accepted
  induction frames generalizing sent with
  | nil => exact List.nil_prefix
  | cons frame frames induction =>
      rw [List.forall_mem_cons] at announced
      obtain ⟨behind, same⟩ := front
      rw [wireOf_cons, List.append_assoc] at same
      cases sent with
      | cons msg sent =>
          rw [List.forall_mem_cons] at sized
          rw [streamOf_cons, List.append_assoc] at same
          obtain ⟨here, next⟩ := wire_eq_bytes announced.1 sized.1 same
          simp only [List.map_cons, List.cons_append, here]
          exact List.cons_prefix_cons.mpr
            ⟨rfl, induction announced.2 ⟨behind, next⟩ sized.2⟩
      | nil =>
          rw [streamOf_nil, List.nil_append] at same
          have long : sizeofHeader ≤ part.length := by
            rw [← same, List.length_append, Message.wire, List.length_append,
              Header.length_wire]
            exact Nat.le_add_right_of_le (Nat.le_add_right 4 _)
          rcases begun with none | ⟨msg, first, ⟨missing, whole⟩, complete⟩
          · rw [none] at long
            exact absurd long (by decide)
          · have some : msg.sized = true :=
              complete.resolve_left (Nat.not_lt.mpr long)
            rw [← same, List.append_assoc] at whole
            obtain ⟨here, nothing⟩ := wire_eq_bytes announced.1 some
              (whole.trans (List.append_nil msg.bytes).symm)
            have ended : frames = [] := by
              cases frames with
              | nil => rfl
              | cons other frames =>
                  have size := congrArg List.length nothing
                  simp [Message.wire] at size
            rw [ended]
            cases rest with
            | nil => cases first
            | cons head rest =>
                cases first
                simp [here]

end History.Delivers

theorem Conn.transmit_delivers {conn conn' : Conn} {msg : Message}
    {net : List WriteResult} {outlet : Outlet} {sent : List Message}
    {part : Buffer}
    (delivers : conn.history.Delivers sent conn.sendQue part)
    (streaming : conn.Streaming false)
    (made : ∀ msg ∈ conn.sendQue, lastHeader msg.header = true →
      msg.sized = true)
    (front : conn.sendQue.head? = some msg)
    (moved : conn.transmit msg net = .ok (outlet, conn')) :
    ∃ sent' part', conn'.history.Delivers sent' conn'.sendQue part' := by
  obtain ⟨reported, chunk, transmitted⟩ := transmit_transmitted moved
  obtain ⟨sent', pushed, _, _, aligned⟩ := streaming
  have same : sent' = sent := by
    rw [delivers.pushed] at pushed
    exact (List.append_cancel_right pushed).symm
  subst same
  cases aligned rfl with
  | idle sendQue header start out =>
      rw [sendQue] at front
      cases front
  | @busy first rest sendQue proper out =>
      rw [sendQue] at front
      cases front
      have accepted : conn'.history.accepted =
          streamOf sent' ++ (conn.progress msg ++ chunk) := by
        rw [transmitted.accepted, out, List.append_assoc]
      have sized : msg.sized = true ∨ outlet ≠ .popped ∧
          (conn.progress msg ++ chunk).length < sizeofHeader := by
        rcases transmit_sized proper moved with sized | last | short
        · exact .inl sized
        · exact .inl (made msg (by rw [sendQue]; exact List.mem_cons_self)
            last)
        · obtain ⟨unfinished, chunk', written, short⟩ := short
          rw [transmitted.accepted] at written
          rw [List.append_cancel_left written]
          exact .inr ⟨unfinished, short⟩
      by_cases done : outlet = .popped
      · obtain ⟨whole, _, _, tail⟩ := transmitted.popped done
        rw [sendQue, List.tail_cons] at tail
        have complete : msg.sized = true :=
          sized.resolve_right fun unfinished => unfinished.1 done
        refine ⟨sent' ++ [msg], [], ?_, ?_, ?_, .inl rfl⟩
        · rw [transmitted.pushed, pushed, sendQue, tail]
          simp
        · rw [accepted, whole, streamOf_append]
          simp [streamOf]
        · intro other member
          rcases List.mem_append.mp member with before | last
          · exact delivers.sized other before
          · rw [List.mem_singleton.mp last]
            exact complete
      · have queue := transmitted.kept done
        refine ⟨sent', conn.progress msg ++ chunk, ?_, accepted,
          delivers.sized, .inr ⟨msg, ?_, transmitted.within, ?_⟩⟩
        · rw [transmitted.pushed, queue, pushed]
        · rw [queue, sendQue]
          rfl
        · rcases sized with complete | short
          · exact .inr complete
          · exact .inl short.2

theorem queued_sized {s : State ω} (reached : (machine env).Reachable s)
    (fd : Fd) : ∀ msg ∈ (s.conns.conns fd).sendQue,
      Conn.lastHeader msg.header = true → msg.sized = true := by
  intro msg member last
  have made := (made_invariant fun _ => True).holds
    (reached.to_restrict fun _ _ _ _ => trivial) fd msg member
  exact made.sized last

theorem delivers_invariant : (orderly env).Invariant fun s =>
    ∀ fd, s.clientFds fd = true → ∃ sent part,
      (s.conns.conns fd).history.Delivers sent (s.conns.conns fd).sendQue
        part where
  start := by
    intro s first fd opened
    obtain ⟨db, size, rfl⟩ := first
    cases opened
  kept := by
    intro before step after reached delivers allowed moved fd opened
    have raw := reached.of_restrict
    have queues := queues_invariant.holds raw fd
    have orderly : before.Orderly step := allowed.2
    cases State.moves (sessions_invariant.holds raw) allowed.1 moved fd with
    | accept closed opened conn wfds hung =>
        refine ⟨[], [], ?_⟩
        rw [conn, (queues.resting closed).sendQue]
        exact ⟨rfl, rfl, by simp, .inl rfl⟩
    | @recvMsg net l opened clientFds conn made wfds hung =>
        obtain ⟨sent, part, delivers⟩ := delivers fd opened
        obtain ⟨reported, received⟩ :=
          Conn.receive_received net queues.receiving
        rw [conn, Conn.pushAll_sendQue, received.same.sendQue]
        exact ⟨sent, part, (delivers.congr received.same.pushed
          received.same.accepted).append l⟩
    | @sendMsg net msg outlet next opened clientFds front sent conn wfds
        hung =>
        obtain ⟨_, _, delivers⟩ := delivers fd opened
        have streaming := streaming_invariant.holds reached fd opened
        have going : before.hung fd = false := orderly
        rw [going] at streaming
        rw [conn]
        exact Conn.transmit_delivers delivers streaming
          (queued_sized raw fd) front sent
    | closeConn closed conn wfds hung =>
        rw [closed] at opened
        contradiction
    | @other _ l elsewhere clientFds _ conn made wfds hung =>
        obtain ⟨sent, part, delivers⟩ := delivers fd (clientFds ▸ opened)
        rw [conn]
        exact ⟨sent, part, delivers.append l⟩

end GroupChat.Server
