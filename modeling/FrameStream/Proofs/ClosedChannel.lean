import FrameStream.Proofs.ChannelCalls

/-!
What is left of a channel once one of its ends is dropped. A send to the end that is gone is told
so. A receive at the other end is not: a queue stays open as long as the end it belongs to, which
can add to it, so a receive for which nothing is left waits until its time limit.
-/

namespace FrameStream

namespace ChannelCall

/-- What a receive would come to that is told that the channel is closed. -/
def toldClosed (_ : ChannelCall) : ChannelAnswer := fails (.closed "receive")

/-- What a call at an end whose peer is gone is answered, given the datagram that is next and the
answer to a receive for which none is left. -/
def answerAlone (exhausted : ChannelCall → ChannelAnswer) (next? : Option Bytes)
    (call : ChannelCall) : ChannelAnswer :=
  match call with
  | send _ => .sent (.error (.closed "send"))
  | inject _ | limitChunks _ => .done
  | receive size _ _ | look size _ _ _ =>
    match next? with
    | some datagram => .received (.answered (.ok (datagram.take size)))
    | none => exhausted call

variable {call : ChannelCall} {next? : Option Bytes}

theorem unserved_ne_toldClosed (receives : call.buffer? ≠ none) :
    call.unserved ≠ call.toldClosed := by
  cases call with
  | send | inject | limitChunks => exact absurd rfl receives
  | receive => simp [unserved, toldClosed, fails]
  | look size now limit deadline =>
    by_cases late : deadline ≤ now
    · simp [unserved, toldClosed, fails, late]
    · simp [unserved, toldClosed, fails, late]

theorem answerAlone_some (buffer : call.buffer? = some size)
    (exhausted : ChannelCall → ChannelAnswer) (datagram : Bytes) :
    call.answerAlone exhausted (some datagram) =
      .received (.answered (.ok (datagram.take size))) := by
  cases call with
  | send | inject | limitChunks => cases buffer
  | receive | look =>
    cases buffer
    rfl

theorem answerAlone_none (receives : call.buffer? ≠ none)
    (exhausted : ChannelCall → ChannelAnswer) : call.answerAlone exhausted none = exhausted call := by
  cases call with
  | send | inject | limitChunks => exact absurd rfl receives
  | receive | look => rfl

/-- What is answered when nothing is left does not matter while something is. -/
theorem answerAlone_congr (served : call.buffer? ≠ none → next? ≠ none)
    (exhausted other : ChannelCall → ChannelAnswer) :
    call.answerAlone exhausted next? = call.answerAlone other next? := by
  cases call with
  | send | inject | limitChunks => rfl
  | receive | look =>
    obtain ⟨datagram, rfl⟩ := Option.ne_none_iff_exists'.mp (served nofun)
    rfl

end ChannelCall

namespace Channel

open ChannelCall

/-- Each of some later deeds is answered in one way, given what is next for an end. -/
def Answers (answer : Option Bytes → ChannelCall → ChannelAnswer) (side : Side)
    (past later : List ChannelDeed) : Prop :=
  ∀ before deed rest, later = before ++ deed :: rest →
    deed.answer = answer (next? side (past ++ before)) deed.call

/-- No receive among some later deeds is made when nothing is left for an end. -/
def NeverRunsDry (side : Side) (past later : List ChannelDeed) : Prop :=
  ∀ before deed rest, later = before ++ deed :: rest → deed.call.buffer? ≠ none →
    next? side (past ++ before) ≠ none

section Alone

variable {channel : Channel} {side : Side} {call : ChannelCall} {received : List Bytes}
  {past later : List ChannelDeed} {deed : ChannelDeed}
  {answer : Option Bytes → ChannelCall → ChannelAnswer}

theorem answers_cons :
    Answers answer side past (deed :: later) ↔
      deed.answer = answer (next? side past) deed.call ∧
        Answers answer side (past ++ [deed]) later := by
  constructor
  · intro answered
    constructor
    · simpa using answered [] deed later rfl
    · intro before next rest split
      simpa using answered (deed :: before) next rest (by rw [split, List.cons_append])
  · rintro ⟨first, answered⟩ before next rest split
    cases before with
    | nil =>
      cases split
      simpa using first
    | cons head before =>
      cases split
      simpa using answered before next rest rfl

theorem sent_alone (gone : (channel.endpoint side.peer).isOpen = false) :
    ((channel.perform side call).1.endpoint side).sent = (channel.endpoint side).sent := by
  have performs := channel.performs side call
  generalize channel.perform side call = performed at performs ⊢
  cases performs with
  | sends isOpen => simp [gone] at isOpen
  | refused | misses => rfl
  | injects | limits | receives => simp [inject, setChunkLimit, endpoint_update]

theorem sent_after_alone (gone : (channel.endpoint side.peer).isOpen = false)
    (calls : List ChannelCall) :
    ((channel.after (calls.map (side, ·))).endpoint side).sent = (channel.endpoint side).sent := by
  induction calls generalizing channel with
  | nil => rfl
  | cons call calls inductionHypothesis =>
    exact (inductionHypothesis (isOpen_perform.trans gone)).trans (sent_alone gone)

/-- At an end whose peer is gone, a receive is answered by what is left. -/
theorem Accounts.answer_alone (accounts : channel.Accounts side received past)
    (gone : (channel.endpoint side.peer).isOpen = false) (call : ChannelCall) :
    (channel.perform side call).2 = call.answerAlone unserved (next? side past) := by
  have performs := channel.performs side call
  generalize channel.perform side call = performed at performs ⊢
  cases performs with
  | sends isOpen => simp [gone] at isOpen
  | refused | injects | limits => rfl
  | receives buffer waiting =>
    rw [accounts.next?_eq, waiting, List.head?_cons, answerAlone_some buffer]
  | misses buffer empty =>
    rw [accounts.next?_eq, empty, List.head?_nil, answerAlone_none (by simp [buffer])]

theorem Accounts.answers_alone (accounts : channel.Accounts side received past)
    (gone : (channel.endpoint side.peer).isOpen = false) (calls : List ChannelCall) :
    Answers (answerAlone unserved) side past (channel.deeds (calls.map (side, ·))) := by
  induction calls generalizing channel received past with
  | nil =>
    intro before deed rest split
    simp [Channel.deeds] at split
  | cons call calls inductionHypothesis =>
    obtain ⟨_, performed⟩ := accounts.perform side call
    refine answers_cons.mpr ⟨accounts.answer_alone gone call, ?_⟩
    exact inductionHypothesis performed (isOpen_perform.trans gone)

/-- Answers that leave a receive unserved when nothing is left are those that tell it that the
channel is closed exactly if this never happens. -/
theorem Answers.toldClosed_iff (answered : Answers (answerAlone unserved) side past later) :
    Answers (answerAlone toldClosed) side past later ↔ NeverRunsDry side past later := by
  constructor
  · intro told before deed rest split receives dry
    have differs := unserved_ne_toldClosed receives
    rw [← answerAlone_none receives unserved, ← answerAlone_none receives toldClosed, ← dry,
      ← answered before deed rest split, ← told before deed rest split] at differs
    exact differs rfl
  · intro lasts before deed rest split
    rw [answered before deed rest split]
    exact answerAlone_congr (lasts before deed rest split) unserved toldClosed

end Alone

section Close

variable (channel : Channel) (dropped : Side)

theorem endpoint_close :
    (channel.close dropped).endpoint dropped.peer = channel.endpoint dropped.peer := by
  cases dropped <;> rfl

theorem isOpen_close : ((channel.close dropped).endpoint dropped.peer.peer).isOpen = false := by
  cases dropped <;> rfl

end Close

/-- One end of a channel in memory is dropped after a run of calls at both ends. At the other end
every send fails from then on and is not put on record, and what came there, before and after, is
received in order, each datagram once, while anything is left. A receive for which nothing is left
is not told that the channel is closed but runs into its time limit, so the answers are those of a
channel that reports it exactly if no receive is made when nothing is left. -/
theorem toldClosed_iff_of_dropped (pathLimit : Nat) (before : List (Side × ChannelCall))
    (dropped : Side) (calls : List ChannelCall) :
    let survivor := dropped.peer
    let past := (inMemory pathLimit).deeds before
    let channel := ((inMemory pathLimit).after before).close dropped
    let alone := calls.map (survivor, ·)
    let later := channel.deeds alone
    ((channel.after alone).endpoint survivor).sent = departures survivor past ∧
      ReceivesInOrder survivor (past ++ later) ∧
      Answers (answerAlone unserved) survivor past later ∧
      (Answers (answerAlone toldClosed) survivor past later ↔
        NeverRunsDry survivor past later) := by
  intro survivor past channel alone later
  have start : (inMemory pathLimit).Accounts survivor [] [] := by
    cases dropped <;> exact ⟨rfl, .nil, rfl⟩
  obtain ⟨received, reached⟩ := start.after before
  have accounts : channel.Accounts survivor received past :=
    reached.of_endpoint_eq (endpoint_close _ dropped)
  have gone : (channel.endpoint survivor.peer).isOpen = false := isOpen_close _ dropped
  have answered := accounts.answers_alone gone calls
  obtain ⟨_, final⟩ := accounts.after alone
  refine ⟨?_, final.receivesInOrder, answered, answered.toldClosed_iff⟩
  rw [sent_after_alone gone, accounts.departures_eq]

/-- The peer sent one datagram and was dropped: the second receive times out. -/
theorem exhausted_receive_times_out :
    ¬ ∀ (pathLimit : Nat) (before : List (Side × ChannelCall)) (dropped : Side)
      (calls : List ChannelCall),
      let survivor := dropped.peer
      let past := (inMemory pathLimit).deeds before
      let channel := ((inMemory pathLimit).after before).close dropped
      let alone := calls.map (survivor, ·)
      ((channel.after alone).endpoint survivor).sent = departures survivor past ∧
        Answers (answerAlone toldClosed) survivor past (channel.deeds alone) := by
  intro claim
  let receive : ChannelCall := .receive 10 0 (.ofSeconds 1)
  have ⟨_, told⟩ := claim 1472 [(.device, .send [1, 2])] .device [receive, receive]
  have second := told [_] _ [] rfl
  cases second

end Channel

end FrameStream
