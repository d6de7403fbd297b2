import FrameStream.Session.Port
import Mathlib.Data.List.Forall2

namespace FrameStream

namespace Side

@[simp]
theorem peer_peer (side : Side) : side.peer.peer = side := by
  cases side <;> rfl

theorem peer_eq_iff {side other : Side} : side.peer = other ↔ side ≠ other := by
  cases side <;> cases other <;> decide

end Side

inductive ChannelCall where
  | send (payload : Bytes)
  | inject (datagram : Bytes)
  | limitChunks (bytes : Nat)
  /-- Receives, from a moment on; no other call is made while this one waits. -/
  | receive (size now : Nat) (limit : Duration)
  /-- Looks once at a receive that waits until a deadline; others may call between two looks. -/
  | look (size now : Nat) (limit : Duration) (deadline : Nat)
  deriving DecidableEq, Repr

inductive ChannelAnswer where
  | done
  | sent (result : Except TransportError Nat)
  | received (outcome : CallOutcome TransportError Bytes)

/-- A call at an end and what it was answered. -/
structure ChannelDeed where
  side : Side
  call : ChannelCall
  answer : ChannelAnswer

namespace ChannelCall

def buffer? : ChannelCall → Option Nat
  | receive size _ _ | look size _ _ _ => some size
  | _ => none

def fails (error : TransportError) : ChannelAnswer := .received (.answered (.error error))

/-- What a receive comes to for which nothing is there. -/
def unserved : ChannelCall → ChannelAnswer
  | receive _ _ limit => fails (.timeout "receive" limit)
  | look _ now limit deadline =>
    if deadline ≤ now then fails (.timeout "receive" limit)
    else .received (.pending (.due deadline))
  | _ => .done

end ChannelCall

namespace ChannelDeed

/-- The datagram that a call brought to an end, as far as it was accepted. -/
def arrival? (side : Side) (deed : ChannelDeed) : Option Bytes :=
  match deed.call, deed.answer with
  | .send payload, .sent (.ok count) =>
    if deed.side.peer = side then some (payload.take count) else none
  | .inject datagram, _ => if deed.side = side then some datagram else none
  | _, _ => none

/-- The datagram that an end sent, as far as it was accepted. -/
def departure? (side : Side) (deed : ChannelDeed) : Option Bytes :=
  match deed.call, deed.answer with
  | .send payload, .sent (.ok count) =>
    if deed.side = side then some (payload.take count) else none
  | _, _ => none

/-- The size of the buffer at an end and what was received into it. -/
def receipt? (side : Side) (deed : ChannelDeed) : Option (Nat × Bytes) :=
  match deed.call.buffer?, deed.answer with
  | some size, .received (.answered (.ok datagram)) =>
    if deed.side = side then some (size, datagram) else none
  | _, _ => none

variable {deed : ChannelDeed} {side actor : Side} {call : ChannelCall}

theorem arrival?_of_buffer (buffer : deed.call.buffer? = some size) :
    deed.arrival? side = none := by
  obtain ⟨actor, call, answer⟩ := deed
  cases call with
  | send | inject | limitChunks => cases buffer
  | receive | look => rfl

theorem departure?_of_buffer (buffer : deed.call.buffer? = some size) :
    deed.departure? side = none := by
  obtain ⟨actor, call, answer⟩ := deed
  cases call with
  | send | inject | limitChunks => cases buffer
  | receive | look => rfl

theorem receipt?_of_unserved : receipt? side ⟨actor, call, call.unserved⟩ = none := by
  cases call with
  | send | inject | limitChunks | receive => rfl
  | look size now limit deadline =>
    by_cases late : deadline ≤ now
    · simp [receipt?, ChannelCall.buffer?, ChannelCall.unserved, ChannelCall.fails, late]
    · simp [receipt?, ChannelCall.buffer?, ChannelCall.unserved, late]

end ChannelDeed

namespace Channel

def perform (channel : Channel) (side : Side) (call : ChannelCall) : Channel × ChannelAnswer :=
  match call with
  | .send payload =>
    let sent := channel.send side payload
    (sent.1, .sent sent.2)
  | .inject datagram => (channel.inject side datagram, .done)
  | .limitChunks bytes => (channel.setChunkLimit side bytes, .done)
  | .receive size now limit =>
    let received := channel.receiveWithin side size now limit
    (received.2.1, .received (.answered received.2.2))
  | .look size now limit deadline =>
    let looked := Port.await ⟨side, []⟩ channel now limit size deadline
    (looked.1, .received looked.2)

def after (channel : Channel) (calls : List (Side × ChannelCall)) : Channel :=
  calls.foldl (fun channel entry => (channel.perform entry.1 entry.2).1) channel

def deeds : Channel → List (Side × ChannelCall) → List ChannelDeed
  | _, [] => []
  | channel, (side, call) :: calls =>
    let performed := channel.perform side call
    ⟨side, call, performed.2⟩ :: performed.1.deeds calls

def arrivals (side : Side) (deeds : List ChannelDeed) : List Bytes :=
  deeds.filterMap (·.arrival? side)

def departures (side : Side) (deeds : List ChannelDeed) : List Bytes :=
  deeds.filterMap (·.departure? side)

def receipts (side : Side) (deeds : List ChannelDeed) : List (Nat × Bytes) :=
  deeds.filterMap (·.receipt? side)

/-- The oldest datagram that came to an end and was not received there. -/
def next? (side : Side) (deeds : List ChannelDeed) : Option Bytes :=
  (arrivals side deeds)[(receipts side deeds).length]?

/-- A datagram was received as far as the buffer holds it. -/
def IsCut (datagram : Bytes) (receipt : Nat × Bytes) : Prop :=
  receipt.2 = datagram.take receipt.1

/-- What was received at an end is what came there first, in order, each datagram once. -/
def ReceivesInOrder (side : Side) (deeds : List ChannelDeed) : Prop :=
  List.Forall₂ IsCut ((arrivals side deeds).take (receipts side deeds).length)
    (receipts side deeds)

theorem endpoint_update (channel : Channel) (side actor : Side) (change : Endpoint → Endpoint) :
    (channel.update actor change).endpoint side =
      if actor = side then change (channel.endpoint side) else channel.endpoint side := by
  cases side <;> cases actor <;> rfl

/-- All that a call can do to a channel. -/
inductive Performs (channel : Channel) (actor : Side) :
    ChannelCall → Channel × ChannelAnswer → Prop where
  | sends (isOpen : (channel.endpoint actor.peer).isOpen = true) (payload : Bytes)
      (takes : count = Endpoint.accepted (channel.endpoint actor) payload.length) :
      Performs channel actor (.send payload)
        ((channel.update actor fun endpoint =>
            { endpoint with sent := endpoint.sent ++ [payload.take count] }).inject actor.peer
          (payload.take count), .sent (.ok count))
  | refused (isClosed : (channel.endpoint actor.peer).isOpen = false) (payload : Bytes) :
      Performs channel actor (.send payload) (channel, .sent (.error (.closed "send")))
  | injects (datagram : Bytes) :
      Performs channel actor (.inject datagram) (channel.inject actor datagram, .done)
  | limits (bytes : Nat) :
      Performs channel actor (.limitChunks bytes) (channel.setChunkLimit actor bytes, .done)
  | receives (buffer : ChannelCall.buffer? call = some size)
      (waiting : (channel.endpoint actor).inbox = datagram :: rest) :
      Performs channel actor call
        (channel.update actor fun endpoint => { endpoint with inbox := rest },
          .received (.answered (.ok (datagram.take size))))
  | misses (buffer : ChannelCall.buffer? call = some size)
      (empty : (channel.endpoint actor).inbox = []) :
      Performs channel actor call (channel, call.unserved)

section Effects

variable {channel : Channel} {side actor : Side} {call : ChannelCall}

theorem receive?_nil (empty : (channel.endpoint side).inbox = []) (size : Nat) :
    channel.receive? side size = none := by
  rw [receive?, empty]

theorem receive?_cons (waiting : (channel.endpoint side).inbox = datagram :: rest) (size : Nat) :
    channel.receive? side size =
      some (channel.update side fun endpoint => { endpoint with inbox := rest },
        datagram.take size) := by
  rw [receive?, waiting]

theorem performs (channel : Channel) (actor : Side) (call : ChannelCall) :
    channel.Performs actor call (channel.perform actor call) := by
  cases call with
  | send payload =>
    simp only [perform, send]
    by_cases isOpen : (channel.endpoint actor.peer).isOpen = true
    · rw [if_pos isOpen]
      exact .sends isOpen payload rfl
    · rw [if_neg isOpen]
      exact .refused (Bool.eq_false_iff.mpr isOpen) payload
  | inject datagram => exact .injects datagram
  | limitChunks bytes => exact .limits bytes
  | receive size now limit =>
    simp only [perform, receiveWithin]
    cases waiting : (channel.endpoint actor).inbox with
    | nil =>
      have misses : channel.Performs actor (.receive size now limit) _ := .misses rfl waiting
      rw [receive?_nil waiting]
      exact misses
    | cons datagram rest =>
      rw [receive?_cons waiting]
      exact .receives rfl waiting
  | look size now limit deadline =>
    simp only [perform, Port.await]
    cases waiting : (channel.endpoint actor).inbox with
    | nil =>
      have misses : channel.Performs actor (.look size now limit deadline) _ := .misses rfl waiting
      rw [receive?_nil waiting]
      by_cases late : deadline ≤ now
      · simpa [ChannelCall.unserved, ChannelCall.fails, late] using misses
      · simpa [ChannelCall.unserved, late] using misses
    | cons datagram rest =>
      rw [receive?_cons waiting]
      exact .receives rfl waiting

/-- Calls close no end. -/
theorem isOpen_perform :
    ((channel.perform actor call).1.endpoint side).isOpen = (channel.endpoint side).isOpen := by
  have performs := channel.performs actor call
  generalize channel.perform actor call = performed at performs ⊢
  cases performs with
  | sends | injects | limits | receives =>
    simp only [inject, setChunkLimit, endpoint_update]
    repeat' split
    all_goals rfl
  | refused | misses => rfl

end Effects

section Accounts

variable {channel : Channel} {side actor : Side} {call : ChannelCall} {received : List Bytes}
  {past deeds : List ChannelDeed} {deed : ChannelDeed}

@[simp]
theorem arrivals_snoc :
    arrivals side (deeds ++ [deed]) = arrivals side deeds ++ (deed.arrival? side).toList := by
  rw [arrivals, List.filterMap_append, ← arrivals]
  cases arrived : deed.arrival? side <;> simp [arrived]

@[simp]
theorem departures_snoc :
    departures side (deeds ++ [deed]) = departures side deeds ++ (deed.departure? side).toList := by
  rw [departures, List.filterMap_append, ← departures]
  cases departed : deed.departure? side <;> simp [departed]

@[simp]
theorem receipts_snoc :
    receipts side (deeds ++ [deed]) = receipts side deeds ++ (deed.receipt? side).toList := by
  rw [receipts, List.filterMap_append, ← receipts]
  cases receipt : deed.receipt? side <;> simp [receipt]

/-- What came to an end is what was received there and, after it, what waits there. What the end
has on record is what it sent. -/
structure Accounts (channel : Channel) (side : Side) (received : List Bytes)
    (deeds : List ChannelDeed) : Prop where
  arrivals_eq : arrivals side deeds = received ++ (channel.endpoint side).inbox
  received_cut : List.Forall₂ IsCut received (receipts side deeds)
  departures_eq : departures side deeds = (channel.endpoint side).sent

namespace Accounts

theorem receivesInOrder (accounts : channel.Accounts side received deeds) :
    ReceivesInOrder side deeds := by
  rw [ReceivesInOrder, accounts.arrivals_eq, ← accounts.received_cut.length_eq, List.take_left]
  exact accounts.received_cut

theorem next?_eq (accounts : channel.Accounts side received deeds) :
    next? side deeds = (channel.endpoint side).inbox.head? := by
  rw [next?, accounts.arrivals_eq, ← accounts.received_cut.length_eq,
    List.getElem?_append_right (Nat.le_refl _), Nat.sub_self, List.head?_eq_getElem?]

theorem of_endpoint_eq (accounts : channel.Accounts side received deeds) {next : Channel}
    (same : next.endpoint side = channel.endpoint side) : next.Accounts side received deeds := by
  constructor
  · rw [same, accounts.arrivals_eq]
  · exact accounts.received_cut
  · rw [same, accounts.departures_eq]

theorem extend (accounts : channel.Accounts side received deeds) {next : Channel}
    (inbox_eq : (next.endpoint side).inbox =
      (channel.endpoint side).inbox ++ (deed.arrival? side).toList)
    (sent_eq : (next.endpoint side).sent =
      (channel.endpoint side).sent ++ (deed.departure? side).toList)
    (receipt_eq : deed.receipt? side = none) : next.Accounts side received (deeds ++ [deed]) := by
  constructor
  · rw [arrivals_snoc, accounts.arrivals_eq, inbox_eq, List.append_assoc]
  · simpa [receipt_eq] using accounts.received_cut
  · rw [departures_snoc, accounts.departures_eq, sent_eq]

theorem receive (accounts : channel.Accounts side received deeds)
    (buffer : call.buffer? = some size)
    (waiting : (channel.endpoint side).inbox = datagram :: rest) :
    (channel.update side fun endpoint => { endpoint with inbox := rest }).Accounts side
      (received ++ [datagram])
      (deeds ++ [⟨side, call, .received (.answered (.ok (datagram.take size)))⟩]) := by
  constructor
  · simp [ChannelDeed.arrival?_of_buffer, buffer, endpoint_update, accounts.arrivals_eq, waiting]
  · have fits : List.Forall₂ IsCut [datagram] [(size, datagram.take size)] := .cons rfl .nil
    simpa [ChannelDeed.receipt?, buffer] using List.rel_append accounts.received_cut fits
  · simp [ChannelDeed.departure?_of_buffer, buffer, endpoint_update, accounts.departures_eq]

/-- Every call, by whichever end, keeps the accounts of an end. -/
theorem perform (accounts : channel.Accounts side received deeds) (actor : Side)
    (call : ChannelCall) :
    let performed := channel.perform actor call
    ∃ received, performed.1.Accounts side received (deeds ++ [⟨actor, call, performed.2⟩]) := by
  intro performed
  have performs : channel.Performs actor call performed := channel.performs actor call
  clear_value performed
  cases performs with
  | sends isOpen payload takes =>
    refine ⟨received, accounts.extend ?_ ?_ rfl⟩
    all_goals
      by_cases own : actor = side <;>
        simp [ChannelDeed.arrival?, ChannelDeed.departure?, inject, endpoint_update,
          Side.peer_eq_iff, own]
  | refused isClosed payload =>
    refine ⟨received, accounts.extend ?_ ?_ rfl⟩
    all_goals simp [ChannelDeed.arrival?, ChannelDeed.departure?]
  | injects datagram =>
    refine ⟨received, accounts.extend ?_ ?_ rfl⟩
    all_goals
      by_cases own : actor = side <;>
        simp [ChannelDeed.arrival?, ChannelDeed.departure?, inject, endpoint_update, own]
  | limits bytes =>
    refine ⟨received, accounts.extend ?_ ?_ rfl⟩
    all_goals
      by_cases own : actor = side <;>
        simp [ChannelDeed.arrival?, ChannelDeed.departure?, setChunkLimit, endpoint_update, own]
  | receives buffer waiting =>
    by_cases own : actor = side
    · subst own
      exact ⟨_, accounts.receive buffer waiting⟩
    · refine ⟨received, accounts.extend ?_ ?_ ?_⟩
      · simp [ChannelDeed.arrival?_of_buffer, buffer, endpoint_update, own]
      · simp [ChannelDeed.departure?_of_buffer, buffer, endpoint_update, own]
      · simp [ChannelDeed.receipt?, buffer, own]
  | misses buffer empty =>
    refine ⟨received, accounts.extend ?_ ?_ ChannelDeed.receipt?_of_unserved⟩
    · simp [ChannelDeed.arrival?_of_buffer, buffer]
    · simp [ChannelDeed.departure?_of_buffer, buffer]

theorem after (accounts : channel.Accounts side received past) (calls : List (Side × ChannelCall)) :
    ∃ received, (channel.after calls).Accounts side received (past ++ channel.deeds calls) := by
  induction calls generalizing channel received past with
  | nil => exact ⟨received, by rwa [Channel.deeds, List.append_nil]⟩
  | cons entry calls inductionHypothesis =>
    obtain ⟨actor, call⟩ := entry
    obtain ⟨received, accounts⟩ := accounts.perform actor call
    obtain ⟨received, accounts⟩ := inductionHypothesis accounts
    exact ⟨received, by rwa [List.append_assoc] at accounts⟩

end Accounts

end Accounts

end Channel

end FrameStream
