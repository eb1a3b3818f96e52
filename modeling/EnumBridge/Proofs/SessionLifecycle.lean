import EnumBridge.Proofs.RelayedStream

/-!
# The life of a session

A session has a stage, the link that it will hand its request to, and the stream below.  As
`SessionParts` each of the three is kept for itself and changed on its own, and what happens to
the link and to the stream is listed as it happens (`Act`).  `poll_ofSession` says that this
comes to the same as `Session.poll`: the same answers, the same events, and of all combinations
of the three parts only those that a `Session` can be in.

The main statement is `session_lifecycle`: what the stage says about the answers given so far,
and that over a whole run, which ends with the session being dropped, the request is handed on
at most once, the stream below is not polled behind its last answer, and it is released once.
-/

set_option autoImplicit false

namespace EnumBridge

/-! ## Acts -/

/-- What a session does to the hop behind it, and what it reports. -/
inductive Act (σ : Type)
  | note (note : Note)
  | forward (request : Request)
  | poll (stream : σ)
  | release (stream : σ)

namespace Act

variable {σ : Type}

/-- The events that an act leads to. -/
def events (hop : Hop σ) : Act σ → List Event
  | .note reported => [.note reported]
  | .forward request => (hop.forward request).events
  | .poll stream => (hop.poll stream).events
  | .release stream => (hop.release stream).events

/-- The request that an act hands on. -/
def forwarded? : Act σ → Option Request
  | .forward request => some request
  | _ => none

/-- The stream that an act polls, in the state before. -/
def polled? : Act σ → Option σ
  | .poll stream => some stream
  | _ => none

/-- The stream that an act releases. -/
def released? : Act σ → Option σ
  | .release stream => some stream
  | _ => none

/-- Reported notes lead to these notes and to nothing else. -/
theorem flatMap_events_notes (hop : Hop σ) (notes : List Note) :
    (notes.map Act.note).flatMap (events hop) = notes.map Event.note := by
  induction notes with
  | nil => rfl
  | cons note rest ih => simp [events, ih]

/-- Reporting is not doing. -/
theorem filterMap_notes {α : Type} {f : Act σ → Option α} (h : ∀ note, f (.note note) = none)
    (notes : List Note) : (notes.map Act.note).filterMap f = [] := by
  simp [List.filterMap_map, h]

end Act

/-! ## The parts of a session -/

/-- How far a session has come. -/
inductive Stage
  | idle
  | pending
  | emitting
  | closed
  deriving DecidableEq

/-- A session in three parts, which are changed one at a time. -/
structure SessionParts (σ : Type) where
  stage : Stage
  /-- The link that the request is to be handed to. -/
  next : Option (Request → Traced Event (Except RelayError σ))
  /-- The stream below. -/
  below : Option σ

namespace SessionParts

variable {σ : Type}

/-- Whether nothing is to come of a session any more. -/
def isTerminated (parts : SessionParts σ) : Bool := decide (parts.stage = .closed)

/-- Drops a session; what it still holds is released. -/
def drop (parts : SessionParts σ) : Traced (Act σ) Unit :=
  match parts.below with
  | some below => Traced.report (.release below)
  | none => pure ()

/-- Lets go of the link and of the stream below. -/
def close (parts : SessionParts σ) : Traced (Act σ) (SessionParts σ) := do
  parts.drop
  pure { stage := .closed, next := none, below := none }

/-- What is reported of a request that is handed on. -/
def forwardingNote (request : Request) : Note :=
  ⟨.trace, "Forwarding operation " ++ Text.quotedOption request.operationName ++
    " with serialized variables."⟩

/-- Takes the link and hands the serialized request to it. -/
def start (bridge : Bridge) (request : Request) (parts : SessionParts σ) :
    Traced (Act σ) (Except RelayError Unit × SessionParts σ) :=
  match parts.next with
  | none => pure (.ok (), { parts with stage := .pending })
  | some forward => do
    let parts := { parts with stage := .pending, next := none }
    match ← (bridge.serializeRequest request).run.mapEvents .note with
    | .error error => pure (.error (.bridge error), parts)
    | .ok serialized => do
      Traced.report (.note (forwardingNote serialized))
      Traced.report (.forward serialized)
      match (forward serialized).value with
      | .error error => pure (.error error, parts)
      | .ok below => pure (.ok (), { parts with below := some below })

/-- Polls the stream below; without one the session is over. -/
def advance (bridge : Bridge) (request : Request) (hop : Hop σ) (parts : SessionParts σ) :
    Traced (Act σ) (Poll × SessionParts σ) :=
  match parts.below with
  | none => do
    let parts ← parts.close
    pure (.finished, parts)
  | some below => do
    Traced.report (.poll below)
    let parts := { parts with below := some (hop.poll below).value.2 }
    match (hop.poll below).value.1 with
    | .pending => pure (.pending, parts)
    | .response response => do
      let response ← (bridge.parseResponse request response).mapEvents .note
      pure (.response response, { parts with stage := .emitting })
    | .failure error => do
      let parts ← parts.close
      pure (.failure error, parts)
    | .finished => do
      let parts ← parts.close
      pure (.finished, parts)

/-- Polls a session. -/
def poll (bridge : Bridge) (request : Request) (hop : Hop σ) (parts : SessionParts σ) :
    Traced (Act σ) (Poll × SessionParts σ) :=
  if parts.stage = .idle then do
    let (started, parts) ← parts.start bridge request
    match started with
    | .error error => do
      let parts ← parts.close
      pure (.failure error, parts)
    | .ok () => parts.advance bridge request hop
  else parts.advance bridge request hop

/-- The parts of a session. -/
def ofSession (hop : Hop σ) : Session σ → SessionParts σ
  | .idle => ⟨.idle, some hop.forward, none⟩
  | .pending below => ⟨.pending, none, some below⟩
  | .emitting below => ⟨.emitting, none, some below⟩
  | .closed => ⟨.closed, none, none⟩

variable (bridge : Bridge) (request : Request) (hop : Hop σ)

/-- A poll of a stream that is held gives the same answer, leaves the same session and leads to the
same events, whether the session is kept in parts or as a whole. -/
theorem advance_of_below (stage : Stage) (waiting : σ → Session σ)
    (hwaiting : ∀ below, ofSession hop (waiting below) = ⟨stage, none, some below⟩) (below : σ) :
    (advance bridge request hop ⟨stage, none, some below⟩).value =
        ((Session.advance bridge request hop waiting below).value.1,
          ofSession hop (Session.advance bridge request hop waiting below).value.2) ∧
      (advance bridge request hop ⟨stage, none, some below⟩).events.flatMap (Act.events hop) =
        (Session.advance bridge request hop waiting below).events := by
  unfold advance Session.advance
  simp only [Traced.value_bind, Traced.events_bind, Traced.events_report]
  cases (hop.poll below).value.1 with
  | pending => simp [Act.events, hwaiting]
  | response response => simp [Act.events, Act.flatMap_events_notes, ofSession]
  | failure error => simp [Act.events, close, drop, ofSession]
  | finished => simp [Act.events, close, drop, ofSession]

/-- **A session polled in parts** gives the same answer, leaves the parts of the session that is
left, and leads to the same events. -/
theorem poll_ofSession (session : Session σ) :
    (poll bridge request hop (ofSession hop session)).value =
        ((Session.poll bridge request hop session).value.1,
          ofSession hop (Session.poll bridge request hop session).value.2) ∧
      (poll bridge request hop (ofSession hop session)).events.flatMap (Act.events hop) =
        (Session.poll bridge request hop session).events := by
  cases session with
  | idle =>
    have hadvance (below : σ) := advance_of_below bridge request hop .pending .pending
      (fun _ => rfl) below
    unfold poll Session.poll start Session.start ofSession
    simp only [if_true, Traced.value_bind, Traced.events_bind, Traced.value_mapEvents,
      Traced.events_mapEvents]
    cases (bridge.serializeRequest request).run.value with
    | error error => simp [close, drop, Act.flatMap_events_notes]
    | ok serialized =>
      simp only [Traced.value_bind, Traced.events_bind, Traced.events_report]
      cases (hop.forward serialized).value with
      | error error => simp [close, drop, Act.events, Act.flatMap_events_notes, forwardingNote]
      | ok below =>
        simpa [Act.events, Act.flatMap_events_notes, forwardingNote, ofSession] using hadvance below
  | pending below =>
    exact advance_of_below bridge request hop .pending .pending (fun _ => rfl) below
  | emitting below =>
    exact advance_of_below bridge request hop .emitting .emitting (fun _ => rfl) below
  | closed => exact ⟨rfl, rfl⟩

end SessionParts

/-! ## Runs -/

namespace Hop

variable {σ : Type} (hop : Hop σ)

/-- The state of a stream behind some polls. -/
def after (stream : σ) : Nat → σ
  | 0 => stream
  | n + 1 => (hop.poll (after stream n)).value.2

/-- The events of some polls of a stream, one after the other. -/
def eventsOfPolls (stream : σ) : Nat → List Event
  | 0 => []
  | n + 1 => eventsOfPolls stream n ++ (hop.poll (hop.after stream n)).events

/-- The polls behind a first one go on where that one has left the stream. -/
theorem after_poll (stream : σ) (n : Nat) :
    hop.after (hop.poll stream).value.2 n = hop.after stream (n + 1) := by
  induction n with
  | zero => rfl
  | succ n ih => rw [after, ih, ← after]

/-- The answers behind some polls are those of the stream as these have left it. -/
theorem answers_add (stream : σ) (n k : Nat) :
    hop.answers stream (n + k) = hop.answers (hop.after stream n) k := by
  induction n generalizing stream with
  | zero => rw [Nat.zero_add, after]
  | succ n ih =>
    have hnext : n + 1 + k = (n + k) + 1 := by omega
    rw [hnext, answers, ih, after_poll]

/-- An answer is that of a poll of the stream as the polls before have left it. -/
theorem answers_eq (stream : σ) (n : Nat) :
    hop.answers stream n = (hop.poll (hop.after stream n)).value.1 := by
  have h := hop.answers_add stream n 0
  rw [Nat.add_zero] at h
  rw [h, answers]

end Hop

namespace SessionParts

variable {σ : Type} (bridge : Bridge) (request : Request) (hop : Hop σ)

/-- The parts of a session behind some polls. -/
def after : Nat → SessionParts σ
  | 0 => ofSession hop .idle
  | n + 1 => (poll bridge request hop (after n)).value.2

/-- What a session does during its first polls. -/
def acts : Nat → List (Act σ)
  | 0 => []
  | n + 1 => acts n ++ (poll bridge request hop (after bridge request hop n)).events

/-- What a session does that is polled some times and then dropped. -/
def run (n : Nat) : List (Act σ) :=
  acts bridge request hop n ++ (after bridge request hop n).drop.events

/-- The session behind some polls. -/
def sessionAfter (n : Nat) : Session σ := ((bridge.over hop).after (request, .idle) n).2

/-- The stream of a bridge keeps its request and goes through the states of its session. -/
theorem after_over (n : Nat) :
    (bridge.over hop).after (request, .idle) n =
      (request, sessionAfter bridge request hop n) := by
  induction n with
  | zero => rfl
  | succ n ih =>
    rw [sessionAfter, Hop.after, ih, Bridge.poll_over]

/-- One more poll takes a session on by one poll. -/
theorem sessionAfter_succ (n : Nat) :
    sessionAfter bridge request hop (n + 1) =
      (Session.poll bridge request hop (sessionAfter bridge request hop n)).value.2 := by
  rw [sessionAfter, Hop.after, after_over, Bridge.poll_over]

/-- Behind any number of polls the parts are those of the session. -/
theorem after_eq (n : Nat) :
    after bridge request hop n = ofSession hop (sessionAfter bridge request hop n) := by
  induction n with
  | zero => rfl
  | succ n ih => rw [after, ih, (poll_ofSession bridge request hop _).1, sessionAfter_succ]

/-- The answers of a session that is polled in parts. -/
theorem answer_eq (n : Nat) :
    (poll bridge request hop (after bridge request hop n)).value.1 =
      (bridge.over hop).answers (request, .idle) n := by
  rw [after_eq, (poll_ofSession bridge request hop _).1, Hop.answers_eq, after_over,
    Bridge.poll_over]

/-- The acts of a session lead to the events of its polls. -/
theorem events_acts (n : Nat) :
    (acts bridge request hop n).flatMap (Act.events hop) =
      (bridge.over hop).eventsOfPolls (request, .idle) n := by
  induction n with
  | zero => rfl
  | succ n ih =>
    have hpoll := (poll_ofSession bridge request hop (sessionAfter bridge request hop n)).2
    have hover : ((bridge.over hop).poll (request, sessionAfter bridge request hop n)).events =
        (Session.poll bridge request hop (sessionAfter bridge request hop n)).events := by
      show _ ++ [] = _
      rw [List.append_nil]
    rw [acts, List.flatMap_append, ih, after_eq, hpoll, Hop.eventsOfPolls, after_over, hover]

/-- The events of a session over a whole run are those that its acts lead to. -/
theorem events_run (n : Nat) :
    (run bridge request hop n).flatMap (Act.events hop) =
      (bridge.over hop).eventsOfPolls (request, .idle) n ++
        ((sessionAfter bridge request hop n).release hop).events := by
  have hdrop (session : Session σ) :
      (ofSession hop session).drop.events.flatMap (Act.events hop) =
        (session.release hop).events := by
    cases session <;> simp [ofSession, drop, Session.release, Session.below?, Act.events]
  rw [run, List.flatMap_append, events_acts, after_eq, hdrop]

end SessionParts

/-! ## Stages -/

namespace Stage

/-- The stage behind an answer. -/
def behind : Stage → Poll → Stage
  | _, .failure _ => .closed
  | _, .finished => .closed
  | _, .response _ => .emitting
  | .idle, .pending => .pending
  | stage, .pending => stage

end Stage

/-- One of the first answers was a response. -/
def Responded (answers : Nat → Poll) (n : Nat) : Prop :=
  ∃ i, i < n ∧ ∃ given, answers i = .response given

/-- There was a response by now if there was one before, or if the last answer is one. -/
theorem responded_succ_iff (answers : Nat → Poll) (n : Nat) :
    Responded answers (n + 1) ↔ Responded answers n ∨ ∃ given, answers n = .response given := by
  constructor
  · rintro ⟨i, hi, given, hgiven⟩
    rcases Nat.lt_succ_iff_lt_or_eq.mp hi with hi | rfl
    · exact .inl ⟨i, hi, given, hgiven⟩
    · exact .inr ⟨given, hgiven⟩
  · rintro (⟨i, hi, hgiven⟩ | hgiven)
    · exact ⟨i, by omega, hgiven⟩
    · exact ⟨n, by omega, hgiven⟩

/-- There is an end by now if there was one before, or if the last answer is one. -/
theorem ended_succ_iff_last (answers : Nat → Poll) (n : Nat) :
    Ended answers (n + 1) ↔ Ended answers n ∨ (answers n).isLast = true := by
  constructor
  · rintro ⟨i, hi, hlast⟩
    rcases Nat.lt_succ_iff_lt_or_eq.mp hi with hi | rfl
    · exact .inl ⟨i, hi, hlast⟩
    · exact .inr hlast
  · rintro (⟨i, hi, hlast⟩ | hlast)
    · exact ⟨i, by omega, hlast⟩
    · exact ⟨n, by omega, hlast⟩

/-- What a stage says about the answers given so far. -/
inductive StageAfter (answers : Nat → Poll) (n : Nat) : Stage → Prop
  | idle (hn : n = 0) : StageAfter answers n .idle
  | pending (hn : 0 < n) (hresponded : ¬ Responded answers n) (hended : ¬ Ended answers n) :
      StageAfter answers n .pending
  | emitting (hresponded : Responded answers n) (hended : ¬ Ended answers n) :
      StageAfter answers n .emitting
  | closed (hended : Ended answers n) : StageAfter answers n .closed

namespace StageAfter

variable {answers : Nat → Poll} {n : Nat} {stage : Stage}

/-- A session is idle before the first poll and at no other time. -/
theorem idle_iff (h : StageAfter answers n stage) : stage = .idle ↔ n = 0 := by
  cases h with
  | idle hn => simp [hn]
  | pending hn _ _ =>
    simp only [reduceCtorEq, false_iff]
    omega
  | emitting hresponded _ =>
    obtain ⟨i, hi, -⟩ := hresponded
    simp only [reduceCtorEq, false_iff]
    omega
  | closed hended =>
    obtain ⟨i, hi, -⟩ := hended
    simp only [reduceCtorEq, false_iff]
    omega

/-- A session is closed behind the last answer and at no other time. -/
theorem closed_iff (h : StageAfter answers n stage) : stage = .closed ↔ Ended answers n := by
  cases h with
  | idle hn => simp [hn, not_ended_zero]
  | pending _ _ hopen => simp [hopen]
  | emitting _ hopen => simp [hopen]
  | closed hended => simp [hended]

/-- A session is emitting from the first response on, until it is closed. -/
theorem emitting_iff (h : StageAfter answers n stage) :
    stage = .emitting ↔ Responded answers n ∧ ¬ Ended answers n := by
  cases h with
  | idle hn => simp [hn, Responded]
  | pending _ hsilent _ => simp [hsilent]
  | emitting hresponded hopen => simp [hresponded, hopen]
  | closed hended => simp [hended]

/-- A session is pending from the first poll on, until there is a response or an end. -/
theorem pending_iff (h : StageAfter answers n stage) :
    stage = .pending ↔ n ≠ 0 ∧ ¬ Responded answers n ∧ ¬ Ended answers n := by
  cases h with
  | idle hn => simp [hn]
  | pending hn hsilent hopen => simp [hsilent, hopen, Nat.ne_of_gt hn]
  | emitting hresponded _ => simp [hresponded]
  | closed hended => simp [hended]

end StageAfter

/-- The stage behind an answer does not depend on the response in it. -/
@[simp] theorem Stage.behind_map (stage : Stage) (answer : Poll) (f : Response → Response) :
    stage.behind (answer.map f) = stage.behind answer := by
  cases stage <;> cases answer <;> rfl

/-- **A stage behind one more answer** says the same about the answers given by then. -/
theorem StageAfter.succ {answers : Nat → Poll} {n : Nat} {stage : Stage}
    (h : StageAfter answers n stage) (hclosed : stage = .closed → answers n = .finished) :
    StageAfter answers (n + 1) (stage.behind (answers n)) := by
  have hresponded := responded_succ_iff answers n
  have hended := ended_succ_iff_last answers n
  -- Behind a last answer the stage is closed, and behind any other one nothing has ended yet.
  cases hanswer : answers n with
  | failure error =>
    have hlast : Ended answers (n + 1) := hended.mpr (.inr (by rw [hanswer]; rfl))
    cases h <;> exact .closed hlast
  | finished =>
    have hlast : Ended answers (n + 1) := hended.mpr (.inr (by rw [hanswer]; rfl))
    cases h <;> exact .closed hlast
  | response given =>
    have hgiven : Responded answers (n + 1) := hresponded.mpr (.inr ⟨given, hanswer⟩)
    simp only [hanswer, Poll.isLast, Bool.false_eq_true, or_false] at hended
    cases h with
    | idle hn =>
      subst hn
      exact .emitting hgiven (fun h => not_ended_zero _ (hended.mp h))
    | pending _ _ hopen => exact .emitting hgiven (fun h => hopen (hended.mp h))
    | emitting _ hopen => exact .emitting hgiven (fun h => hopen (hended.mp h))
    | closed _ =>
      rw [hclosed rfl] at hanswer
      cases hanswer
  | pending =>
    simp only [hanswer, Poll.isLast, Bool.false_eq_true, or_false] at hended
    simp only [hanswer, reduceCtorEq, exists_false, or_false] at hresponded
    cases h with
    | idle hn =>
      subst hn
      refine .pending (by omega) ?_ (fun h => not_ended_zero _ (hended.mp h))
      rintro h
      obtain ⟨i, hi, -⟩ := hresponded.mp h
      omega
    | pending hn hsilent hopen =>
      exact .pending (by omega) (fun h => hsilent (hresponded.mp h)) (fun h => hopen (hended.mp h))
    | emitting hgiven hopen =>
      exact .emitting (hresponded.mpr hgiven) (fun h => hopen (hended.mp h))
    | closed _ =>
      rw [hclosed rfl] at hanswer
      cases hanswer

/-! ## Accounts -/

/-- An account of some acts: the requests that the link is handed, the streams that are polled
and those that are released. -/
structure Account {σ : Type} (acts : List (Act σ)) (forwarded : List Request)
    (polled released : List σ) : Prop where
  forwarded_eq : acts.filterMap Act.forwarded? = forwarded
  polled_eq : acts.filterMap Act.polled? = polled
  released_eq : acts.filterMap Act.released? = released

namespace Account

variable {σ : Type} {acts more : List (Act σ)} {forwarded others : List Request}
  {polled released polled' released' : List σ}

/-- Doing nothing comes to nothing. -/
theorem nil : Account ([] : List (Act σ)) [] [] [] := ⟨rfl, rfl, rfl⟩

/-- Notes come to nothing that has been done. -/
theorem notes (notes : List Note) : Account (notes.map Act.note : List (Act σ)) [] [] [] :=
  ⟨Act.filterMap_notes (fun _ => rfl) notes, Act.filterMap_notes (fun _ => rfl) notes,
    Act.filterMap_notes (fun _ => rfl) notes⟩

/-- A poll of a stream counts as a poll of it. -/
theorem poll (stream : σ) : Account [.poll stream] [] [stream] [] := ⟨rfl, rfl, rfl⟩

/-- The release of a stream counts as its release. -/
theorem release (stream : σ) : Account [.release stream] [] [] [stream] := ⟨rfl, rfl, rfl⟩

/-- What is done in two parts is accounted for part by part. -/
theorem append (h : Account acts forwarded polled released)
    (hmore : Account more others polled' released') :
    Account (acts ++ more) (forwarded ++ others) (polled ++ polled') (released ++ released') where
  forwarded_eq := by rw [List.filterMap_append, h.forwarded_eq, hmore.forwarded_eq]
  polled_eq := by rw [List.filterMap_append, h.polled_eq, hmore.polled_eq]
  released_eq := by rw [List.filterMap_append, h.released_eq, hmore.released_eq]

/-- The notes on a request do not count, only that it is handed on. -/
theorem handOver (notes : List Note) (last : Note) (request : Request) :
    Account (notes.map Act.note ++ [.note last, (.forward request : Act σ)]) [request] [] [] := by
  have hlast : Account [.note last, (.forward request : Act σ)] [request] [] [] := ⟨rfl, rfl, rfl⟩
  exact (Account.notes notes).append hlast

end Account

namespace SessionParts

variable {σ : Type} (bridge : Bridge) (request : Request) (hop : Hop σ)

/-- A session that is closed, with nothing left in its hands. -/
def spent : SessionParts σ := ⟨.closed, none, none⟩

/-- **One poll of a stream that is held.**  Only behind a last answer it is released. -/
theorem advance_open (stage : Stage) (hstage : stage ≠ .idle) (below : σ) :
    (advance bridge request hop ⟨stage, none, some below⟩).value =
        ((hop.poll below).value.1.map (bridge.parsed request),
          if (hop.poll below).value.1.isLast then spent else
            ⟨stage.behind (hop.poll below).value.1, none, some (hop.poll below).value.2⟩) ∧
      Account (advance bridge request hop ⟨stage, none, some below⟩).events [] [below]
        (if (hop.poll below).value.1.isLast then [(hop.poll below).value.2] else []) := by
  have hpoll := Account.poll below
  have hrelease := hpoll.append (Account.release (hop.poll below).value.2)
  unfold advance
  simp only [Traced.value_bind, Traced.events_bind, Traced.events_report]
  cases (hop.poll below).value.1 with
  | pending =>
    refine ⟨?_, by simpa [Poll.isLast] using hpoll⟩
    cases stage with
    | idle => exact absurd rfl hstage
    | _ => rfl
  | response given =>
    refine ⟨?_, by simpa [Poll.isLast] using hpoll.append (Account.notes _)⟩
    cases stage <;> rfl
  | failure error => exact ⟨rfl, by simpa [Poll.isLast, close, drop] using hrelease⟩
  | finished => exact ⟨rfl, by simpa [Poll.isLast, close, drop] using hrelease⟩

variable {request}

/-- The first poll of a session whose request cannot be serialized closes it, and nothing is
done. -/
theorem poll_new_of_error {error : BridgeError}
    (h : (bridge.serializeRequest request).outcome = .error error) :
    (poll bridge request hop (ofSession hop .idle)).value = (.failure (.bridge error), spent) ∧
      Account (poll bridge request hop (ofSession hop .idle)).events [] [] [] := by
  have hvalue : (bridge.serializeRequest request).run.value = .error error := h
  unfold poll start ofSession
  simp only [if_true, Traced.value_bind, Traced.events_bind, Traced.value_mapEvents,
    Traced.events_mapEvents, hvalue]
  exact ⟨rfl, by simpa [close, drop] using Account.notes _⟩

/-- The first poll of a session whose request is refused closes it, and the request was handed
on. -/
theorem poll_new_of_refused {next : Request} {error : RelayError}
    (h : (bridge.serializeRequest request).outcome = .ok next)
    (hrefused : (hop.forward next).value = .error error) :
    (poll bridge request hop (ofSession hop .idle)).value = (.failure error, spent) ∧
      Account (poll bridge request hop (ofSession hop .idle)).events [next] [] [] := by
  have hvalue : (bridge.serializeRequest request).run.value = .ok next := h
  unfold poll start ofSession
  simp only [if_true, Traced.value_bind, Traced.events_bind, Traced.value_mapEvents,
    Traced.events_mapEvents, hvalue, hrefused]
  exact ⟨rfl, by simpa [close, drop] using Account.handOver _ (forwardingNote next) next⟩

/-- The first poll of a session whose request is taken hands it on, and goes on as a poll of the
stream that was obtained. -/
theorem poll_new_of_accepted {next : Request} {stream : σ}
    (h : (bridge.serializeRequest request).outcome = .ok next)
    (haccepted : (hop.forward next).value = .ok stream) :
    (poll bridge request hop (ofSession hop .idle)).value =
        (advance bridge request hop ⟨.pending, none, some stream⟩).value ∧
      ∃ before, Account before [next] [] [] ∧
        (poll bridge request hop (ofSession hop .idle)).events =
          before ++ (advance bridge request hop ⟨.pending, none, some stream⟩).events := by
  have hvalue : (bridge.serializeRequest request).run.value = .ok next := h
  unfold poll start ofSession
  simp only [if_true, Traced.value_bind, Traced.events_bind, Traced.value_mapEvents,
    Traced.events_mapEvents, hvalue, haccepted]
  exact ⟨rfl, _, Account.handOver (bridge.serializeRequest request).run.events
    (forwardingNote next) next, by simp⟩

/-! ## Over a whole run -/

variable (request)

/-- A session at the stage `closed` is closed. -/
theorem eq_closed_of_stage {session : Session σ} (h : (ofSession hop session).stage = .closed) :
    session = .closed := by
  cases session with
  | closed => rfl
  | _ => cases h

/-- The stage behind a poll is decided by the stage before and by the answer. -/
theorem stage_poll (session : Session σ) :
    (poll bridge request hop (ofSession hop session)).value.2.stage =
      (ofSession hop session).stage.behind
        (poll bridge request hop (ofSession hop session)).value.1 := by
  have hadvance (stage : Stage) (hstage : stage ≠ .idle) (below : σ) :
      (advance bridge request hop ⟨stage, none, some below⟩).value.2.stage =
        stage.behind (advance bridge request hop ⟨stage, none, some below⟩).value.1 := by
    rw [(advance_open bridge request hop stage hstage below).1]
    simp only [Stage.behind_map]
    cases (hop.poll below).value.1 <;> cases stage <;> rfl
  cases session with
  | idle =>
    cases hserialized : (bridge.serializeRequest request).outcome with
    | error error =>
      rw [(poll_new_of_error bridge hop hserialized).1]
      rfl
    | ok next =>
      cases hforward : (hop.forward next).value with
      | error error =>
        rw [(poll_new_of_refused bridge hop hserialized hforward).1]
        rfl
      | ok stream =>
        rw [(poll_new_of_accepted bridge hop hserialized hforward).1,
          hadvance .pending (by decide) stream]
        cases (advance bridge request hop ⟨.pending, none, some stream⟩).value.1 <;> rfl
  | pending below => exact hadvance .pending (by decide) below
  | emitting below => exact hadvance .emitting (by decide) below
  | closed => rfl

/-- **The stage says what has been answered**, after any number of polls. -/
theorem stageAfter (n : Nat) :
    StageAfter ((bridge.over hop).answers (request, .idle)) n
      (after bridge request hop n).stage := by
  induction n with
  | zero => exact .idle rfl
  | succ n ih =>
    have hanswer := answer_eq bridge request hop n
    have hclosed : (after bridge request hop n).stage = .closed →
        (bridge.over hop).answers (request, .idle) n = .finished := by
      intro h
      rw [after_eq] at h
      rw [← hanswer, after_eq, eq_closed_of_stage hop h]
      rfl
    have hstage : (after bridge request hop (n + 1)).stage =
        (after bridge request hop n).stage.behind
          ((bridge.over hop).answers (request, .idle) n) := by
      rw [← hanswer, after, after_eq]
      exact stage_poll bridge request hop _
    rw [hstage]
    exact ih.succ hclosed

/-- A closed session is finished, and does nothing. -/
theorem advance_spent : advance bridge request hop spent = pure (.finished, spent) := rfl

/-- When a closed session is dropped there is nothing to release. -/
@[simp] theorem events_drop_spent : (spent : SessionParts σ).drop.events = [] := rfl

/-- When a session is dropped that holds a stream, the stream is released. -/
@[simp] theorem events_drop_holding (stage : Stage) (below : σ) :
    (⟨stage, none, some below⟩ : SessionParts σ).drop.events = [.release below] := rfl

variable {request}

/-- How a session and the stream that it got stand after some polls of that stream. -/
inductive Progress (hop : Hop σ) (next : Request) (stream : σ) (n : Nat) (parts : SessionParts σ)
    (acts : List (Act σ)) : Prop
  /-- The stream is held, and every poll was handed on. -/
  | held (stage : Stage) (hstage : stage ≠ .idle)
      (hparts : parts = ⟨stage, none, some (hop.after stream n)⟩)
      (hopen : ¬ Ended (hop.answers stream) n)
      (haccount : Account acts [next] ((List.range n).map (hop.after stream)) [])
  /-- The stream was released behind its last answer. -/
  | released (last : Nat) (hlast : last < n) (hparts : parts = spent)
      (hopen : ¬ Ended (hop.answers stream) last)
      (haccount : Account acts [next] ((List.range (last + 1)).map (hop.after stream))
        [hop.after stream (last + 1)])

variable {next : Request} {stream : σ} {n : Nat} {parts : SessionParts σ} {done : List (Act σ)}

/-- A session that got a stream is idle no more. -/
theorem Progress.stage_ne_idle (h : Progress hop next stream n parts done) :
    parts.stage ≠ .idle := by
  cases h with
  | held stage hstage hparts => rwa [hparts]
  | released last hlast hparts =>
    rw [hparts]
    intro hidle
    cases hidle

/-- **One more poll.** -/
theorem Progress.advance (request : Request) (h : Progress hop next stream n parts done) :
    Progress hop next stream (n + 1) (advance bridge request hop parts).value.2
      (done ++ (SessionParts.advance bridge request hop parts).events) := by
  cases h with
  | held stage hstage hparts hopen haccount =>
    subst hparts
    obtain ⟨hvalue, hevents⟩ :=
      advance_open bridge request hop stage hstage (hop.after stream n)
    have hmore := haccount.append hevents
    have hpolled : (List.range n).map (hop.after stream) ++ [hop.after stream n] =
        (List.range (n + 1)).map (hop.after stream) := by
      simp [List.range_succ]
    rw [hpolled] at hmore
    have hanswer := hop.answers_eq stream n
    rw [hvalue]
    by_cases hlast : (hop.poll (hop.after stream n)).value.1.isLast = true
    · rw [if_pos hlast] at hmore ⊢
      exact .released n (by omega) rfl hopen hmore
    · rw [if_neg hlast] at hmore ⊢
      refine .held _ ?_ rfl ?_ hmore
      · cases hpoll : (hop.poll (hop.after stream n)).value.1 <;> cases stage <;>
          simp_all [Stage.behind]
      · rw [ended_succ_iff_last, hanswer]
        simp [hopen, hlast]
  | released last hlast hparts hopen haccount =>
    subst hparts
    rw [advance_spent]
    exact .released last (by omega) rfl hopen (by simpa using haccount)

/-- A session whose request is taken keeps in step with the stream that it got. -/
theorem progress_of_accepted
    (h : (bridge.serializeRequest request).outcome = .ok next)
    (haccepted : (hop.forward next).value = .ok stream) (n : Nat) :
    Progress hop next stream (n + 1) (after bridge request hop (n + 1))
      (acts bridge request hop (n + 1)) := by
  induction n with
  | zero =>
    obtain ⟨hvalue, before, hbefore, hevents⟩ := poll_new_of_accepted bridge hop h haccepted
    have hstart : Progress hop next stream 0 ⟨.pending, none, some stream⟩ before :=
      .held .pending (by decide) rfl (not_ended_zero _) hbefore
    have hfirst := hstart.advance bridge hop request
    rw [← hvalue, ← hevents] at hfirst
    exact hfirst
  | succ n ih =>
    have hpoll : poll bridge request hop (after bridge request hop (n + 1)) =
        SessionParts.advance bridge request hop (after bridge request hop (n + 1)) :=
      if_neg (ih.stage_ne_idle hop)
    have hnext := ih.advance bridge hop request
    rw [← hpoll] at hnext
    exact hnext

/-- **The account of a whole run** in which a stream was obtained: it was polled some times,
without a last answer before the last of them, and released in the state in which they left it. -/
theorem account_run_of_accepted
    (h : (bridge.serializeRequest request).outcome = .ok next)
    (haccepted : (hop.forward next).value = .ok stream) (n : Nat) :
    ∃ polls, polls ≤ n + 1 ∧ (∀ i, i + 1 < polls → (hop.answers stream i).isLast = false) ∧
      Account (run bridge request hop (n + 1)) [next] ((List.range polls).map (hop.after stream))
        [hop.after stream polls] := by
  have hsilent {last : Nat} (hopen : ¬ Ended (hop.answers stream) last) (i : Nat)
      (hi : i < last) : (hop.answers stream i).isLast = false := by
    cases hlast : (hop.answers stream i).isLast with
    | false => rfl
    | true => exact absurd ⟨i, hi, hlast⟩ hopen
  cases progress_of_accepted bridge hop h haccepted n with
  | held stage hstage hparts hopen haccount =>
    refine ⟨n + 1, Nat.le_refl _, fun i hi => hsilent hopen i (by omega), ?_⟩
    rw [run, hparts]
    simpa using haccount.append (Account.release (hop.after stream (n + 1)))
  | released last hlast hparts hopen haccount =>
    refine ⟨last + 1, by omega, fun i hi => hsilent hopen i (by omega), ?_⟩
    rw [run, hparts]
    simpa using haccount.append Account.nil

/-- The account of a whole run that is over with the first poll. -/
theorem account_run_of_spent {forwarded : List Request}
    (hspent : (poll bridge request hop (ofSession hop .idle)).value.2 = spent)
    (haccount : Account (poll bridge request hop (ofSession hop .idle)).events forwarded [] [])
    (n : Nat) : Account (run bridge request hop (n + 1)) forwarded [] [] := by
  have hstays : after bridge request hop (n + 1) = spent ∧
      Account (acts bridge request hop (n + 1)) forwarded [] [] := by
    induction n with
    | zero => exact ⟨hspent, haccount⟩
    | succ n ih =>
      obtain ⟨hparts, hacts⟩ := ih
      have hpoll : poll bridge request hop (after bridge request hop (n + 1)) =
          pure (.finished, spent) := by
        rw [hparts]
        rfl
      rw [after, acts, hpoll]
      exact ⟨rfl, by simpa using hacts⟩
  obtain ⟨hparts, hacts⟩ := hstays
  rw [run, hparts]
  simpa using hacts.append Account.nil

/-- **The account of a whole run**, by what became of the request. -/
theorem account_run (request : Request) (n : Nat) :
    ((n = 0 ∨ ∃ error, (bridge.serializeRequest request).outcome = .error error) ∧
        Account (run bridge request hop n) [] [] []) ∨
      (n ≠ 0 ∧ ∃ next, (bridge.serializeRequest request).outcome = .ok next ∧
        ((∃ error, (hop.forward next).value = .error error) ∧
            Account (run bridge request hop n) [next] [] [] ∨
          ∃ stream, (hop.forward next).value = .ok stream ∧
            ∃ polls, polls ≤ n ∧
              (∀ i, i + 1 < polls → (hop.answers stream i).isLast = false) ∧
              Account (run bridge request hop n) [next]
                ((List.range polls).map (hop.after stream)) [hop.after stream polls])) := by
  cases n with
  | zero => exact .inl ⟨.inl rfl, rfl, rfl, rfl⟩
  | succ n =>
    cases hserialized : (bridge.serializeRequest request).outcome with
    | error error =>
      obtain ⟨hvalue, hevents⟩ := poll_new_of_error bridge hop hserialized
      have hspent := congrArg Prod.snd hvalue
      exact .inl ⟨.inr ⟨error, rfl⟩, account_run_of_spent bridge hop hspent hevents n⟩
    | ok next =>
      refine .inr ⟨Nat.succ_ne_zero n, next, rfl, ?_⟩
      cases hforward : (hop.forward next).value with
      | error error =>
        obtain ⟨hvalue, hevents⟩ := poll_new_of_refused bridge hop hserialized hforward
        have hspent := congrArg Prod.snd hvalue
        exact .inl ⟨⟨error, rfl⟩, account_run_of_spent bridge hop hspent hevents n⟩
      | ok stream =>
        exact .inr ⟨stream, rfl, account_run_of_accepted bridge hop hserialized hforward n⟩

end SessionParts

/-- What holds of a session that is polled `n` times and then dropped. -/
structure SessionLifecycle {σ : Type} (bridge : Bridge) (request : Request) (hop : Hop σ)
    (n : Nat) : Prop where
  /-- The parts are those of the session. -/
  parts_eq : SessionParts.after bridge request hop n =
    .ofSession hop (SessionParts.sessionAfter bridge request hop n)
  /-- The events are those that the acts lead to. -/
  events_eq : (SessionParts.run bridge request hop n).flatMap (Act.events hop) =
    (bridge.over hop).eventsOfPolls (request, .idle) n ++
      ((SessionParts.sessionAfter bridge request hop n).release hop).events
  idle_iff : (SessionParts.after bridge request hop n).stage = .idle ↔ n = 0
  closed_iff : (SessionParts.after bridge request hop n).stage = .closed ↔
    Ended ((bridge.over hop).answers (request, .idle)) n
  emitting_iff : (SessionParts.after bridge request hop n).stage = .emitting ↔
    Responded ((bridge.over hop).answers (request, .idle)) n ∧
      ¬ Ended ((bridge.over hop).answers (request, .idle)) n
  pending_iff : (SessionParts.after bridge request hop n).stage = .pending ↔
    n ≠ 0 ∧ ¬ Responded ((bridge.over hop).answers (request, .idle)) n ∧
      ¬ Ended ((bridge.over hop).answers (request, .idle)) n
  below_iff : (SessionParts.after bridge request hop n).below.isSome = true ↔
    (SessionParts.after bridge request hop n).stage = .pending ∨
      (SessionParts.after bridge request hop n).stage = .emitting
  next_iff : (SessionParts.after bridge request hop n).next.isSome = true ↔
    (SessionParts.after bridge request hop n).stage = .idle
  forwarded_le_one :
    ((SessionParts.run bridge request hop n).filterMap Act.forwarded?).length ≤ 1
  not_forwarded :
    (n = 0 ∨ ∃ error, (bridge.serializeRequest request).outcome = .error error) →
      (SessionParts.run bridge request hop n).filterMap Act.forwarded? = []
  /-- A stream that was obtained is polled in the states that the polls before leave it in,
  never behind its last answer, and released once, in the state that is left. -/
  released_once : n ≠ 0 → ∀ next stream,
    (bridge.serializeRequest request).outcome = .ok next →
    (hop.forward next).value = .ok stream →
    ∃ polls, polls ≤ n ∧ (∀ i, i + 1 < polls → (hop.answers stream i).isLast = false) ∧
      (SessionParts.run bridge request hop n).filterMap Act.polled? =
        (List.range polls).map (hop.after stream) ∧
      (SessionParts.run bridge request hop n).filterMap Act.released? = [hop.after stream polls]
  /-- Without a stream there is nothing to poll or to release. -/
  no_stream : (n = 0 ∨ ¬ ∃ next stream, (bridge.serializeRequest request).outcome = .ok next ∧
      (hop.forward next).value = .ok stream) →
    (SessionParts.run bridge request hop n).filterMap Act.polled? = [] ∧
      (SessionParts.run bridge request hop n).filterMap Act.released? = []
  /-- What is released at all is released by the time the stage is `closed`. -/
  released_when_closed : (SessionParts.after bridge request hop n).stage = .closed →
    (SessionParts.acts bridge request hop n).filterMap Act.released? =
      (SessionParts.run bridge request hop n).filterMap Act.released?
  terminated_iff : (SessionParts.after bridge request hop n).isTerminated = true ↔
    (SessionParts.after bridge request hop n).stage = .closed
  finished_when_closed : (SessionParts.after bridge request hop n).stage = .closed →
    ∀ k, n ≤ k → (bridge.over hop).answers (request, .idle) k = .finished

/-- **The life of a session**, over any hop and any number of polls. -/
theorem session_lifecycle {σ : Type} (bridge : Bridge) (request : Request) (hop : Hop σ)
    (n : Nat) : SessionLifecycle bridge request hop n := by
  have hparts := SessionParts.after_eq bridge request hop n
  have hstage := SessionParts.stageAfter bridge request hop n
  have haccount := SessionParts.account_run bridge hop request n
  have hsession (h : (SessionParts.after bridge request hop n).stage = .closed) :
      SessionParts.sessionAfter bridge request hop n = .closed := by
    rw [hparts] at h
    exact SessionParts.eq_closed_of_stage hop h
  constructor
  case parts_eq => exact hparts
  case events_eq => exact SessionParts.events_run bridge request hop n
  case idle_iff => exact hstage.idle_iff
  case closed_iff => exact hstage.closed_iff
  case emitting_iff => exact hstage.emitting_iff
  case pending_iff => exact hstage.pending_iff
  case below_iff =>
    rw [hparts]
    cases SessionParts.sessionAfter bridge request hop n <;> simp [SessionParts.ofSession]
  case next_iff =>
    rw [hparts]
    cases SessionParts.sessionAfter bridge request hop n <;> simp [SessionParts.ofSession]
  case forwarded_le_one =>
    rcases haccount with ⟨-, h⟩ | ⟨-, next, -, ⟨-, h⟩ | ⟨stream, -, polls, -, -, h⟩⟩
    all_goals
      rw [h.forwarded_eq]
      simp
  case not_forwarded =>
    intro hnot
    rcases haccount with ⟨-, h⟩ | ⟨hn, next, hserialized, -⟩
    · exact h.forwarded_eq
    · rcases hnot with hzero | ⟨error, herror⟩
      · exact absurd hzero hn
      · rw [hserialized] at herror
        cases herror
  case released_once =>
    intro hn next stream hserialized haccepted
    rcases haccount with ⟨hzero | ⟨error, herror⟩, -⟩ | ⟨-, next', hserialized', h⟩
    · exact absurd hzero hn
    · rw [hserialized] at herror
      cases herror
    · rw [hserialized, Except.ok.injEq] at hserialized'
      subst hserialized'
      rcases h with ⟨⟨error, herror⟩, -⟩ | ⟨stream', haccepted', polls, hpolls, hsilent, h⟩
      · rw [haccepted] at herror
        cases herror
      · rw [haccepted, Except.ok.injEq] at haccepted'
        subst haccepted'
        exact ⟨polls, hpolls, hsilent, h.polled_eq, h.released_eq⟩
  case no_stream =>
    intro hnone
    rcases haccount with ⟨-, h⟩ | ⟨hn, next, hserialized, ⟨-, h⟩ | ⟨stream, haccepted, -⟩⟩
    · exact ⟨h.polled_eq, h.released_eq⟩
    · exact ⟨h.polled_eq, h.released_eq⟩
    · rcases hnone with hzero | hnone
      · exact absurd hzero hn
      · exact absurd ⟨next, stream, hserialized, haccepted⟩ hnone
  case released_when_closed =>
    intro hclosed
    have hspent : SessionParts.after bridge request hop n = .spent := by
      rw [hparts, hsession hclosed]
      rfl
    rw [SessionParts.run, hspent, SessionParts.events_drop_spent, List.append_nil]
  case terminated_iff => simp [SessionParts.isTerminated]
  case finished_when_closed =>
    intro hclosed k hk
    obtain ⟨more, rfl⟩ := Nat.exists_eq_add_of_le hk
    rw [Hop.answers_add, SessionParts.after_over, hsession hclosed]
    exact (bridge.answers_over_closed request hop more).1

/-- The failure that `coatScript` ends with closes the session, and the stream is released. -/
example :
    ((SessionParts.run (coatBridge "Black as night" "BLACK") (coatRequest "Black as night")
      (coatTransport "BLACK").hop 5).filterMap Act.released?).length = 1 := by
  rfl

end EnumBridge
