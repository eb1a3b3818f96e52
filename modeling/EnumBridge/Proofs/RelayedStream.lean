import EnumBridge.Relay.Stack

/-!
# What is seen of a relay

A stream is seen from outside through its answers, poll by poll (`Hop.answers`), and through the
requests that transports are given meanwhile (`Hop.requests`).  `Hop.reply` and `Hop.sent` are
the same for a request that a hop is given: a refusal counts as one answer.

A bridge over a hop replies to a request what the hop replies to the serialized request, with
every response parsed, up to the first failure or end (`reply_over`).  The session that does
this keeps in step with the stream below: as long as it holds the stream, it has handed on every
poll (`answers_over_of_below?`).
-/

set_option autoImplicit false

namespace EnumBridge

/-! ## Answers one after the other -/

/-- Whether nothing is to come behind an answer. -/
def Poll.isLast : Poll → Bool
  | .failure _ => true
  | .finished => true
  | _ => false

/-- An answer with something else for the response in it. -/
def Poll.map (f : Response → Response) : Poll → Poll
  | .response given => .response (f given)
  | answer => answer

/-- With another response in it an answer is the last one or not as before. -/
@[simp] theorem Poll.isLast_map (f : Response → Response) (answer : Poll) :
    (answer.map f).isLast = answer.isLast := by
  cases answer <;> rfl

/-- Before poll number `n` there was a failure or an end. -/
def Ended (answers : Nat → Poll) (n : Nat) : Prop := ∃ i, i < n ∧ (answers i).isLast = true

instance (answers : Nat → Poll) (n : Nat) : Decidable (Ended answers n) :=
  inferInstanceAs (Decidable (∃ i, i < n ∧ (answers i).isLast = true))

/-- The answers up to the first failure or end; behind it there are no more. -/
def upToLast (answers : Nat → Poll) (n : Nat) : Poll :=
  if Ended answers n then .finished else answers n

/-- One answer, behind which there are no more. -/
def once (answer : Poll) : Nat → Poll
  | 0 => answer
  | _ + 1 => .finished

/-- Nothing has ended before the first poll. -/
theorem not_ended_zero (answers : Nat → Poll) : ¬ Ended answers 0 := by
  rintro ⟨i, hi, -⟩
  exact Nat.not_lt_zero i hi

/-- There was an end before a later poll if the first answer was the last one, or if there was an
end among the answers behind it. -/
theorem ended_succ_iff {answers : Nat → Poll} {n : Nat} :
    Ended answers (n + 1) ↔
      (answers 0).isLast = true ∨ Ended (fun k => answers (k + 1)) n := by
  constructor
  · rintro ⟨i, hi, hlast⟩
    cases i with
    | zero => exact .inl hlast
    | succ i => exact .inr ⟨i, Nat.lt_of_succ_lt_succ hi, hlast⟩
  · rintro (hlast | ⟨i, hi, hlast⟩)
    · exact ⟨0, Nat.succ_pos n, hlast⟩
    · exact ⟨i + 1, Nat.succ_lt_succ hi, hlast⟩

/-- If the first answer was not the last one, an end is among the answers behind it. -/
theorem ended_succ_iff_of_not_isLast {answers : Nat → Poll} (h : ¬ (answers 0).isLast = true)
    (n : Nat) : Ended answers (n + 1) ↔ Ended (fun k => answers (k + 1)) n := by
  rw [ended_succ_iff]
  exact or_iff_right h

/-- The first answer is always given. -/
theorem upToLast_zero (answers : Nat → Poll) : upToLast answers 0 = answers 0 :=
  if_neg (not_ended_zero answers)

/-- Behind a first answer that is the last one there are no more. -/
theorem upToLast_succ_of_isLast {answers : Nat → Poll} (h : (answers 0).isLast = true) (n : Nat) :
    upToLast answers (n + 1) = .finished :=
  if_pos (ended_succ_iff.mpr (.inl h))

/-- Behind a first answer that is not the last one come those up to the last of the others. -/
theorem upToLast_succ {answers : Nat → Poll} (h : ¬ (answers 0).isLast = true) (n : Nat) :
    upToLast answers (n + 1) = upToLast (fun k => answers (k + 1)) n := by
  simp only [upToLast, ended_succ_iff_of_not_isLast h]

/-- A failure or an end that is the only answer ends there already. -/
theorem upToLast_once {answer : Poll} (h : answer.isLast = true) :
    upToLast (once answer) = once answer := by
  funext n
  cases n with
  | zero => exact upToLast_zero _
  | succ n => exact upToLast_succ_of_isLast h n

/-- A failure has no response in it. -/
theorem map_once_failure (f : Response → Response) (error : RelayError) (n : Nat) :
    (once (.failure error) n).map f = once (.failure error) n := by
  cases n <;> rfl

/-- What happens at the first poll only does not happen behind the end. -/
theorem ite_ended {α : Type} (answers : Nat → Poll) (first : List α) (n : Nat) :
    (if Ended answers n then [] else if n = 0 then first else []) =
      if n = 0 then first else [] := by
  cases n with
  | zero => rw [if_neg (not_ended_zero answers)]
  | succ n => exact ite_self _

/-! ## What a hop shows -/

/-- The request that an event hands to a transport. -/
def Event.request? : Event → Option Request
  | .forwarded request => some request
  | _ => none

/-- The requests that transports are given in some events. -/
def requestsIn (events : List Event) : List Request := events.filterMap Event.request?

/-- The requests in a sequence of events are those of its parts. -/
@[simp] theorem requestsIn_append (events more : List Event) :
    requestsIn (events ++ more) = requestsIn events ++ requestsIn more :=
  List.filterMap_append

/-- Notes give no request to a transport. -/
@[simp] theorem requestsIn_notes (notes : List Note) : requestsIn (notes.map .note) = [] := by
  rw [requestsIn, List.filterMap_map]
  exact List.filterMap_eq_nil_iff.mpr fun _ _ => rfl

namespace Hop

variable {σ : Type} (hop : Hop σ)

/-- What a stream answers to its polls, one after the other. -/
def answers (stream : σ) : Nat → Poll
  | 0 => (hop.poll stream).value.1
  | n + 1 => answers (hop.poll stream).value.2 n

/-- The requests that transports are given while a stream is polled, poll by poll. -/
def requests (stream : σ) : Nat → List Request
  | 0 => requestsIn (hop.poll stream).events
  | n + 1 => requests (hop.poll stream).value.2 n

/-- What is answered to a request, poll by poll; a refusal is the only answer. -/
def reply (request : Request) : Nat → Poll :=
  match (hop.forward request).value with
  | .ok stream => hop.answers stream
  | .error error => once (.failure error)

/-- The requests that transports are given because of a request: on the occasion of the first
poll those that handing it on leads to, and poll by poll those that the polls lead to. -/
def sent (request : Request) (n : Nat) : List Request :=
  (if n = 0 then requestsIn (hop.forward request).events else []) ++
    match (hop.forward request).value with
    | .ok stream => hop.requests stream n
    | .error _ => []

/-- Releasing a stream gives no request to a transport. -/
def ReleasesQuietly : Prop := ∀ stream, requestsIn (hop.release stream).events = []

variable {hop} {request : Request}

/-- A request that is taken is replied to by the stream. -/
theorem reply_of_ok {stream : σ} (h : (hop.forward request).value = .ok stream) :
    hop.reply request = hop.answers stream := by
  rw [reply, h]

/-- A request that is refused is replied to by the refusal alone. -/
theorem reply_of_error {error : RelayError} (h : (hop.forward request).value = .error error) :
    hop.reply request = once (.failure error) := by
  rw [reply, h]

/-- Because of a request that is taken, transports are given what handing it on and the polls lead
to. -/
theorem sent_of_ok {stream : σ} (h : (hop.forward request).value = .ok stream) (n : Nat) :
    hop.sent request n =
      (if n = 0 then requestsIn (hop.forward request).events else []) ++
        hop.requests stream n := by
  rw [sent, h]

/-- Because of a request that is refused, transports are given what handing it on leads to. -/
theorem sent_of_error {error : RelayError} (h : (hop.forward request).value = .error error)
    (n : Nat) :
    hop.sent request n = if n = 0 then requestsIn (hop.forward request).events else [] := by
  rw [sent, h, List.append_nil]

end Hop

/-! ## Transports -/

namespace Transport

variable (transport : Transport)

/-- A stream of a transport answers what is left of its script. -/
theorem answers_hop (stream : Stream) (n : Nat) :
    transport.hop.answers stream n = stream.answers (stream.polled + n) := by
  induction n generalizing stream with
  | zero => rfl
  | succ n ih =>
    have hnext := ih ⟨stream.answers, stream.polled + 1⟩
    rw [Nat.add_assoc, Nat.add_comm 1 n] at hnext
    exact hnext

/-- Polling a stream of a transport hands on no request. -/
theorem requests_hop (stream : Stream) (n : Nat) : transport.hop.requests stream n = [] := by
  induction n generalizing stream with
  | zero => rfl
  | succ n ih => exact ih _

/-- A request that a transport refuses is replied to by the refusal alone. -/
theorem reply_hop_of_refused {request : Request} {error : RelayError}
    (h : transport.answers request = .error error) :
    transport.hop.reply request = once (.failure error) := by
  have hvalue : (transport.hop.forward request).value = .error error := by
    show (transport.answers request).map _ = _
    rw [h]
    rfl
  exact Hop.reply_of_error hvalue

/-- A request that a transport takes is replied to by its script. -/
theorem reply_hop {request : Request} {script : Nat → Poll}
    (h : transport.answers request = .ok script) : transport.hop.reply request = script := by
  have hvalue : (transport.hop.forward request).value = .ok ⟨script, 0⟩ := by
    show (transport.answers request).map _ = _
    rw [h]
    rfl
  rw [Hop.reply_of_ok hvalue]
  funext n
  rw [answers_hop, Nat.zero_add]

/-- A transport is given a request once, at the first poll. -/
theorem sent_hop (request : Request) (n : Nat) :
    transport.hop.sent request n = if n = 0 then [request] else [] := by
  have hgiven : requestsIn (transport.hop.forward request).events = [request] := rfl
  cases hforward : (transport.hop.forward request).value with
  | ok stream => rw [Hop.sent_of_ok hforward, requests_hop, List.append_nil, hgiven]
  | error error => rw [Hop.sent_of_error hforward, hgiven]

/-- A stream of a transport is released without a request. -/
theorem releasesQuietly_hop : transport.hop.ReleasesQuietly := fun _ => rfl

end Transport

/-! ## Sessions -/

namespace Bridge

variable {σ : Type} (bridge : Bridge) (request : Request) (hop : Hop σ)

/-- A response to a request, parsed. -/
def parsed (response : Response) : Response := (bridge.parseResponse request response).value

/-- **One poll of a session that holds the stream below** hands on the poll and parses the answer.
The session is closed behind the last answer, and else it holds the stream in its next state. -/
theorem poll_of_below? (hquiet : hop.ReleasesQuietly) {session : Session σ} {below : σ}
    (h : session.below? = some below) :
    (Session.poll bridge request hop session).value.1 =
        (hop.answers below 0).map (bridge.parsed request) ∧
      requestsIn (Session.poll bridge request hop session).events = hop.requests below 0 ∧
      if (hop.answers below 0).isLast then
        (Session.poll bridge request hop session).value.2 = .closed
      else
        (Session.poll bridge request hop session).value.2.below? =
          some (hop.poll below).value.2 := by
  -- A pending session and an emitting one differ only in what they turn into while they wait.
  have hadvance : ∃ waiting : σ → Session σ, (∀ s, (waiting s).below? = some s) ∧
      Session.poll bridge request hop session =
        Session.advance bridge request hop waiting below := by
    cases session with
    | idle => cases h
    | pending _ =>
      cases h
      exact ⟨.pending, fun _ => rfl, rfl⟩
    | emitting _ =>
      cases h
      exact ⟨.emitting, fun _ => rfl, rfl⟩
    | closed => cases h
  obtain ⟨waiting, hwaiting, heq⟩ := hadvance
  rw [heq, Hop.answers, Hop.requests]
  unfold Session.advance
  simp only [Traced.value_bind, Traced.events_bind, requestsIn_append]
  cases (hop.poll below).value.1 with
  | pending => exact ⟨rfl, List.append_nil _, hwaiting _⟩
  | response response =>
    refine ⟨rfl, ?_, rfl⟩
    simp only [Traced.events_bind, Traced.events_mapEvents, Traced.events_pure, List.append_nil,
      requestsIn_notes]
  | failure error =>
    refine ⟨rfl, ?_, rfl⟩
    simp only [Traced.events_bind, Traced.events_pure, List.append_nil, hquiet _]
  | finished =>
    refine ⟨rfl, ?_, rfl⟩
    simp only [Traced.events_bind, Traced.events_pure, List.append_nil, hquiet _]

/-- A closed session is finished at every poll, and hands on nothing. -/
theorem answers_over_closed (n : Nat) :
    (bridge.over hop).answers (request, .closed) n = .finished ∧
      (bridge.over hop).requests (request, .closed) n = [] := by
  induction n with
  | zero => exact ⟨rfl, rfl⟩
  | succ n ih => exact ih

/-- **A session that holds the stream below keeps in step with it**, up to the last answer. -/
theorem answers_over_of_below? (hquiet : hop.ReleasesQuietly) {session : Session σ} {below : σ}
    (h : session.below? = some below) (n : Nat) :
    (bridge.over hop).answers (request, session) n =
        (upToLast (hop.answers below) n).map (bridge.parsed request) ∧
      (bridge.over hop).requests (request, session) n =
        if Ended (hop.answers below) n then [] else hop.requests below n := by
  induction n generalizing session below with
  | zero =>
    obtain ⟨hanswer, hevents, -⟩ := bridge.poll_of_below? request hop hquiet h
    rw [upToLast_zero, if_neg (not_ended_zero _)]
    refine ⟨hanswer, ?_⟩
    show requestsIn (_ ++ []) = _
    rw [List.append_nil]
    exact hevents
  | succ n ih =>
    -- One poll later either the session is closed, or it and the stream below have both moved on.
    obtain ⟨-, -, hnext⟩ := bridge.poll_of_below? request hop hquiet h
    show (bridge.over hop).answers
          (request, (Session.poll bridge request hop session).value.2) n = _ ∧
        (bridge.over hop).requests
          (request, (Session.poll bridge request hop session).value.2) n = _
    by_cases hlast : (hop.answers below 0).isLast = true
    · rw [if_pos hlast] at hnext
      rw [upToLast_succ_of_isLast hlast, if_pos (ended_succ_iff.mpr (.inl hlast)), hnext]
      exact bridge.answers_over_closed request hop n
    · rw [if_neg hlast] at hnext
      rw [upToLast_succ hlast]
      simp only [ended_succ_iff_of_not_isLast hlast]
      exact ih hnext

variable {request}

/-- The first poll of a session whose request cannot be serialized closes it with that failure, and
hands on nothing. -/
theorem poll_idle_of_error {error : BridgeError}
    (h : (bridge.serializeRequest request).outcome = .error error) :
    (Session.poll bridge request hop .idle).value = (.failure (.bridge error), .closed) ∧
      requestsIn (Session.poll bridge request hop .idle).events = [] := by
  have hvalue : (bridge.serializeRequest request).run.value = .error error := h
  unfold Session.poll Session.start
  simp only [Traced.value_bind, Traced.events_bind, Traced.value_mapEvents,
    Traced.events_mapEvents, hvalue, requestsIn_append, requestsIn_notes]
  exact ⟨rfl, rfl⟩

/-- The first poll of a session whose request is refused closes it with the refusal. -/
theorem poll_idle_of_refused {next : Request} {error : RelayError}
    (h : (bridge.serializeRequest request).outcome = .ok next)
    (hrefused : (hop.forward next).value = .error error) :
    (Session.poll bridge request hop .idle).value = (.failure error, .closed) ∧
      requestsIn (Session.poll bridge request hop .idle).events =
        requestsIn (hop.forward next).events := by
  have hvalue : (bridge.serializeRequest request).run.value = .ok next := h
  unfold Session.poll Session.start
  simp only [Traced.value_bind, Traced.events_bind, Traced.value_mapEvents,
    Traced.events_mapEvents, hvalue, hrefused, requestsIn_append, requestsIn_notes]
  exact ⟨rfl, List.append_nil _⟩

/-- The first poll of a session whose request is accepted goes on as a poll of the session that
holds the stream. -/
theorem poll_idle_of_accepted {next : Request} {below : σ}
    (h : (bridge.serializeRequest request).outcome = .ok next)
    (haccepted : (hop.forward next).value = .ok below) :
    (Session.poll bridge request hop .idle).value =
        (Session.poll bridge request hop (.pending below)).value ∧
      requestsIn (Session.poll bridge request hop .idle).events =
        requestsIn (hop.forward next).events ++
          requestsIn (Session.poll bridge request hop (.pending below)).events := by
  have hvalue : (bridge.serializeRequest request).run.value = .ok next := h
  unfold Session.poll Session.start
  simp only [Traced.value_bind, Traced.events_bind, Traced.value_mapEvents,
    Traced.events_mapEvents, hvalue, haccepted, requestsIn_append, requestsIn_notes]
  exact ⟨trivial, rfl⟩

/-! ## Replies -/

/-- The requests at the first poll of a bridge's stream are those of the poll of its session. -/
theorem requests_over_zero (session : Session σ) :
    (bridge.over hop).requests (request, session) 0 =
      requestsIn (Session.poll bridge request hop session).events := by
  show requestsIn (_ ++ []) = _
  rw [List.append_nil]

/-- A bridge hands on nothing until its stream is polled. -/
theorem sent_over (n : Nat) :
    (bridge.over hop).sent request n = (bridge.over hop).requests (request, .idle) n := by
  have hforward : requestsIn ((bridge.over hop).forward request).events = [] := rfl
  rw [Hop.sent, hforward, ite_self]
  rfl

/-- A poll of a bridge's stream is one of its session, for the same request. -/
theorem poll_over (session : Session σ) :
    ((bridge.over hop).poll (request, session)).value =
      ((Session.poll bridge request hop session).value.1,
        (request, (Session.poll bridge request hop session).value.2)) := rfl

/-- Where the first polls have the same answer and leave the same session, so have the later
ones. -/
theorem answers_over_congr {session other : Session σ}
    (h : (Session.poll bridge request hop session).value =
      (Session.poll bridge request hop other).value) (n : Nat) :
    (bridge.over hop).answers (request, session) n =
        (bridge.over hop).answers (request, other) n ∧
      (bridge.over hop).requests (request, session) (n + 1) =
        (bridge.over hop).requests (request, other) (n + 1) := by
  have hpoll : ((bridge.over hop).poll (request, session)).value =
      ((bridge.over hop).poll (request, other)).value := by
    rw [poll_over, poll_over, h]
  constructor
  · cases n with
    | zero => rw [Hop.answers, Hop.answers, hpoll]
    | succ n => rw [Hop.answers, Hop.answers, hpoll]
  · rw [Hop.requests, Hop.requests, hpoll]

/-- If the first poll closes a session, its answer is the only one. -/
theorem answers_over_of_closed {session : Session σ} {answer : Poll}
    (h : (Session.poll bridge request hop session).value = (answer, .closed)) (n : Nat) :
    (bridge.over hop).answers (request, session) n = once answer n ∧
      (bridge.over hop).requests (request, session) (n + 1) = [] := by
  have hpoll : ((bridge.over hop).poll (request, session)).value =
      (answer, (request, .closed)) := by
    rw [poll_over, h]
  constructor
  · cases n with
    | zero =>
      rw [Hop.answers, hpoll]
      rfl
    | succ n =>
      rw [Hop.answers, hpoll]
      exact (bridge.answers_over_closed request hop n).1
  · rw [Hop.requests, hpoll]
    exact (bridge.answers_over_closed request hop n).2

/-- A request that cannot be serialized is answered with that failure and not handed on. -/
theorem reply_over_of_error {error : BridgeError}
    (h : (bridge.serializeRequest request).outcome = .error error) :
    (bridge.over hop).reply request = once (.failure (.bridge error)) ∧
      (bridge.over hop).sent request = fun _ => [] := by
  obtain ⟨hvalue, hevents⟩ := bridge.poll_idle_of_error hop h
  constructor
  · funext n
    exact (bridge.answers_over_of_closed hop hvalue n).1
  · funext n
    rw [sent_over]
    cases n with
    | zero => rw [requests_over_zero, hevents]
    | succ n => exact (bridge.answers_over_of_closed hop hvalue n).2

/-- A request that is refused behind the bridge is replied to by the refusal alone. -/
theorem reply_over_of_refused {next : Request} {error : RelayError}
    (h : (bridge.serializeRequest request).outcome = .ok next)
    (hrefused : (hop.forward next).value = .error error) (n : Nat) :
    (bridge.over hop).reply request n = once (.failure error) n ∧
      (bridge.over hop).sent request n =
        if n = 0 then requestsIn (hop.forward next).events else [] := by
  obtain ⟨hvalue, hevents⟩ := bridge.poll_idle_of_refused hop h hrefused
  have hanswers := bridge.answers_over_of_closed hop hvalue
  refine ⟨(hanswers n).1, ?_⟩
  rw [sent_over]
  cases n with
  | zero =>
    rw [requests_over_zero, hevents]
    rfl
  | succ n => exact (hanswers n).2

/-- A request that is taken behind the bridge is replied to by the answers there, with every
response parsed, up to the last one; and what is handed on ends with them. -/
theorem reply_over_of_accepted (hquiet : hop.ReleasesQuietly) {next : Request} {below : σ}
    (h : (bridge.serializeRequest request).outcome = .ok next)
    (haccepted : (hop.forward next).value = .ok below) (n : Nat) :
    (bridge.over hop).reply request n =
        (upToLast (hop.answers below) n).map (bridge.parsed request) ∧
      (bridge.over hop).sent request n =
        if Ended (hop.answers below) n then [] else
          (if n = 0 then requestsIn (hop.forward next).events else []) ++
            hop.requests below n := by
  obtain ⟨hvalue, hevents⟩ := bridge.poll_idle_of_accepted hop h haccepted
  have hopen := bridge.answers_over_of_below? request hop hquiet
    (rfl : (Session.pending below).below? = some below)
  have hsame := bridge.answers_over_congr hop hvalue
  refine ⟨(hsame n).1.trans (hopen n).1, ?_⟩
  rw [sent_over]
  cases n with
  | zero =>
    have hzero := (hopen 0).2
    rw [if_neg (not_ended_zero _), requests_over_zero] at hzero
    rw [requests_over_zero, hevents, hzero, if_neg (not_ended_zero _)]
    rfl
  | succ n =>
    rw [(hsame n).2, (hopen (n + 1)).2]
    rfl

/-- **A bridge replies what the hop behind it replies to the serialized request**, with every
response parsed, up to the first failure or end, and hands on the request for it. -/
theorem reply_over (hquiet : hop.ReleasesQuietly) {next : Request}
    (h : (bridge.serializeRequest request).outcome = .ok next) (n : Nat) :
    (bridge.over hop).reply request n =
        (upToLast (hop.reply next) n).map (bridge.parsed request) ∧
      (bridge.over hop).sent request n =
        if Ended (hop.reply next) n then [] else hop.sent next n := by
  cases hforward : (hop.forward next).value with
  | error error =>
    obtain ⟨hreply, hsent⟩ := bridge.reply_over_of_refused hop h hforward n
    rw [Hop.reply_of_error hforward, upToLast_once rfl, map_once_failure,
      Hop.sent_of_error hforward, ite_ended]
    exact ⟨hreply, hsent⟩
  | ok below =>
    rw [Hop.reply_of_ok hforward, Hop.sent_of_ok hforward]
    exact bridge.reply_over_of_accepted hop hquiet h hforward n

/-- What serializing a request keeps: everything but the values of the variables. -/
theorem outcome_serializeRequest (request : Request) :
    (bridge.serializeRequest request).outcome =
      (bridge.serializeVariables request.document request.operationName
        request.variableValues).outcome.map
          fun values => { request with variableValues := values } := by
  unfold serializeRequest
  rw [Attempt.outcome_bind]
  rfl

/-- **The stream of a bridge is a parsed copy of the stream below**, over any number of polls.
The bridge takes every request, without handing it on yet.  If the variables of the request
cannot be serialized, that is the only answer, and nothing is handed on.  Else the transport is
given the request once, at the first poll, with serialized variables.  If it refuses, that is the
only answer; and if it accepts, the answers are its own, with every response parsed, up to the
first failure or end. -/
theorem stream_is_parsed_copy (transport : Transport) (request : Request) :
    (bridge.over transport.hop).forward request = pure (.ok (request, .idle)) ∧
    (∀ error,
      (bridge.serializeVariables request.document request.operationName
        request.variableValues).outcome = .error error →
      ∀ n,
        (bridge.over transport.hop).answers (request, .idle) n =
          once (.failure (.bridge error)) n ∧
        (bridge.over transport.hop).requests (request, .idle) n = []) ∧
    ∀ values,
      (bridge.serializeVariables request.document request.operationName
        request.variableValues).outcome = .ok values →
      (∀ n,
        (bridge.over transport.hop).requests (request, .idle) n =
          if n = 0 then [{ request with variableValues := values }] else []) ∧
      (∀ error,
        transport.answers { request with variableValues := values } = .error error →
        ∀ n, (bridge.over transport.hop).answers (request, .idle) n = once (.failure error) n) ∧
      ∀ script,
        transport.answers { request with variableValues := values } = .ok script →
        ∀ n, (bridge.over transport.hop).answers (request, .idle) n =
          (upToLast script n).map (bridge.parsed request) := by
  refine ⟨rfl, ?_, ?_⟩
  · intro error herror n
    have hserialized : (bridge.serializeRequest request).outcome = .error error := by
      rw [outcome_serializeRequest, herror]
      rfl
    obtain ⟨hreply, hsent⟩ := bridge.reply_over_of_error transport.hop hserialized
    refine ⟨congrFun hreply n, ?_⟩
    rw [← sent_over, hsent]
  · intro values hvalues
    have hserialized : (bridge.serializeRequest request).outcome =
        .ok { request with variableValues := values } := by
      rw [outcome_serializeRequest, hvalues]
      rfl
    have hover := bridge.reply_over transport.hop transport.releasesQuietly_hop hserialized
    refine ⟨fun n => ?_, fun error hrefused n => ?_, fun script haccepted n => ?_⟩
    · rw [← sent_over, (hover n).2, transport.sent_hop, ite_ended]
    · have hreply := (hover n).1
      rw [transport.reply_hop_of_refused hrefused, upToLast_once rfl, map_once_failure] at hreply
      exact hreply
    · have hreply := (hover n).1
      rw [transport.reply_hop haccepted] at hreply
      exact hreply

end Bridge

/-- A bridge for the coats of pets, which the client and the server call by different names. -/
def coatBridge (clientName serverName : String) : Bridge where
  schema :=
    { roots := ⟨some "Query", none, none⟩
      types :=
        [("Query", ⟨"Query", .object [] [("coat", .named "Colour")]⟩),
          ("Colour", ⟨"Colour", .enum ["BLACK", "WHITE"]⟩)] }
  rules := .ofSettings [.valueTable "Colour" (.ofList [(clientName, .string serverName)])]

/-- The request `query ($like: Colour) { coat }`. -/
def coatRequest (like : String) : Request where
  document :=
    { definitions :=
        [.operation
          { kind := .query
            name := none
            variableDefinitions := [⟨"like", .named "Colour"⟩]
            selections := [.field ⟨none, "coat"⟩ []] }] }
  operationName := none
  variableValues := [("like", .string like)]
  extensions := []

/-- The response to it, with a coat. -/
def coatResponse (coat : String) : Response where
  data := some (.object [("coat", .string coat)])
  errors := []
  extensions := []

/-- Answers that go on behind a failure. -/
def coatScript (coat : String) : Nat → Poll
  | 0 => .pending
  | 1 => .response (coatResponse coat)
  | 2 => .failure (.downstream (.ofMessage "connection lost"))
  | _ => .response (coatResponse coat)

/-- A transport that accepts every request. -/
def coatTransport (coat : String) : Transport where
  answers _ := .ok (coatScript coat)

/-- The client is sent the one response in its own words, and nothing behind the failure. -/
theorem stream_is_parsed_copy_coat :
    ((coatBridge "Black as night" "BLACK").serializeVariables
        (coatRequest "Black as night").document none [("like", .string "Black as night")]).outcome =
          .ok [("like", .string "BLACK")] ∧
      (coatTransport "BLACK").answers (coatRequest "BLACK") = .ok (coatScript "BLACK") ∧
      (∀ n,
        ((coatBridge "Black as night" "BLACK").over (coatTransport "BLACK").hop).requests
            (coatRequest "Black as night", .idle) n =
          if n = 0 then [coatRequest "BLACK"] else []) ∧
      (List.range 4).map
          (((coatBridge "Black as night" "BLACK").over (coatTransport "BLACK").hop).answers
            (coatRequest "Black as night", .idle)) =
        [.pending, .response (coatResponse "Black as night"),
          .failure (.downstream (.ofMessage "connection lost")), .finished] := by
  obtain ⟨-, -, hserialized⟩ :=
    (coatBridge "Black as night" "BLACK").stream_is_parsed_copy (coatTransport "BLACK")
      (coatRequest "Black as night")
  obtain ⟨hgiven, -, hanswers⟩ := hserialized [("like", .string "BLACK")] rfl
  refine ⟨rfl, rfl, hgiven, ?_⟩
  rw [funext (hanswers (coatScript "BLACK") rfl)]
  rfl

end EnumBridge
