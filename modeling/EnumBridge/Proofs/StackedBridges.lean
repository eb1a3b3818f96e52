import EnumBridge.Proofs.RelayedStream

/-!
# Bridges on top of each other

`Stack.through` takes a request through some bridges, the first of which serializes it first, and
says what these bridges make of a response on its way back; or it stops at the first bridge
that cannot serialize what it is given.

A stack of bridges over a transport does with a request what `through` says, however its sessions
hand polls and failures on to each other (`stack_composes`): its streams are the transport's,
with every response taken back through the bridges.  A response collects one error at most on
its way, because it has no data any more behind the bridge that could not parse it.
-/

set_option autoImplicit false

namespace EnumBridge

/-! ## Scripts -/

/-- Where the answers up to the last one come to an end, so do the answers. -/
theorem ended_upToLast_iff {answers : Nat → Poll} {n : Nat} :
    Ended (upToLast answers) n ↔ Ended answers n := by
  constructor
  · rintro ⟨i, hi, hlast⟩
    by_cases hended : Ended answers i
    · obtain ⟨j, hj, hlast⟩ := hended
      exact ⟨j, Nat.lt_trans hj hi, hlast⟩
    · rw [upToLast, if_neg hended] at hlast
      exact ⟨i, hi, hlast⟩
  · rintro ⟨i, hi, hlast⟩
    refine ⟨i, hi, ?_⟩
    unfold upToLast
    split
    · rfl
    · exact hlast

/-- Answers that end with the last one do so also with their responses replaced. -/
theorem upToLast_map (answers : Nat → Poll) (f : Response → Response) :
    upToLast (fun n => (upToLast answers n).map f) = fun n => (upToLast answers n).map f := by
  funext n
  have hmap : Ended (fun n => (upToLast answers n).map f) n ↔ Ended (upToLast answers) n := by
    simp only [Ended, Poll.isLast_map]
  have hiff := hmap.trans ended_upToLast_iff
  by_cases hended : Ended answers n
  · rw [upToLast, if_pos (hiff.mpr hended), upToLast, if_pos hended]
    rfl
  · rw [upToLast, if_neg (mt hiff.mp hended)]

/-- Of two changes of a response one is made to what the other has made. -/
theorem Poll.map_map (f g : Response → Response) (answer : Poll) :
    (answer.map g).map f = answer.map fun response => f (g response) := by
  cases answer <;> rfl

/-- An answer with its own response in it is the same answer. -/
theorem Poll.map_id (answer : Poll) : answer.map id = answer := by
  cases answer <;> rfl

/-! ## The way through -/

namespace Stack

/-- A request as the last of some bridges hands it on, and what the bridges make of a response
to it on the way back; or the error of the first bridge that cannot serialize it. -/
def through : List Bridge → Request → Except BridgeError (Request × (Response → Response))
  | [], request => .ok (request, id)
  | bridge :: rest, request =>
    match (bridge.serializeRequest request).outcome with
    | .error error => .error error
    | .ok next =>
      match through rest next with
      | .error error => .error error
      | .ok (last, back) => .ok (last, fun response => bridge.parsed request (back response))

/-- The first of some bridges that cannot serialize what it is given fails with that error. -/
def FailsWith (bridges : List Bridge) (request : Request) (error : BridgeError) : Prop :=
  ∃ before failing after reached back, bridges = before ++ failing :: after ∧
    through before request = .ok (reached, back) ∧
    (failing.serializeRequest reached).outcome = .error error

/-- A way through some bridges goes through the first one and then through the others, and comes
back the other way round. -/
theorem through_cons_eq_ok {bridge : Bridge} {rest : List Bridge} {request last : Request}
    {back : Response → Response} (h : through (bridge :: rest) request = .ok (last, back)) :
    ∃ next wayBack, (bridge.serializeRequest request).outcome = .ok next ∧
      through rest next = .ok (last, wayBack) ∧
      back = fun response => bridge.parsed request (wayBack response) := by
  rw [through] at h
  cases hnext : (bridge.serializeRequest request).outcome with
  | error error =>
    rw [hnext] at h
    cases h
  | ok next =>
    rw [hnext] at h
    cases hrest : through rest next with
    | error error =>
      simp only [hrest] at h
      cases h
    | ok result =>
      simp only [hrest] at h
      cases h
      exact ⟨next, _, rfl, hrest, rfl⟩

/-- Where the first bridge serializes what it is given, the way stops if it does behind that
bridge. -/
theorem through_cons_eq_error_iff {bridge : Bridge} {rest : List Bridge} {request next : Request}
    {error : BridgeError} (hnext : (bridge.serializeRequest request).outcome = .ok next) :
    through (bridge :: rest) request = .error error ↔ through rest next = .error error := by
  rw [through, hnext]
  cases hrest : through rest next with
  | error other => simp only [hrest]
  | ok result =>
    simp only [hrest]
    exact ⟨fun h => (nomatch h), fun h => (nomatch h)⟩

/-- The way stops at the first bridge that cannot serialize what it is given, and nowhere
else. -/
theorem through_eq_error_iff {bridges : List Bridge} {request : Request} {error : BridgeError} :
    through bridges request = .error error ↔ FailsWith bridges request error := by
  constructor
  · intro h
    induction bridges generalizing request with
    | nil => cases h
    | cons bridge rest ih =>
      cases hnext : (bridge.serializeRequest request).outcome with
      | error other =>
        rw [through, hnext] at h
        cases h
        exact ⟨[], bridge, rest, request, id, rfl, rfl, hnext⟩
      | ok next =>
        have hrest : through rest next = .error error := (through_cons_eq_error_iff hnext).mp h
        obtain ⟨before, failing, after, reached, back, rfl, hbefore, hfailing⟩ := ih hrest
        refine ⟨bridge :: before, failing, after, reached,
          fun response => bridge.parsed request (back response), rfl, ?_, hfailing⟩
        rw [through, hnext]
        simp only [hbefore]
  · rintro ⟨before, failing, after, reached, back, rfl, hbefore, hfailing⟩
    induction before generalizing request back with
    | nil =>
      cases hbefore
      rw [List.nil_append, through, hfailing]
    | cons bridge rest ih =>
      obtain ⟨next, wayBack, hnext, hrest, -⟩ := through_cons_eq_ok hbefore
      exact (through_cons_eq_error_iff hnext).mpr (ih _ hrest)

/-- If no bridge fails, there is a way through. -/
theorem exists_through {bridges : List Bridge} {request : Request}
    (h : ∀ error, ¬ FailsWith bridges request error) :
    ∃ last back, through bridges request = .ok (last, back) := by
  cases hthrough : through bridges request with
  | error error => exact absurd (through_eq_error_iff.mp hthrough) (h error)
  | ok result => exact ⟨result.1, result.2, rfl⟩

/-- A response without data stays as it is. -/
theorem parsed_of_none (bridge : Bridge) (request : Request) {response : Response}
    (h : response.data = none) : bridge.parsed request response = response := by
  unfold Bridge.parsed Bridge.parseResponse
  rw [h]
  rfl

/-- A bridge keeps the errors of a response, or adds one error and drops the data. -/
theorem errors_parsed (bridge : Bridge) (request : Request) (response : Response) :
    (bridge.parsed request response).errors = response.errors ∨
      (bridge.parsed request response).data = none ∧
        ∃ error, (bridge.parsed request response).errors = response.errors ++ [error] := by
  unfold Bridge.parsed Bridge.parseResponse
  cases response.data with
  | none => exact .inl rfl
  | some data =>
    simp only [Traced.value_bind]
    cases (bridge.parseData request.document request.operationName data).run.value with
    | ok data => exact .inl rfl
    | error error => exact .inr ⟨rfl, _, rfl⟩

/-- On the way back a response keeps its errors, or it loses its data and gets one error more. -/
theorem errors_back {bridges : List Bridge} {request last : Request}
    {back : Response → Response} (h : through bridges request = .ok (last, back))
    (response : Response) :
    (back response).errors = response.errors ∨
      (back response).data = none ∧
        ∃ error, (back response).errors = response.errors ++ [error] := by
  induction bridges generalizing request back with
  | nil =>
    cases h
    exact .inl rfl
  | cons bridge rest ih =>
    obtain ⟨next, wayBack, -, hrest, rfl⟩ := through_cons_eq_ok h
    have hparsed := errors_parsed bridge request (wayBack response)
    rcases ih hrest with hkept | ⟨hnone, error, hadded⟩
    · rcases hparsed with hsame | ⟨hlost, error, hmore⟩
      · exact .inl (hsame.trans hkept)
      · exact .inr ⟨hlost, error, hkept ▸ hmore⟩
    · -- The data were lost further behind, so this bridge has nothing to parse.
      have hunchanged : bridge.parsed request (wayBack response) = wayBack response :=
        parsed_of_none bridge request hnone
      simp only [hunchanged]
      exact .inr ⟨hnone, error, hadded⟩

/-! ## Stacks -/

section Hops

variable (transport : Transport)

/-- A stream of a stack is released without a request. -/
theorem releasesQuietly_hop (bridges : List Bridge) :
    (hop transport.hop bridges).ReleasesQuietly := by
  induction bridges with
  | nil => exact transport.releasesQuietly_hop
  | cons bridge rest ih =>
    rintro ⟨request, session⟩
    show requestsIn (session.release (hop transport.hop rest)).events = []
    unfold Session.release
    cases session.below? with
    | none => rfl
    | some below => exact ih below

/-- Where the way through stops, its error is the only answer, and the transport is given
nothing. -/
theorem reply_hop_of_error {bridges : List Bridge} {request : Request} {error : BridgeError}
    (h : through bridges request = .error error) :
    (hop transport.hop bridges).reply request = once (.failure (.bridge error)) ∧
      (hop transport.hop bridges).sent request = fun _ => [] := by
  induction bridges generalizing request with
  | nil => cases h
  | cons bridge rest ih =>
    cases hnext : (bridge.serializeRequest request).outcome with
    | error other =>
      rw [through, hnext] at h
      cases h
      exact bridge.reply_over_of_error (hop transport.hop rest) hnext
    | ok next =>
      have hrest : through rest next = .error error := (through_cons_eq_error_iff hnext).mp h
      obtain ⟨hreply, hsent⟩ := ih hrest
      have hquiet := releasesQuietly_hop transport rest
      have hover := bridge.reply_over (hop transport.hop rest) hquiet hnext
      rw [hreply, hsent, upToLast_once rfl] at hover
      simp only [map_once_failure, ite_self] at hover
      exact ⟨funext fun n => (hover n).1, funext fun n => (hover n).2⟩

/-- What a bridge makes of the answers of a stack behind it, if these are a transport's answers
taken back through the stack. -/
theorem reply_hop_cons {bridge : Bridge} {rest : List Bridge} {request next last : Request}
    {wayBack : Response → Response} (hnext : (bridge.serializeRequest request).outcome = .ok next)
    (hinner : upToLast ((hop transport.hop rest).reply next) =
      fun n => (upToLast (transport.hop.reply last) n).map wayBack) :
    (hop transport.hop (bridge :: rest)).reply request = fun n =>
      (upToLast (transport.hop.reply last) n).map fun response =>
        bridge.parsed request (wayBack response) := by
  funext n
  have hquiet := releasesQuietly_hop transport rest
  have hover := bridge.reply_over (hop transport.hop rest) hquiet hnext n
  rw [hinner, Poll.map_map] at hover
  exact hover.1

/-- **A stack hands a request through and takes the answers back**, up to the last of them. -/
theorem reply_hop_of_ok {bridges : List Bridge} {request last : Request}
    {back : Response → Response} (h : through bridges request = .ok (last, back)) :
    upToLast ((hop transport.hop bridges).reply request) =
        (fun n => (upToLast (transport.hop.reply last) n).map back) ∧
      (hop transport.hop bridges).sent request = fun n => if n = 0 then [last] else [] := by
  induction bridges generalizing request back with
  | nil =>
    cases h
    refine ⟨funext fun n => (Poll.map_id _).symm, funext fun n => ?_⟩
    exact transport.sent_hop _ n
  | cons bridge rest ih =>
    obtain ⟨next, wayBack, hnext, hrest, rfl⟩ := through_cons_eq_ok h
    obtain ⟨hinner, hsent⟩ := ih hrest
    refine ⟨?_, funext fun n => ?_⟩
    · rw [reply_hop_cons transport hnext hinner, upToLast_map]
    · have hquiet := releasesQuietly_hop transport rest
      have hover := bridge.reply_over (hop transport.hop rest) hquiet hnext n
      rw [hsent, ite_ended] at hover
      exact hover.2

end Hops

end Stack

/-- **A stack of bridges over a transport composes**, over any number of polls.  It takes every
request, and nothing is handed on before the first poll.  If some bridge cannot serialize what
it is given, the error of the first such bridge is the only answer, and the transport is given
nothing.  If there is no such bridge, the transport is given, once and at the first poll, the
request as the last bridge hands it on.  If it refuses, that is the only answer; and if it
accepts, the answers are its own, with every response taken back through the bridges, up to the
first failure or end.  On the way back a response gets one error more at most. -/
theorem stack_composes (transport : Transport) (bridge : Bridge) (rest : List Bridge)
    (request : Request) :
    ∃ stream, (Stack.hop transport.hop (bridge :: rest)).forward request = pure (.ok stream) ∧
      (∀ error, Stack.FailsWith (bridge :: rest) request error →
        ∀ n,
          (Stack.hop transport.hop (bridge :: rest)).answers stream n =
            once (.failure (.bridge error)) n ∧
          (Stack.hop transport.hop (bridge :: rest)).requests stream n = []) ∧
      ((∀ error, ¬ Stack.FailsWith (bridge :: rest) request error) →
        ∃ last back, Stack.through (bridge :: rest) request = .ok (last, back) ∧
          (∀ n,
            (Stack.hop transport.hop (bridge :: rest)).requests stream n =
              if n = 0 then [last] else []) ∧
          (∀ error, transport.answers last = .error error →
            ∀ n, (Stack.hop transport.hop (bridge :: rest)).answers stream n =
              once (.failure error) n) ∧
          (∀ script, transport.answers last = .ok script →
            ∀ n, (Stack.hop transport.hop (bridge :: rest)).answers stream n =
              (upToLast script n).map back) ∧
          ∀ response, ∃ added,
            (back response).errors = response.errors ++ added ∧ added.length ≤ 1) := by
  have hsent (n : Nat) :
      (Stack.hop transport.hop (bridge :: rest)).sent request n =
        (Stack.hop transport.hop (bridge :: rest)).requests (request, .idle) n :=
    bridge.sent_over (Stack.hop transport.hop rest) n
  refine ⟨(request, Session.idle), rfl, ?_, ?_⟩
  · intro error hfails n
    have herror := Stack.through_eq_error_iff.mpr hfails
    obtain ⟨hreply, hnone⟩ := Stack.reply_hop_of_error transport herror
    exact ⟨congrFun hreply n, (hsent n).symm.trans (congrFun hnone n)⟩
  · intro hnone
    obtain ⟨last, back, hthrough⟩ := Stack.exists_through hnone
    obtain ⟨next, wayBack, hnext, hrest, hback⟩ := Stack.through_cons_eq_ok hthrough
    have hreply := Stack.reply_hop_cons transport hnext (Stack.reply_hop_of_ok transport hrest).1
    rw [← hback] at hreply
    refine ⟨last, back, hthrough, ?_, ?_, ?_, ?_⟩
    · intro n
      have hgiven := (Stack.reply_hop_of_ok transport hthrough).2
      exact (hsent n).symm.trans (congrFun hgiven n)
    · intro error hrefused n
      rw [transport.reply_hop_of_refused hrefused, upToLast_once rfl] at hreply
      exact (congrFun hreply n).trans (map_once_failure _ error n)
    · intro script haccepted n
      rw [transport.reply_hop haccepted] at hreply
      exact congrFun hreply n
    · intro response
      rcases Stack.errors_back hthrough response with hkept | ⟨-, error, hadded⟩
      · exact ⟨[], by rw [hkept, List.append_nil], Nat.zero_le 1⟩
      · exact ⟨[error], hadded, Nat.le_refl 1⟩

/-- Two bridges, of which the second one takes the server's names of the first for those of its
own client. -/
def coatBridges : List Bridge := [coatBridge "Black as night" "BLACK", coatBridge "BLACK" "#000000"]

/-- Both bridges have a part in the names that the transport is sent and the client is sent back. -/
theorem stack_composes_coat :
    (∀ error, ¬ Stack.FailsWith coatBridges (coatRequest "Black as night") error) ∧
      ∃ stream,
        (Stack.hop (coatTransport "#000000").hop coatBridges).forward
          (coatRequest "Black as night") = pure (.ok stream) ∧
        (coatTransport "#000000").answers (coatRequest "#000000") =
          .ok (coatScript "#000000") ∧
        (∀ n,
          (Stack.hop (coatTransport "#000000").hop coatBridges).requests stream n =
            if n = 0 then [coatRequest "#000000"] else []) ∧
        (List.range 4).map ((Stack.hop (coatTransport "#000000").hop coatBridges).answers stream) =
          [.pending, .response (coatResponse "Black as night"),
            .failure (.downstream (.ofMessage "connection lost")), .finished] := by
  have hnone (error : BridgeError) :
      ¬ Stack.FailsWith coatBridges (coatRequest "Black as night") error := by
    intro hfails
    cases Stack.through_eq_error_iff.mpr hfails
  obtain ⟨stream, htaken, -, hthrough⟩ :=
    stack_composes (coatTransport "#000000") (coatBridge "Black as night" "BLACK")
      [coatBridge "BLACK" "#000000"] (coatRequest "Black as night")
  obtain ⟨last, back, hway, hgiven, -, hanswers, -⟩ := hthrough hnone
  have hlast : last = coatRequest "#000000" := by
    cases hway
    rfl
  have hpolls : (List.range 4).map (fun n => (upToLast (coatScript "#000000") n).map back) =
      [.pending, .response (coatResponse "Black as night"),
        .failure (.downstream (.ofMessage "connection lost")), .finished] := by
    cases hway
    rfl
  have hanswered := funext (hanswers (coatScript "#000000") rfl)
  rw [hlast] at hgiven
  exact ⟨hnone, stream, htaken, rfl, hgiven,
    (congrArg (fun answers => (List.range 4).map answers) hanswered).trans hpolls⟩

end EnumBridge
