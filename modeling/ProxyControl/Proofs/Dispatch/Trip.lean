import ProxyControl.Proofs.Dispatch.Course

/-!
# Round trips

A round trip is an attempt handed over and what the transport does with it. On every lane the
round trips follow one another: each has ended by the time the next one starts, they start in
the order in which their attempts were submitted, and each ends in the one outcome that it
determines by itself. The other outcomes are of attempts given up while they were in line.
-/
namespace ProxyControl.Dispatch

structure Trip where
  handover : Handover
  reply : Reply
  deriving DecidableEq, Repr

namespace Trip

def attempt (trip : Trip) : Attempt := trip.handover.attempt

/-- What the transport produces before the caller's deadline, and when. -/
def completion? (settings : Settings) (trip : Trip) : Option (Nanoseconds × Result Text) :=
  (trip.reply.landing? trip.handover.instant).filter fun landing =>
    landing.1 < trip.attempt.deadline settings

/-- How a round trip ends for the caller: with what the transport produces in time, or else at
the deadline, when it is abandoned. -/
def outcome (settings : Settings) (trip : Trip) : Outcome :=
  match trip.completion? settings with
  | some (instant, result) => ⟨trip.attempt, instant, result⟩
  | none => trip.attempt.gaveUp settings

/-- A round trip as the lane sees it. -/
def flight (trip : Trip) : Flight :=
  ⟨trip.attempt, trip.reply.landing? trip.handover.instant⟩

@[simp] theorem outcome_attempt (settings : Settings) (trip : Trip) :
    (trip.outcome settings).attempt = trip.attempt := by
  unfold outcome
  split <;> rfl

theorem completion?_eq_some_iff {settings : Settings} {trip : Trip} {instant : Nanoseconds}
    {result : Result Text} :
    trip.completion? settings = some (instant, result) ↔
      trip.reply.landing? trip.handover.instant = some (instant, result) ∧
        instant < trip.attempt.deadline settings := by
  simp [completion?, Option.filter_eq_some_iff]

theorem outcome_of_landing {settings : Settings} {trip : Trip} {instant : Nanoseconds}
    {result : Result Text}
    (lands : trip.reply.landing? trip.handover.instant = some (instant, result))
    (inTime : instant < trip.attempt.deadline settings) :
    trip.outcome settings = ⟨trip.attempt, instant, result⟩ := by
  rw [outcome, completion?_eq_some_iff.mpr ⟨lands, inTime⟩]

theorem outcome_of_late {settings : Settings} {trip : Trip}
    (late : ∀ landing ∈ trip.reply.landing? trip.handover.instant,
      trip.attempt.deadline settings ≤ landing.1) :
    trip.outcome settings = trip.attempt.gaveUp settings := by
  have none : trip.completion? settings = none := by
    rw [completion?, Option.filter_eq_none_iff]
    intro landing lands
    simpa using late landing lands
  rw [outcome, none]

theorem handover_le_outcome {settings : Settings} {trip : Trip}
    (early : trip.handover.instant ≤ trip.attempt.deadline settings) :
    trip.handover.instant ≤ (trip.outcome settings).instant := by
  cases completed : trip.completion? settings with
  | none =>
    rw [outcome, completed]
    exact early
  | some landing =>
    obtain ⟨instant, result⟩ := landing
    have lands := (completion?_eq_some_iff.mp completed).1
    rw [outcome, completed]
    exact Reply.le_landing lands

end Trip

/-- The round trips of some handovers, given those before them. -/
def tripsFrom (transport : Transport) (history : List Handover) : List Handover → List Trip
  | [] => []
  | handover :: rest =>
    ⟨handover, transport history handover⟩ :: tripsFrom transport (history ++ [handover]) rest

theorem tripsFrom_append (transport : Transport) (history first second : List Handover) :
    tripsFrom transport history (first ++ second) =
      tripsFrom transport history first ++ tripsFrom transport (history ++ first) second := by
  induction first generalizing history with
  | nil => simp [tripsFrom]
  | cons handover rest ih => simp [tripsFrom, ih, List.append_assoc]

theorem map_handover_tripsFrom (transport : Transport) (history handovers : List Handover) :
    (tripsFrom transport history handovers).map Trip.handover = handovers := by
  induction handovers generalizing history with
  | nil => rfl
  | cons handover rest ih => simp [tripsFrom, ih]

theorem reply_of_mem_tripsFrom {transport : Transport} {history handovers : List Handover}
    {trip : Trip} (member : trip ∈ tripsFrom transport history handovers) :
    ∃ earlier, trip.reply = transport earlier trip.handover := by
  induction handovers generalizing history with
  | nil => cases member
  | cons handover rest ih =>
    rcases List.mem_cons.mp member with rfl | later
    · exact ⟨history, rfl⟩
    · exact ih later

namespace Record

/-- All round trips, in the order in which they start. -/
def trips (transport : Transport) (record : Record) : List Trip :=
  tripsFrom transport [] record.handovers

/-- The round trips to one endpoint. -/
def tripsTo (transport : Transport) (endpoint : Endpoint) (record : Record) : List Trip :=
  (record.trips transport).filter fun trip => trip.attempt.endpoint = endpoint

/-- The round trips made for one caller. -/
def tripsOf (transport : Transport) (caller : Nat) (record : Record) : List Trip :=
  (record.trips transport).filter fun trip => trip.attempt.caller = caller

/-- The attempts submitted for one endpoint. -/
def submittedTo (endpoint : Endpoint) (record : Record) : List Attempt :=
  record.submissions.filter fun attempt => attempt.endpoint = endpoint

theorem map_handover_trips (transport : Transport) (record : Record) :
    (record.trips transport).map Trip.handover = record.handovers :=
  map_handover_tripsFrom transport [] record.handovers

theorem mem_tripsTo {transport : Transport} {endpoint : Endpoint} {record : Record}
    {trip : Trip} :
    trip ∈ record.tripsTo transport endpoint ↔
      trip ∈ record.trips transport ∧ trip.attempt.endpoint = endpoint := by
  simp [tripsTo]

end Record

/-! ### One lane -/

/-- What holds of a lane at an instant. `ended` are the round trips to the lane's endpoint that
are over, and `aloft` is the one that is not, if there is one. -/
structure Serial (settings : Settings) (now : Nanoseconds) (endpoint : Endpoint)
    (submitted : List Attempt) (outcomes : List Outcome) (lane : Lane)
    (ended aloft : List Trip) : Prop where
  flight : lane.flight.toList = aloft.map Trip.flight
  lasts : ∀ trip ∈ ended ++ aloft, trip.attempt.submitted ≤ trip.handover.instant ∧
    trip.handover.instant ≤ (trip.outcome settings).instant
  apart : (ended ++ aloft).Pairwise fun first second =>
    (first.outcome settings).instant ≤ second.handover.instant
  recorded : ∀ trip ∈ ended, trip.outcome settings ∈ outcomes ∧
    (trip.outcome settings).instant ≤ now
  inOrder : ((ended ++ aloft).map Trip.attempt ++ lane.waiting).Sublist submitted
  outcome : ∀ outcome ∈ outcomes, outcome.attempt.endpoint = endpoint →
    (∃ trip ∈ ended, outcome = trip.outcome settings) ∨
    (outcome = outcome.attempt.gaveUp settings ∧
      outcome.attempt ∉ (ended ++ aloft).map Trip.attempt ++ lane.waiting)

namespace Serial

variable {settings : Settings} {now instant : Nanoseconds} {endpoint : Endpoint}
  {submitted : List Attempt} {outcomes : List Outcome} {lane : Lane} {ended aloft : List Trip}

/-- Nothing changes for a lane when something happens on another one. -/
theorem elsewhere (serial : Serial settings now endpoint submitted outcomes lane ended aloft)
    (later : now ≤ instant) {more : List Outcome}
    (others : ∀ outcome ∈ more, outcome.attempt.endpoint ≠ endpoint) :
    Serial settings instant endpoint submitted (outcomes ++ more) lane ended aloft := by
  refine ⟨serial.flight, serial.lasts, serial.apart, fun trip member => ?_, serial.inOrder, ?_⟩
  · obtain ⟨recorded, early⟩ := serial.recorded trip member
    exact ⟨List.mem_append_left _ recorded, early.trans later⟩
  · intro outcome member place
    rcases List.mem_append.mp member with before | now
    · exact serial.outcome outcome before place
    · exact absurd place (others outcome now)

theorem submit (serial : Serial settings now endpoint submitted outcomes lane ended aloft)
    (later : now ≤ instant) {attempt : Attempt}
    (fresh : ∀ outcome ∈ outcomes, outcome.attempt ≠ attempt) :
    Serial settings instant endpoint (submitted ++ [attempt]) outcomes (lane.submit attempt)
      ended aloft := by
  refine ⟨serial.flight, serial.lasts, serial.apart, fun trip member => ?_, ?_, ?_⟩
  · obtain ⟨recorded, early⟩ := serial.recorded trip member
    exact ⟨recorded, early.trans later⟩
  · rw [Lane.waiting_submit, ← List.append_assoc]
    exact serial.inOrder.append (.refl [attempt])
  · intro outcome member place
    rcases serial.outcome outcome member place with landed | ⟨gaveUp, gone⟩
    · exact .inl landed
    · -- whoever gave up is out of line for good, and the new attempt is somebody else's
      refine .inr ⟨gaveUp, ?_⟩
      rw [Lane.waiting_submit, ← List.append_assoc, List.mem_append, List.mem_singleton]
      rintro (before | same)
      · exact gone before
      · exact fresh outcome member same

theorem submit_all (serial : Serial settings now endpoint submitted outcomes lane ended aloft)
    {attempts : List Attempt}
    (fresh : ∀ attempt ∈ attempts, ∀ outcome ∈ outcomes, outcome.attempt ≠ attempt) :
    Serial settings now endpoint (submitted ++ attempts) outcomes
      (attempts.foldl Lane.submit lane) ended aloft := by
  induction attempts generalizing submitted lane with
  | nil => simpa using serial
  | cons attempt rest ih =>
    have one := serial.submit (Nat.le_refl now) (fresh attempt List.mem_cons_self)
    have all := ih one fun other member => fresh other (List.mem_cons_of_mem _ member)
    rw [List.foldl_cons]
    simpa using all

/-- The round trip that a lane has aloft, if it has one. -/
theorem exists_aloft (serial : Serial settings now endpoint submitted outcomes lane ended aloft)
    {flight : Flight} (flying : lane.flight = some flight) :
    ∃ trip, aloft = [trip] ∧ trip.flight = flight := by
  have same := serial.flight
  rw [flying, Option.toList_some] at same
  exact List.map_eq_singleton_iff.mp same.symm

theorem aloft_eq_nil (serial : Serial settings now endpoint submitted outcomes lane ended aloft)
    (idle : lane.flight = none) : aloft = [] := by
  have same := serial.flight
  rw [idle, Option.toList_none] at same
  exact List.map_eq_nil_iff.mp same.symm

/-- A round trip that lands is over, with the outcome that it determines. -/
theorem land (serial : Serial settings now endpoint submitted outcomes lane ended aloft)
    (later : now ≤ instant) {flight : Flight} (flying : lane.flight = some flight)
    {result : Result Text} (lands : flight.landing = some (instant, result))
    (inTime : instant < flight.attempt.deadline settings) :
    Serial settings instant endpoint submitted
      (outcomes ++ [⟨flight.attempt, instant, result⟩]) lane.land (ended ++ aloft) [] := by
  obtain ⟨trip, rfl, rfl⟩ := serial.exists_aloft flying
  have outcome : trip.outcome settings = ⟨trip.flight.attempt, instant, result⟩ :=
    Trip.outcome_of_landing lands inTime
  rw [← outcome]
  constructor
  case flight => rfl
  case lasts => simpa using serial.lasts
  case apart => simpa using serial.apart
  case recorded =>
    intro other inAll
    rcases List.mem_append.mp inAll with before | current
    · obtain ⟨recorded, early⟩ := serial.recorded other before
      exact ⟨List.mem_append_left _ recorded, early.trans later⟩
    · rw [List.mem_singleton.mp current]
      refine ⟨List.mem_append_right _ List.mem_cons_self, ?_⟩
      rw [outcome]
  case inOrder => simpa using serial.inOrder
  case outcome =>
    intro other member place
    rcases List.mem_append.mp member with before | now
    · rcases serial.outcome other before place with ⟨landed, inEnded, same⟩ | gone
      · exact .inl ⟨landed, List.mem_append_left _ inEnded, same⟩
      · exact .inr (by simpa using gone)
    · exact .inl ⟨trip, List.mem_append_right _ List.mem_cons_self, List.mem_singleton.mp now⟩

/-- Those who give up on a lane do so at their deadlines. -/
theorem expired_outcomes (least : ∀ attempt ∈ lane.live, instant ≤ attempt.deadline settings) :
    ((lane.expired settings instant).map fun attempt =>
      (⟨attempt, instant, .error (attempt.timedOut settings)⟩ : Outcome)) =
      (lane.expired settings instant).map fun attempt => attempt.gaveUp settings := by
  refine List.map_congr_left fun attempt expired => ?_
  obtain ⟨live, due⟩ := Lane.mem_expired.mp expired
  rw [Attempt.gaveUp, Nat.le_antisymm due (least attempt live)]

private theorem give_up (serial : Serial settings now endpoint submitted outcomes lane ended aloft)
    (later : now ≤ instant) (nodup : submitted.Nodup) {ended' aloft' : List Trip}
    (all : ended' ++ aloft' = ended ++ aloft)
    (flight : (lane.expire settings instant).flight.toList = aloft'.map Trip.flight)
    (kept : ∀ trip ∈ ended, trip ∈ ended')
    (new : ∀ trip ∈ ended', trip ∈ ended ∨ (trip.outcome settings = trip.attempt.gaveUp settings ∧
      trip.attempt ∈ lane.expired settings instant))
    (aboard : ∀ flight, lane.flight = some flight → flight.attempt ∈ lane.expired settings instant →
      ∃ trip ∈ ended', flight.attempt.gaveUp settings = trip.outcome settings) :
    Serial settings instant endpoint submitted
      (outcomes ++ (lane.expired settings instant).map fun attempt => attempt.gaveUp settings)
      (lane.expire settings instant) ended' aloft' := by
  have fewer : ((ended ++ aloft).map Trip.attempt ++
      (lane.expire settings instant).waiting).Sublist
        ((ended ++ aloft).map Trip.attempt ++ lane.waiting) := by
    rw [Lane.waiting_expire]
    exact (List.Sublist.refl _).append List.filter_sublist
  constructor
  case flight => exact flight
  case lasts => rw [all]; exact serial.lasts
  case apart => rw [all]; exact serial.apart
  case recorded =>
    intro trip member
    rcases new trip member with before | ⟨gaveUp, expired⟩
    · obtain ⟨recorded, early⟩ := serial.recorded trip before
      exact ⟨List.mem_append_left _ recorded, early.trans later⟩
    · rw [gaveUp]
      exact ⟨List.mem_append_right _ (List.mem_map_of_mem expired), (Lane.mem_expired.mp expired).2⟩
  case inOrder =>
    rw [all]
    exact fewer.trans serial.inOrder
  case outcome =>
    intro outcome member place
    rw [all]
    rcases List.mem_append.mp member with before | now
    · rcases serial.outcome outcome before place with ⟨trip, inEnded, same⟩ | ⟨gaveUp, gone⟩
      · exact .inl ⟨trip, kept trip inEnded, same⟩
      · exact .inr ⟨gaveUp, fun still => gone (fewer.subset still)⟩
    · obtain ⟨attempt, expired, rfl⟩ := List.mem_map.mp now
      obtain ⟨live, due⟩ := Lane.mem_expired.mp expired
      rw [Lane.live_eq, List.mem_append] at live
      rcases live with inFlight | inLine
      · simp only [Option.mem_toList, Option.map_eq_some_iff] at inFlight
        obtain ⟨flight, flying, rfl⟩ := inFlight
        exact .inl (aboard flight flying expired)
      · -- whoever gives up in line was never handed over and leaves the line for good
        have once := serial.inOrder.nodup nodup
        refine .inr ⟨rfl, fun still => ?_⟩
        rcases List.mem_append.mp still with handed | stays
        · exact List.disjoint_of_nodup_append once handed inLine
        · rw [Lane.waiting_expire, List.mem_filter] at stays
          exact absurd (of_decide_eq_true stays.2) (Nat.not_lt.mpr due)

/-- Callers give up: a round trip for one of them is over, and the places of the others in line
are left. -/
theorem expire (serial : Serial settings now endpoint submitted outcomes lane ended aloft)
    (later : now ≤ instant) (nodup : submitted.Nodup)
    (least : ∀ attempt ∈ lane.live, instant ≤ attempt.deadline settings)
    (flying : ∀ flight, lane.flight = some flight →
      ∀ landing ∈ flight.landing, instant ≤ landing.1) :
    ∃ ended' aloft', ended' ++ aloft' = ended ++ aloft ∧
      Serial settings instant endpoint submitted
        (outcomes ++ (lane.expired settings instant).map fun attempt =>
          ⟨attempt, instant, .error (attempt.timedOut settings)⟩)
        (lane.expire settings instant) ended' aloft' := by
  rw [expired_outcomes least]
  cases aboard : lane.flight with
  | none =>
    refine ⟨ended, aloft, rfl, serial.give_up later nodup rfl ?_ ?_ ?_ ?_⟩
    · simp [Lane.expire, aboard, serial.aloft_eq_nil aboard]
    · exact fun trip member => member
    · exact fun trip member => .inl member
    · simp [aboard]
  | some flight =>
    obtain ⟨trip, rfl, rfl⟩ := serial.exists_aloft aboard
    cases stays : Lane.isOpen settings instant trip.attempt with
    | true =>
      refine ⟨ended, [trip], rfl, serial.give_up later nodup rfl ?_ ?_ ?_ ?_⟩
      · simp [Lane.expire, aboard, stays, Trip.flight, Option.filter]
      · exact fun trip member => member
      · exact fun trip member => .inl member
      · intro flight same expired
        rw [aboard, Option.some.injEq] at same
        subst same
        simp [Lane.expired, Trip.flight, stays] at expired
    | false =>
      -- the round trip is abandoned just at the deadline, before it could land
      have live : trip.attempt ∈ lane.live := Lane.mem_live_of_flight aboard
      have due : trip.attempt.deadline settings ≤ instant :=
        Nat.le_of_not_lt (of_decide_eq_false stays)
      have outcome : trip.outcome settings = trip.attempt.gaveUp settings := by
        apply Trip.outcome_of_late
        rw [Nat.le_antisymm due (least _ live)]
        exact flying _ aboard
      have expired : trip.attempt ∈ lane.expired settings instant :=
        Lane.mem_expired.mpr ⟨live, due⟩
      refine ⟨ended ++ [trip], [], by simp, serial.give_up later nodup (by simp) ?_ ?_ ?_ ?_⟩
      · simp [Lane.expire, aboard, stays, Trip.flight, Option.filter]
      · exact fun other member => List.mem_append_left _ member
      · intro other member
        rcases List.mem_append.mp member with before | now
        · exact .inl before
        · rw [List.mem_singleton.mp now]
          exact .inr ⟨outcome, expired⟩
      · intro flight same _
        rw [aboard, Option.some.injEq] at same
        subst same
        exact ⟨trip, List.mem_append_right _ List.mem_cons_self, outcome.symm⟩

/-- An idle lane starts the round trip of the first attempt in line. -/
theorem handOver (serial : Serial settings instant endpoint submitted outcomes lane ended aloft)
    (inTime : ∀ attempt ∈ lane.waiting,
      attempt.submitted ≤ instant ∧ instant ≤ attempt.deadline settings)
    (transport : Transport) (history : List Handover) :
    ∃ ended' aloft', ended' ++ aloft' = ended ++ aloft ++
        tripsFrom transport history (lane.handOver transport history instant).2 ∧
      Serial settings instant endpoint submitted outcomes
        (lane.handOver transport history instant).1 ended' aloft' := by
  obtain ⟨flight, flying, same⟩ | ⟨idle, empty, same⟩ | ⟨attempt, line, idle, next, same⟩ :=
    Lane.handOver_cases transport history instant lane
  · rw [same]
    exact ⟨ended, aloft, by simp [tripsFrom], serial⟩
  · rw [same]
    have waiting : ({ lane with line := [] } : Lane).waiting = lane.waiting := by
      rw [empty]
      rfl
    refine ⟨ended, aloft, by simp [tripsFrom], ?_⟩
    refine ⟨serial.flight, serial.lasts, serial.apart, serial.recorded, ?_, ?_⟩
    · rw [waiting]
      exact serial.inOrder
    · rw [waiting]
      exact serial.outcome
  · -- all that came before is over, so the new round trip is apart from it
    obtain rfl := serial.aloft_eq_nil idle
    rw [same]
    have inOrder := serial.inOrder
    have outcome := serial.outcome
    simp only [List.append_nil, next] at inOrder outcome
    refine ⟨ended, [⟨⟨attempt, instant⟩, transport history ⟨attempt, instant⟩⟩],
      by simp [tripsFrom], ?_⟩
    constructor
    case flight => rfl
    case lasts =>
      have lasts := serial.lasts
      rw [List.append_nil] at lasts
      intro trip member
      rcases List.mem_append.mp member with before | here
      · exact lasts trip before
      · rw [List.mem_singleton.mp here]
        obtain ⟨submitted, early⟩ := inTime attempt (by simp [next])
        exact ⟨submitted, Trip.handover_le_outcome early⟩
    case apart =>
      -- whatever has ended has ended by now, and the new round trip starts now
      have apart := serial.apart
      rw [List.append_nil] at apart
      refine List.pairwise_append.mpr ⟨apart, List.pairwise_singleton _ _, ?_⟩
      intro trip member started here
      rw [List.mem_singleton.mp here]
      exact (serial.recorded trip member).2
    case recorded => exact serial.recorded
    case inOrder => simpa [Lane.waiting, Trip.attempt] using inOrder
    case outcome => simpa [Lane.waiting, Trip.attempt] using outcome

end Serial

/-! ### All lanes -/

namespace State

variable {settings : Settings} {endpoints : List Endpoint} {transport : Transport}
  {calls : List Call}

/-- On every lane the round trips have followed one another so far. -/
def InTurn (settings : Settings) (transport : Transport) (now : Nanoseconds) (state : State) :
    Prop :=
  ∀ endpoint, ∃ ended aloft, state.record.tripsTo transport endpoint = ended ++ aloft ∧
    Serial settings now endpoint (state.record.submittedTo endpoint) state.record.outcomes
      (state.lane endpoint) ended aloft

private theorem tripsTo_advance {state : State} {endpoint : Endpoint} {lane : Lane}
    {submissions : List Attempt} {outcomes : List Outcome}
    (own : AllFor endpoint lane submissions outcomes) (instant : Nanoseconds)
    (other : Endpoint) :
    (state.advance transport endpoint instant lane submissions outcomes).record.tripsTo
        transport other =
      state.record.tripsTo transport other ++ if other = endpoint then
        tripsFrom transport state.record.handovers
          (lane.handOver transport state.record.handovers instant).2 else [] := by
  have here : ∀ trip ∈ tripsFrom transport state.record.handovers
      (lane.handOver transport state.record.handovers instant).2,
      trip.attempt.endpoint = endpoint := by
    intro trip member
    apply own.handed transport state.record.handovers instant trip.handover
    rw [← map_handover_tripsFrom transport state.record.handovers
      (lane.handOver transport state.record.handovers instant).2]
    exact List.mem_map_of_mem member
  simp only [Record.tripsTo, Record.trips, advance_handovers, tripsFrom_append, List.nil_append,
    List.filter_append]
  congr 1
  split
  next same =>
    subst same
    exact List.filter_eq_self.mpr fun trip member => by simpa using here trip member
  next ne =>
    exact List.filter_eq_nil_iff.mpr fun trip member => by simpa [here trip member] using Ne.symm ne

theorem InTurn.advance {state : State} {now instant : Nanoseconds}
    (inTurn : InTurn settings transport now state) (later : now ≤ instant) {endpoint : Endpoint}
    {upcoming : List Attempt} {lane : Lane} {submissions : List Attempt} {outcomes : List Outcome}
    (own : AllFor endpoint lane submissions outcomes)
    (inTime : ∀ attempt ∈ lane.waiting,
      attempt.submitted ≤ instant ∧ instant ≤ attempt.deadline settings)
    (here : ∃ ended aloft, state.record.tripsTo transport endpoint = ended ++ aloft ∧
      Serial settings instant endpoint (state.record.submittedTo endpoint ++ submissions)
        (state.record.outcomes ++ outcomes) lane ended aloft) :
    InTurn settings transport instant
      (advance transport { state with upcoming } endpoint instant lane submissions outcomes) := by
  -- the lane that changes goes on to hand over; the others only see time pass
  intro other
  rw [tripsTo_advance own]
  by_cases same : other = endpoint
  · subst same
    obtain ⟨before, aloft, trips, serial⟩ := here
    obtain ⟨before', aloft', all, serial'⟩ := serial.handOver inTime transport
      state.record.handovers
    refine ⟨before', aloft', ?_, ?_⟩
    · rw [if_pos rfl, all]
      exact congrArg (· ++ _) trips
    · have all : submissions.filter (fun attempt => attempt.endpoint = other) = submissions :=
        List.filter_eq_self.mpr fun attempt member => by simpa using own.submitted attempt member
      rw [advance_lane]
      simpa [Record.submittedTo, all] using serial'
  · obtain ⟨before, aloft, trips, serial⟩ := inTurn other
    refine ⟨before, aloft, ?_, ?_⟩
    · rw [if_neg same, List.append_nil]
      exact trips
    · have none : submissions.filter (fun attempt => attempt.endpoint = other) = [] :=
        List.filter_eq_nil_iff.mpr fun attempt member => by
          simpa [own.submitted attempt member] using Ne.symm same
      rw [advance_lane_of_ne _ _ _ _ _ _ _ same]
      have others : ∀ outcome ∈ outcomes, outcome.attempt.endpoint ≠ other := by
        intro outcome member
        rw [own.recorded outcome member]
        exact Ne.symm same
      have kept := serial.elsewhere later others
      simpa [Record.submittedTo, none] using kept

private theorem Reachable.inTime {now : Nanoseconds} {state : State}
    (reached : Reachable settings endpoints transport calls now state) {endpoint : Endpoint}
    {attempt : Attempt} (live : attempt ∈ (state.lane endpoint).live) :
    attempt.submitted ≤ now ∧ now ≤ attempt.deadline settings :=
  ⟨reached.timely.submitted attempt (reached.known.live endpoint attempt live),
    reached.timely.deadline endpoint attempt live⟩

/-- What still waits after a happening is in time when the lane hands over. -/
private theorem inTime_of_advance {state : State} {instant : Nanoseconds} {endpoint : Endpoint}
    {upcoming : List Attempt} {lane : Lane} {submissions : List Attempt} {outcomes : List Outcome}
    (reached : Reachable settings endpoints transport calls instant
      (advance transport { state with upcoming } endpoint instant lane submissions outcomes)) :
    ∀ attempt ∈ lane.waiting, attempt.submitted ≤ instant ∧
      instant ≤ attempt.deadline settings := by
  intro attempt inLine
  refine reached.inTime (?_ : attempt ∈ (State.lane _ endpoint).live)
  rw [live_advance, if_pos rfl]
  exact Lane.mem_live_of_waiting inLine

section Happenings

variable {now : Nanoseconds} {state : State}

theorem InTurn.submission (inTurn : InTurn settings transport now state)
    (reached : Reachable settings endpoints transport calls now state) {attempt : Attempt}
    {rest : List Attempt} (later : now ≤ attempt.submitted)
    (reaches : Reachable settings endpoints transport calls attempt.submitted
      (state.submit transport attempt rest)) :
    InTurn settings transport attempt.submitted (state.submit transport attempt rest) := by
  refine inTurn.advance later (reached.placed.submission attempt) (inTime_of_advance reaches) ?_
  obtain ⟨ended, aloft, trips, serial⟩ := inTurn attempt.endpoint
  refine ⟨ended, aloft, trips, ?_⟩
  rw [List.append_nil]
  apply serial.submit later
  -- the attempts that have ended were submitted before, and none is submitted twice
  intro outcome member same
  have before := reached.known.outcomes outcome member
  exact List.disjoint_of_nodup_append reaches.nodup_submissions before (by simp [same])

theorem InTurn.landing (inTurn : InTurn settings transport now state)
    (reached : Reachable settings endpoints transport calls now state) {instant : Nanoseconds}
    (later : now ≤ instant) {endpoint : Endpoint} {flight : Flight} {result : Result Text}
    (flying : (state.lane endpoint).flight = some flight)
    (lands : flight.landing = some (instant, result))
    (inTime : instant < flight.attempt.deadline settings)
    (reaches : Reachable settings endpoints transport calls instant
      (state.land settings transport endpoint instant result)) :
    InTurn settings transport instant (state.land settings transport endpoint instant result) := by
  rw [land_eq flying] at reaches ⊢
  have aboard := Lane.mem_live_of_flight flying
  refine inTurn.advance later (reached.placed.landing flying settings instant result)
    (inTime_of_advance reaches) ?_
  obtain ⟨ended, aloft, trips, serial⟩ := inTurn endpoint
  refine ⟨ended ++ aloft, [], by rw [List.append_nil, trips], ?_⟩
  apply (serial.land later flying lands inTime).submit_all
  -- a retry is new, the attempt that has just landed included
  intro retry retried outcome recorded same
  have before : outcome.attempt ∈ state.record.submissions := by
    rcases List.mem_append.mp recorded with before | now
    · exact reached.known.outcomes outcome before
    · rw [List.mem_singleton.mp now]
      exact reached.known.live endpoint _ aboard
  exact List.disjoint_of_nodup_append reaches.nodup_submissions before (same ▸ retried)

theorem InTurn.expiry (inTurn : InTurn settings transport now state)
    (reached : Reachable settings endpoints transport calls now state) {instant : Nanoseconds}
    (later : now ≤ instant) {endpoint : Endpoint}
    (flying : ∀ flight, (state.lane endpoint).flight = some flight →
      ∀ landing ∈ flight.landing, instant ≤ landing.1)
    (quiet : state.Quiet settings endpoints instant)
    (reaches : Reachable settings endpoints transport calls instant
      (state.expire settings transport endpoint instant)) :
    InTurn settings transport instant (state.expire settings transport endpoint instant) := by
  have placed := reached.placed
  refine inTurn.advance later (placed.expiry endpoint settings instant)
    (inTime_of_advance reaches) ?_
  obtain ⟨ended, aloft, trips, serial⟩ := inTurn endpoint
  have submittedOnce : (state.record.submittedTo endpoint).Nodup :=
    reached.nodup_submissions.filter _
  obtain ⟨ended', aloft', all, serial'⟩ := serial.expire later submittedOnce
    (fun attempt live => (quiet.lane placed endpoint).le_deadline live) flying
  refine ⟨ended', aloft', by rw [all, trips], ?_⟩
  simpa using serial'

end Happenings

theorem InTurn.happens {now instant : Nanoseconds} {state next : State}
    (inTurn : InTurn settings transport now state)
    (reached : Reachable settings endpoints transport calls now state)
    (h : Happens settings endpoints transport state instant next) :
    InTurn settings transport instant next := by
  have later := reached.timely.le h
  have reaches := reached.happening h
  cases h with
  | submission upcoming before => exact inTurn.submission reached later reaches
  | @landing endpoint flight _ result member flying lands inTime quiet =>
    have inTime := inTime _ (Lane.mem_live_of_flight flying)
    exact inTurn.landing reached later flying lands inTime reaches
  | expiry member due flying quiet => exact inTurn.expiry reached later flying quiet reaches

theorem Reachable.inTurn {now : Nanoseconds} {state : State}
    (h : Reachable settings endpoints transport calls now state) :
    InTurn settings transport now state := by
  induction h with
  | start =>
    -- no lane has been used, so there is nothing to be in turn
    intro endpoint
    refine ⟨[], [], rfl, ⟨rfl, by simp, .nil, by simp, by simp [Lane.waiting, State.start], ?_⟩⟩
    simp [State.start]
  | happening reached happens ih => exact ih.happens reached happens

end State

end ProxyControl.Dispatch
