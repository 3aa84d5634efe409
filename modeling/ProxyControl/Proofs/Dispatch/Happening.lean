import ProxyControl.Dispatch.Run
import ProxyControl.Proofs.Dispatch.Lane

/-!
# Happenings

A step of a run is one of three happenings: a call is submitted, a round trip lands, or callers
give up. Everything that is proved of runs is proved for each of the three and carried along the
states that a run reaches.
-/
namespace ProxyControl.Dispatch

/-- The second attempt that follows a result, if one does. -/
def retriesAfter (settings : Settings) (attempt : Attempt) (instant : Nanoseconds)
    (result : Result Text) : List Attempt :=
  if State.isRetried settings attempt result then [attempt.again instant] else []

theorem mem_retriesAfter {settings : Settings} {attempt first : Attempt} {instant : Nanoseconds}
    {result : Result Text} :
    attempt ∈ retriesAfter settings first instant result ↔
      State.isRetried settings first result = true ∧ attempt = first.again instant := by
  unfold retriesAfter
  split <;> simp_all

/-- What the caller of an attempt gets when its deadline comes. -/
def Attempt.gaveUp (attempt : Attempt) (settings : Settings) : Outcome :=
  ⟨attempt, attempt.deadline settings, .error (attempt.timedOut settings)⟩

namespace State

variable {settings : Settings} {endpoints : List Endpoint} {transport : Transport}

/-! ### The lane that something happens on -/

section Advance

variable (transport : Transport) (state : State) (endpoint : Endpoint) (instant : Nanoseconds)
  (lane : Lane) (submissions : List Attempt) (outcomes : List Outcome)

@[simp] theorem advance_upcoming :
    (state.advance transport endpoint instant lane submissions outcomes).upcoming =
      state.upcoming := rfl

@[simp] theorem advance_submissions :
    (state.advance transport endpoint instant lane submissions outcomes).record.submissions =
      state.record.submissions ++ submissions := rfl

@[simp] theorem advance_handovers :
    (state.advance transport endpoint instant lane submissions outcomes).record.handovers =
      state.record.handovers ++ (lane.handOver transport state.record.handovers instant).2 := rfl

@[simp] theorem advance_outcomes :
    (state.advance transport endpoint instant lane submissions outcomes).record.outcomes =
      state.record.outcomes ++ outcomes := rfl

@[simp] theorem advance_lane :
    (state.advance transport endpoint instant lane submissions outcomes).lane endpoint =
      (lane.handOver transport state.record.handovers instant).1 :=
  if_pos rfl

theorem advance_lane_of_ne {other : Endpoint} (ne : other ≠ endpoint) :
    (state.advance transport endpoint instant lane submissions outcomes).lane other =
      state.lane other :=
  if_neg ne

theorem live_advance (other : Endpoint) :
    ((state.advance transport endpoint instant lane submissions outcomes).lane other).live =
      if other = endpoint then lane.live else (state.lane other).live := by
  split
  next same =>
    subst same
    rw [advance_lane, Lane.live_handOver]
  next ne => rw [advance_lane_of_ne _ _ _ _ _ _ _ ne]

end Advance

theorem land_eq {state : State} {endpoint : Endpoint} {flight : Flight}
    (flying : (state.lane endpoint).flight = some flight) (instant : Nanoseconds)
    (result : Result Text) :
    state.land settings transport endpoint instant result =
      state.advance transport endpoint instant
        ((retriesAfter settings flight.attempt instant result).foldl Lane.submit
          (state.lane endpoint).land)
        (retriesAfter settings flight.attempt instant result)
        [⟨flight.attempt, instant, result⟩] := by
  -- at most one attempt lands, so at most one is made again
  have retries : ([flight.attempt].filter (isRetried settings · result)).map (·.again instant) =
      retriesAfter settings flight.attempt instant result := by
    unfold retriesAfter
    split <;> simp_all
  simp only [land, flying, Option.map_some, Option.toList_some, retries, List.map_cons,
    List.map_nil]

/-! ### Steps -/

/-- Nothing is due before an instant: on no lane, and no call either. -/
structure Quiet (settings : Settings) (endpoints : List Endpoint) (state : State)
    (instant : Nanoseconds) : Prop where
  lanes : ∀ endpoint ∈ endpoints, (state.lane endpoint).Quiet settings instant
  calls : ∀ attempt ∈ state.upcoming.head?, instant ≤ attempt.submitted

/-- What can happen in a state, when, and the state that follows. -/
inductive Happens (settings : Settings) (endpoints : List Endpoint) (transport : Transport)
    (state : State) : Nanoseconds → State → Prop
  | submission {attempt : Attempt} {rest : List Attempt}
      (upcoming : state.upcoming = attempt :: rest)
      (before : ∀ endpoint ∈ endpoints, ∀ turn ∈ (state.lane endpoint).next? settings,
        attempt.submitted < turn.1) :
      Happens settings endpoints transport state attempt.submitted
        (state.submit transport attempt rest)
  | landing {endpoint : Endpoint} {flight : Flight} {instant : Nanoseconds}
      {result : Result Text}
      (member : endpoint ∈ endpoints)
      (flying : (state.lane endpoint).flight = some flight)
      (lands : flight.landing = some (instant, result))
      (inTime : ∀ attempt ∈ (state.lane endpoint).live, instant < attempt.deadline settings)
      (quiet : state.Quiet settings endpoints instant) :
      Happens settings endpoints transport state instant
        (state.land settings transport endpoint instant result)
  | expiry {endpoint : Endpoint} {instant : Nanoseconds}
      (member : endpoint ∈ endpoints)
      (due : ∃ attempt ∈ (state.lane endpoint).live, attempt.deadline settings = instant)
      (flying : ∀ flight, (state.lane endpoint).flight = some flight →
        ∀ landing ∈ flight.landing, instant ≤ landing.1)
      (quiet : state.Quiet settings endpoints instant) :
      Happens settings endpoints transport state instant
        (state.expire settings transport endpoint instant)

private theorem earliest?_eq_none_iff {α : Type} (candidates : List (Nanoseconds × α)) :
    earliest? candidates = none ↔ candidates = [] := by
  cases candidates with
  | nil => simp [earliest?]
  | cons first rest =>
    simp only [earliest?, reduceCtorEq, iff_false]
    split
    · simp
    · split <;> simp

private theorem earliest?_spec {α : Type} {candidates : List (Nanoseconds × α)} {found}
    (h : earliest? candidates = some found) :
    found ∈ candidates ∧ ∀ candidate ∈ candidates, found.1 ≤ candidate.1 := by
  induction candidates generalizing found with
  | nil => simp [earliest?] at h
  | cons first rest ih =>
    simp only [earliest?] at h
    cases later : earliest? rest with
    | none =>
      simp only [later, Option.some.injEq] at h
      subst h
      rw [earliest?_eq_none_iff] at later
      simp [later]
    | some other =>
      obtain ⟨member, least⟩ := ih later
      simp only [later] at h
      -- the first candidate wins against the earliest of the others, or it does not
      split at h <;> cases h
      next le =>
        refine ⟨List.mem_cons_self, ?_⟩
        simp only [List.mem_cons, forall_eq_or_imp, Nat.le_refl, true_and]
        exact fun candidate h => Nat.le_trans le (least candidate h)
      next gt =>
        refine ⟨List.mem_cons_of_mem _ member, ?_⟩
        simp only [List.mem_cons, forall_eq_or_imp]
        exact ⟨Nat.le_of_not_le gt, least⟩

theorem nextTurn?_spec {state : State} {instant : Nanoseconds} {endpoint : Endpoint} {turn : Turn}
    (h : state.nextTurn? settings endpoints = some (instant, endpoint, turn)) :
    endpoint ∈ endpoints ∧ (state.lane endpoint).next? settings = some (instant, turn) ∧
      ∀ other ∈ endpoints, (state.lane other).Quiet settings instant := by
  obtain ⟨member, least⟩ := earliest?_spec h
  simp only [List.mem_filterMap, Option.map_eq_some_iff] at member
  obtain ⟨place, inside, found, next, same⟩ := member
  simp only [Prod.mk.injEq] at same
  obtain ⟨rfl, rfl, rfl⟩ := same
  refine ⟨inside, next, fun other among turn due => ?_⟩
  exact least (turn.1, other, turn.2) (List.mem_filterMap.mpr
    ⟨other, among, Option.map_eq_some_iff.mpr ⟨turn, due, rfl⟩⟩)

theorem nextTurn?_eq_none_iff (settings : Settings) (endpoints : List Endpoint) (state : State) :
    state.nextTurn? settings endpoints = none ↔
      ∀ endpoint ∈ endpoints, (state.lane endpoint).live = [] := by
  simp [nextTurn?, earliest?_eq_none_iff, List.filterMap_eq_nil_iff, Lane.next?_eq_none_iff]

private theorem happens_turn {state : State} {instant : Nanoseconds} {endpoint : Endpoint}
    {turn : Turn} (h : state.nextTurn? settings endpoints = some (instant, endpoint, turn))
    (calls : ∀ attempt ∈ state.upcoming.head?, instant ≤ attempt.submitted) :
    Happens settings endpoints transport state instant
      (state.turn settings transport endpoint instant turn) := by
  obtain ⟨member, next, quiet⟩ := nextTurn?_spec h
  obtain ⟨flight, result, rfl, flying, lands, inTime⟩ | ⟨rfl, due, -, flying⟩ :=
    Lane.next?_cases next
  · exact .landing member flying lands inTime ⟨quiet, calls⟩
  · exact .expiry member due flying ⟨quiet, calls⟩

/-- Every step is one of the happenings. -/
theorem step_happens {state next : State}
    (h : state.step settings endpoints transport = some next) :
    ∃ instant, Happens settings endpoints transport state instant next := by
  unfold step at h
  cases turned : state.nextTurn? settings endpoints with
  | none =>
    cases upcoming : state.upcoming with
    | nil => simp [turned, upcoming] at h
    | cons attempt rest =>
      simp only [turned, upcoming, Option.some.injEq] at h
      subst h
      -- no lane has a turn, so the call comes before all of them
      rw [nextTurn?_eq_none_iff] at turned
      refine ⟨_, .submission upcoming fun endpoint member turn due => ?_⟩
      rw [(Lane.next?_eq_none_iff settings _).mpr (turned endpoint member)] at due
      simp at due
  | some found =>
    obtain ⟨instant, endpoint, turn⟩ := found
    cases upcoming : state.upcoming with
    | nil =>
      simp only [turned, upcoming, Option.some.injEq] at h
      subst h
      exact ⟨instant, happens_turn turned (by simp [upcoming])⟩
    | cons attempt rest =>
      simp only [turned, upcoming] at h
      -- a lane's turn and the next call compete, and the lane goes first at one instant
      split at h <;> cases h
      next first => exact ⟨instant, happens_turn turned (by simpa [upcoming] using first)⟩
      next later =>
        refine ⟨_, .submission upcoming fun other member turn due => ?_⟩
        have least := (nextTurn?_spec turned).2.2 other member turn due
        exact Nat.lt_of_lt_of_le (Nat.lt_of_not_le later) least

/-- A run rests only when every call has been submitted and every attempt has ended. -/
theorem step_eq_none_iff (state : State) :
    state.step settings endpoints transport = none ↔
      state.upcoming = [] ∧ ∀ endpoint ∈ endpoints, (state.lane endpoint).live = [] := by
  rw [← nextTurn?_eq_none_iff settings]
  unfold step
  cases state.nextTurn? settings endpoints with
  | none => cases state.upcoming <;> simp
  | some found =>
    cases state.upcoming with
    | nil => simp
    | cons attempt rest =>
      simp only [reduceCtorEq, and_self, iff_false]
      split <;> simp

end State

end ProxyControl.Dispatch
