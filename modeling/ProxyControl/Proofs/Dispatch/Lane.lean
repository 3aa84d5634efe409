import Mathlib.Data.List.Basic
import ProxyControl.Dispatch.Lane

/-!
# What a lane does

The operations on a lane, told by what they do to its round trip and to the attempts in line
whose callers still wait. The places of callers who have given up never show, so nothing that
follows depends on how the line is divided into a queue and those behind it.
-/
namespace ProxyControl.Dispatch

/-- When the transport is done with a command that it is handed at an instant, if ever. -/
def Reply.landing? (instant : Nanoseconds) : Reply → Option (Nanoseconds × Result Text)
  | .never => none
  | .after delay result => some (instant + delay, result)

theorem Reply.le_landing {reply : Reply} {instant : Nanoseconds}
    {landing : Nanoseconds × Result Text} (lands : reply.landing? instant = some landing) :
    instant ≤ landing.1 := by
  cases reply with
  | never => simp [landing?] at lands
  | after delay result =>
    simp only [landing?, Option.some.injEq] at lands
    subst lands
    exact Nat.le_add_right _ _

namespace Lane

/-- The attempts in line whose callers still wait, in order. -/
def waiting (lane : Lane) : List Attempt := lane.line.filterMap id

theorem live_eq (lane : Lane) :
    lane.live = (lane.flight.map Flight.attempt).toList ++ lane.waiting := rfl

theorem mem_live_of_flight {lane : Lane} {flight : Flight} (flying : lane.flight = some flight) :
    flight.attempt ∈ lane.live := by
  simp [live_eq, flying]

theorem mem_live_of_waiting {lane : Lane} {attempt : Attempt} (h : attempt ∈ lane.waiting) :
    attempt ∈ lane.live := by
  rw [live_eq]
  exact List.mem_append_right _ h

/-! ### Submitting and landing -/

@[simp] theorem flight_submit (lane : Lane) (attempt : Attempt) :
    (lane.submit attempt).flight = lane.flight := rfl

@[simp] theorem waiting_submit (lane : Lane) (attempt : Attempt) :
    (lane.submit attempt).waiting = lane.waiting ++ [attempt] := by
  simp [waiting, submit]

theorem foldl_submit (lane : Lane) (attempts : List Attempt) :
    attempts.foldl submit lane = { lane with line := lane.line ++ attempts.map some } := by
  induction attempts generalizing lane with
  | nil => simp
  | cons attempt rest ih => simp [ih, submit]

@[simp] theorem flight_land (lane : Lane) : lane.land.flight = none := rfl

@[simp] theorem waiting_land (lane : Lane) : lane.land.waiting = lane.waiting := rfl

@[simp] theorem flight_foldl_submit (lane : Lane) (attempts : List Attempt) :
    (attempts.foldl submit lane).flight = lane.flight := by
  rw [foldl_submit]

@[simp] theorem waiting_foldl_submit (lane : Lane) (attempts : List Attempt) :
    (attempts.foldl submit lane).waiting = lane.waiting ++ attempts := by
  simp [foldl_submit, waiting]

/-! ### Giving up -/

theorem filterMap_filter_places (keep : Attempt → Bool) (line : List (Option Attempt)) :
    (line.map (·.filter keep)).filterMap id = (line.filterMap id).filter keep := by
  induction line with
  | nil => rfl
  | cons place line ih =>
    cases place with
    | none => simpa using ih
    | some attempt =>
      -- a place in the queue stays, taken or empty; either way its attempt counts only if kept
      cases kept : keep attempt <;> simpa [kept, Option.filter] using ih

private theorem filterMap_filter_any (keep : Attempt → Bool) (line : List (Option Attempt)) :
    (line.filter (·.any keep)).filterMap id = (line.filterMap id).filter keep := by
  induction line with
  | nil => rfl
  | cons place line ih =>
    cases place with
    | none => simpa using ih
    | some attempt =>
      cases kept : keep attempt <;> simpa [kept] using ih

@[simp] theorem waiting_expire (settings : Settings) (instant : Nanoseconds) (lane : Lane) :
    (lane.expire settings instant).waiting = lane.waiting.filter (isOpen settings instant) := by
  simp only [waiting, expire, lineAt, List.filterMap_append, filterMap_filter_places,
    filterMap_filter_any]
  -- the queue and the line behind it lose the same attempts, so they can be put together again
  rw [← List.filter_append, ← List.filterMap_append, List.take_append_drop]

theorem live_expire (settings : Settings) (instant : Nanoseconds) (lane : Lane) :
    (lane.expire settings instant).live = lane.live.filter (isOpen settings instant) := by
  rw [live_eq, live_eq, waiting_expire, List.filter_append]
  cases flying : lane.flight with
  | none => simp [expire, flying]
  | some flight =>
    cases kept : isOpen settings instant flight.attempt <;>
      simp [expire, flying, kept, Option.filter]

theorem mem_expired {settings : Settings} {instant : Nanoseconds} {lane : Lane}
    {attempt : Attempt} :
    attempt ∈ lane.expired settings instant ↔
      attempt ∈ lane.live ∧ attempt.deadline settings ≤ instant := by
  simp [expired, isOpen]

/-! ### Handing over -/

theorem filterMap_eq_of_first? {line rest : List (Option Attempt)} {attempt : Attempt}
    (h : first? line = some (attempt, rest)) :
    line.filterMap id = attempt :: rest.filterMap id := by
  induction line with
  | nil => simp [first?] at h
  | cons place line ih =>
    cases place with
    | none => simpa using ih h
    | some other =>
      simp only [first?, Option.some.injEq, Prod.mk.injEq] at h
      obtain ⟨rfl, rfl⟩ := h
      simp

theorem filterMap_eq_nil_of_first? {line : List (Option Attempt)}
    (h : first? line = none) : line.filterMap id = [] := by
  induction line with
  | nil => rfl
  | cons place line ih =>
    cases place with
    | none => simpa using ih h
    | some other => simp [first?] at h

/-- A lane hands over only when it is idle, and then the first attempt whose caller waits. -/
theorem handOver_cases (transport : Transport) (history : List Handover) (instant : Nanoseconds)
    (lane : Lane) :
    (∃ flight, lane.flight = some flight ∧
      lane.handOver transport history instant = (lane, [])) ∨
    (lane.flight = none ∧ lane.waiting = [] ∧
      lane.handOver transport history instant = ({ lane with line := [] }, [])) ∨
    (∃ attempt line, lane.flight = none ∧ lane.waiting = attempt :: line.filterMap id ∧
      lane.handOver transport history instant =
        ({ flight := some ⟨attempt, (transport history ⟨attempt, instant⟩).landing? instant⟩
           line }, [⟨attempt, instant⟩])) := by
  cases flying : lane.flight with
  | some flight => exact .inl ⟨flight, rfl, by simp [handOver, flying]⟩
  | none =>
    right
    cases firstInLine : first? lane.line with
    | none =>
      exact .inl ⟨rfl, filterMap_eq_nil_of_first? firstInLine, by
        simp [handOver, flying, firstInLine]⟩
    | some found =>
      obtain ⟨attempt, line⟩ := found
      refine .inr ⟨attempt, line, rfl, filterMap_eq_of_first? firstInLine, ?_⟩
      simp only [handOver, flying, firstInLine]
      cases transport history ⟨attempt, instant⟩ <;> rfl

@[simp] theorem live_handOver (transport : Transport) (history : List Handover)
    (instant : Nanoseconds) (lane : Lane) :
    (lane.handOver transport history instant).1.live = lane.live := by
  obtain ⟨flight, -, same⟩ | ⟨idle, empty, same⟩ | ⟨attempt, line, idle, next, same⟩ :=
    handOver_cases transport history instant lane
  · rw [same]
  · rw [same, live_eq, live_eq, empty]
    rfl
  · rw [same, live_eq, live_eq, next, idle]
    rfl

/-- What is handed over leaves the line at its front. -/
theorem handed_append_waiting (transport : Transport) (history : List Handover)
    (instant : Nanoseconds) (lane : Lane) :
    (lane.handOver transport history instant).2.map Handover.attempt
      ++ (lane.handOver transport history instant).1.waiting = lane.waiting := by
  obtain ⟨flight, -, same⟩ | ⟨idle, empty, same⟩ | ⟨attempt, line, idle, next, same⟩ :=
    handOver_cases transport history instant lane
  · simp [same]
  · rw [same, empty]
    rfl
  · rw [same, next]
    rfl

/-! ### The next turn -/

/-- Nothing is due on a lane before an instant. -/
def Quiet (settings : Settings) (instant : Nanoseconds) (lane : Lane) : Prop :=
  ∀ turn ∈ lane.next? settings, instant ≤ turn.1

theorem next?_eq_none_iff (settings : Settings) (lane : Lane) :
    lane.next? settings = none ↔ lane.live = [] := by
  simp [next?, List.min?_eq_none_iff]

/-- The next turn of a lane is the earliest deadline, or a landing before all deadlines. -/
theorem next?_cases {settings : Settings} {lane : Lane} {instant : Nanoseconds} {turn : Turn}
    (h : lane.next? settings = some (instant, turn)) :
    (∃ flight result, turn = .landing result ∧ lane.flight = some flight ∧
      flight.landing = some (instant, result) ∧
      ∀ attempt ∈ lane.live, instant < attempt.deadline settings) ∨
    (turn = .expiry ∧ (∃ attempt ∈ lane.live, attempt.deadline settings = instant) ∧
      (∀ attempt ∈ lane.live, instant ≤ attempt.deadline settings) ∧
      ∀ flight, lane.flight = some flight → ∀ landing ∈ flight.landing, instant ≤ landing.1) := by
  simp only [next?, Option.map_eq_some_iff] at h
  obtain ⟨deadline, earliest, found⟩ := h
  -- the deadline is the least of those on the lane; what is in hand may land before it
  rw [List.min?_eq_some_iff] at earliest
  simp only [List.mem_map, forall_exists_index, and_imp, forall_apply_eq_imp_iff₂] at earliest
  obtain ⟨due, least⟩ := earliest
  cases flying : lane.flight with
  | none =>
    simp only [flying, Option.bind_none, Prod.mk.injEq] at found
    obtain ⟨rfl, rfl⟩ := found
    exact .inr ⟨rfl, due, least, by simp⟩
  | some flight =>
    simp only [flying, Option.bind_some] at found
    cases lands : flight.landing with
    | none =>
      -- the round trip hangs
      simp only [lands, Prod.mk.injEq] at found
      obtain ⟨rfl, rfl⟩ := found
      exact .inr ⟨rfl, due, least, by simp [lands]⟩
    | some landing =>
      obtain ⟨landed, result⟩ := landing
      simp only [lands] at found
      split at found
      next early =>
        simp only [Prod.mk.injEq] at found
        obtain ⟨rfl, rfl⟩ := found
        exact .inl ⟨flight, result, rfl, rfl, lands, fun attempt member =>
          Nat.lt_of_lt_of_le early (least attempt member)⟩
      next late =>
        simp only [Prod.mk.injEq] at found
        obtain ⟨rfl, rfl⟩ := found
        exact .inr ⟨rfl, due, least, by simpa [lands] using late⟩

/-- A round trip that lands before all deadlines is the lane's next turn. -/
theorem next?_of_landing {settings : Settings} {lane : Lane} {flight : Flight}
    {instant : Nanoseconds} {result : Result Text} (flying : lane.flight = some flight)
    (lands : flight.landing = some (instant, result))
    (inTime : ∀ attempt ∈ lane.live, instant < attempt.deadline settings) :
    lane.next? settings = some (instant, .landing result) := by
  cases earliest : (lane.live.map (·.deadline settings)).min? with
  | none =>
    simp only [List.min?_eq_none_iff, List.map_eq_nil_iff] at earliest
    simpa [earliest] using mem_live_of_flight flying
  | some deadline =>
    obtain ⟨attempt, live, due⟩ :=
      List.mem_map.mp (List.min?_eq_some_iff.mp earliest).1
    have early : instant < deadline := due ▸ inTime attempt live
    simp [next?, earliest, flying, lands, early]

/-- If nothing lands before the earliest deadline, the deadline is the lane's next turn. -/
theorem next?_of_expiry {settings : Settings} {lane : Lane} {instant : Nanoseconds}
    (due : ∃ attempt ∈ lane.live, attempt.deadline settings = instant)
    (least : ∀ attempt ∈ lane.live, instant ≤ attempt.deadline settings)
    (flying : ∀ flight, lane.flight = some flight → ∀ landing ∈ flight.landing,
      instant ≤ landing.1) :
    lane.next? settings = some (instant, .expiry) := by
  have earliest : (lane.live.map (·.deadline settings)).min? = some instant := by
    rw [List.min?_eq_some_iff]
    simp only [List.mem_map, forall_exists_index, and_imp, forall_apply_eq_imp_iff₂]
    exact ⟨due, least⟩
  cases landing : lane.flight.bind Flight.landing with
  | none => simp [next?, earliest, landing]
  | some found =>
    obtain ⟨flight, aloft, lands⟩ := Option.bind_eq_some_iff.mp landing
    have late : ¬ found.1 < instant := Nat.not_lt.mpr (flying flight aloft found lands)
    simp [next?, earliest, landing, late]

theorem Quiet.le_deadline {settings : Settings} {instant : Nanoseconds} {lane : Lane}
    (quiet : lane.Quiet settings instant) {attempt : Attempt} (member : attempt ∈ lane.live) :
    instant ≤ attempt.deadline settings := by
  cases due : lane.next? settings with
  | none =>
    -- a lane without a turn has nobody on it
    rw [next?_eq_none_iff] at due
    simp [due] at member
  | some turn =>
    have before := quiet turn due
    obtain ⟨flight, result, -, -, -, early⟩ | ⟨-, -, least, -⟩ := next?_cases due
    · exact Nat.le_trans before (Nat.le_of_lt (early attempt member))
    · exact Nat.le_trans before (least attempt member)

theorem Quiet.le_landing {settings : Settings} {instant : Nanoseconds} {lane : Lane}
    (quiet : lane.Quiet settings instant) {flight : Flight} (flying : lane.flight = some flight)
    {landing : Nanoseconds × Result Text} (lands : flight.landing = some landing) :
    instant ≤ landing.1 := by
  cases due : lane.next? settings with
  | none =>
    rw [next?_eq_none_iff] at due
    simpa [due] using mem_live_of_flight flying
  | some turn =>
    have before := quiet turn due
    obtain ⟨other, result, -, same, landsToo, -⟩ | ⟨-, -, -, later⟩ := next?_cases due
    · rw [flying, Option.some.injEq] at same
      subst other
      rw [lands, Option.some.injEq] at landsToo
      rwa [landsToo]
    · exact Nat.le_trans before (later flight flying landing (by simp [lands]))

end Lane

end ProxyControl.Dispatch
