import HidBot.Ble.GraceAuthority

/-!
# Lawful logs of graces

What the arms are, without the words that hold them. Every event of a lawful log is one that
the state of its slot allows, and every incarnation is above all earlier ones. Then the events
of one incarnation are one of a few courses, and what can be said of an arm is read off its
course.
-/

namespace HidBot.GraceAuthority

open Interleaving GraceSlots

namespace Event

def slot : Event → Fin 2
  | reserved slot _ | armed slot _ _ | claimed _ slot _ _ | published _ slot _ | freed _ slot _
  | withdrawn slot _ | consumed slot _ _ => slot

def incarnation : Event → UInt64
  | reserved _ incarnation | armed _ incarnation _ | claimed _ _ incarnation _
  | published _ _ incarnation | freed _ _ incarnation | withdrawn _ incarnation
  | consumed _ incarnation _ => incarnation

def about (event : Event) (slot : Fin 2) (incarnation : UInt64) : Bool :=
  event.slot = slot && event.incarnation = incarnation

def reservedId : Event → Option UInt64
  | reserved _ incarnation => some incarnation
  | armed .. | claimed .. | published .. | freed .. | withdrawn .. | consumed .. => none

/-- The identity that the event is for. -/
def identity : Event → Option BleRouteReleaseIdentity
  | armed _ _ identity | claimed _ _ _ identity | consumed _ _ identity => some identity
  | reserved .. | published .. | freed .. | withdrawn .. => none

/-- The event ends the arm for its owner. -/
def past : Event → Bool
  | withdrawn .. | consumed .. => true
  | reserved .. | armed .. | claimed .. | published .. | freed .. => false

/-- The callback that makes the event. The others are of the executor. -/
def callback : Event → Option Nat
  | claimed callback _ _ _ | published callback _ _ | freed callback _ _ => some callback
  | reserved .. | armed .. | withdrawn .. | consumed .. => none

/-- The state that the event leads to. -/
def target (event : Event) (before : GraceState) : GraceState :=
  match event with
  | reserved .. => .arming
  | armed .. => .armed
  | claimed .. => .claimed
  | published .. => .due
  | freed .. | consumed .. => .idle
  | withdrawn .. => if before = .claimed then .canceledClaimed else .idle

end Event

/-- The incarnation and the state of a slot. -/
def current (slot : Fin 2) : List Event → UInt64 × GraceState
  | [] => (0, .idle)
  | event :: log =>
      if event.slot = slot then (event.incarnation, event.target (current slot log).2)
      else current slot log

def reservedIds (log : List Event) : List UInt64 := log.filterMap Event.reservedId

/-- What has happened to one incarnation. -/
def trace (slot : Fin 2) (incarnation : UInt64) (log : List Event) : List Event :=
  log.filter (·.about slot incarnation)

/-- The state of its slot and the events of its incarnation allow this event. -/
def Event.Legal (event : Event) (log : List Event) : Prop :=
  match event with
  | reserved slot incarnation =>
      (current slot log).2 = .idle ∧ 0 < incarnation ∧ incarnation ≤ Tagged.maxNumber ∧
        ∀ earlier ∈ reservedIds log, earlier < incarnation
  | armed slot incarnation _ => current slot log = (incarnation, .arming)
  | claimed _ slot incarnation identity =>
      current slot log = (incarnation, .armed) ∧ .armed slot incarnation identity ∈ log
  | published callback slot incarnation =>
      current slot log = (incarnation, .claimed) ∧
        ∃ identity, .claimed callback slot incarnation identity ∈ log
  | freed callback slot incarnation =>
      current slot log = (incarnation, .canceledClaimed) ∧
        ∃ identity, .claimed callback slot incarnation identity ∈ log
  | withdrawn slot incarnation =>
      ∃ state, current slot log = (incarnation, state) ∧
        (state = .armed ∨ state = .due ∨ state = .claimed)
  | consumed slot incarnation identity =>
      current slot log = (incarnation, .due) ∧ .armed slot incarnation identity ∈ log

def Lawful : List Event → Prop
  | [] => True
  | event :: log => event.Legal log ∧ Lawful log

/-- The courses that one incarnation can have taken, the latest event first, with the state
that each has led to. -/
inductive Course (slot : Fin 2) (incarnation : UInt64) : List Event → GraceState → Prop
  | arming : Course slot incarnation [.reserved slot incarnation] .arming
  | armed (identity : BleRouteReleaseIdentity) :
      Course slot incarnation
        [.armed slot incarnation identity, .reserved slot incarnation] .armed
  | withdrawn (identity : BleRouteReleaseIdentity) :
      Course slot incarnation
        [.withdrawn slot incarnation, .armed slot incarnation identity,
          .reserved slot incarnation] .idle
  | claimed (callback : Nat) (identity : BleRouteReleaseIdentity) :
      Course slot incarnation
        [.claimed callback slot incarnation identity, .armed slot incarnation identity,
          .reserved slot incarnation] .claimed
  | canceled (callback : Nat) (identity : BleRouteReleaseIdentity) :
      Course slot incarnation
        [.withdrawn slot incarnation, .claimed callback slot incarnation identity,
          .armed slot incarnation identity, .reserved slot incarnation] .canceledClaimed
  | freed (callback : Nat) (identity : BleRouteReleaseIdentity) :
      Course slot incarnation
        [.freed callback slot incarnation, .withdrawn slot incarnation,
          .claimed callback slot incarnation identity, .armed slot incarnation identity,
          .reserved slot incarnation] .idle
  | due (callback : Nat) (identity : BleRouteReleaseIdentity) :
      Course slot incarnation
        [.published callback slot incarnation, .claimed callback slot incarnation identity,
          .armed slot incarnation identity, .reserved slot incarnation] .due
  | withdrawnDue (callback : Nat) (identity : BleRouteReleaseIdentity) :
      Course slot incarnation
        [.withdrawn slot incarnation, .published callback slot incarnation,
          .claimed callback slot incarnation identity, .armed slot incarnation identity,
          .reserved slot incarnation] .idle
  | consumed (callback : Nat) (identity : BleRouteReleaseIdentity) :
      Course slot incarnation
        [.consumed slot incarnation identity, .published callback slot incarnation,
          .claimed callback slot incarnation identity, .armed slot incarnation identity,
          .reserved slot incarnation] .idle

/-- What has become of an incarnation: nothing, a course that is still the one of its slot, or
one that has come to its end before the slot was armed again. -/
inductive Stands (slot : Fin 2) (incarnation : UInt64) (log : List Event) : Prop
  | unused (untouched : trace slot incarnation log = [])
      (free : (current slot log).1 = incarnation → (current slot log).2 = .idle)
  | present (state : GraceState)
      (course : Course slot incarnation (trace slot incarnation log) state)
      (now : current slot log = (incarnation, state))
  | past (course : Course slot incarnation (trace slot incarnation log) .idle)
      (less : incarnation < (current slot log).1)

section Traces

variable {slot : Fin 2} {incarnation : UInt64} {log : List Event} {event : Event}

theorem mem_trace : event ∈ trace slot incarnation log ↔
    event ∈ log ∧ event.slot = slot ∧ event.incarnation = incarnation := by
  simp [trace, Event.about]

theorem trace_own : trace event.slot event.incarnation (event :: log) =
    event :: trace event.slot event.incarnation log := by
  simp [trace, Event.about]

theorem trace_other (other : ¬(event.slot = slot ∧ event.incarnation = incarnation)) :
    trace slot incarnation (event :: log) = trace slot incarnation log := by
  have different : event.about slot incarnation = false := by
    simpa [Event.about] using other
  simp [trace, different]

theorem current_own : current event.slot (event :: log) =
    (event.incarnation, event.target (current event.slot log).2) := by
  simp [current]

theorem current_other (other : event.slot ≠ slot) :
    current slot (event :: log) = current slot log := by
  simp [current, other]

theorem Course.mem_reserved {state : GraceState} {events : List Event}
    (course : Course slot incarnation events state) : .reserved slot incarnation ∈ events := by
  cases course <;> simp

/-- All events of a course are for one identity. -/
theorem Course.one_identity {state : GraceState} {events : List Event}
    (course : Course slot incarnation events state) :
    ∃ identity, ∀ event ∈ events, ∀ other ∈ event.identity, other = identity := by
  cases course
  case arming => exact ⟨unarmed, by simp [Event.identity]⟩
  case armed identity => exact ⟨identity, by simp [Event.identity]⟩
  case withdrawn identity => exact ⟨identity, by simp [Event.identity]⟩
  all_goals
    rename_i identity
    exact ⟨identity, by simp [Event.identity]⟩

theorem Course.any_over {state : GraceState} {events : List Event}
    (course : Course slot incarnation events state) :
    events.any Event.past = (state = .idle || state = .canceledClaimed) := by
  cases course <;> rfl

theorem mem_reservedIds :
    incarnation ∈ reservedIds log ↔ ∃ slot, .reserved slot incarnation ∈ log := by
  simp only [reservedIds, List.mem_filterMap]
  constructor
  · rintro ⟨event, member, found⟩
    cases event with
    | reserved slot other =>
        obtain rfl : other = incarnation := by simpa [Event.reservedId] using found
        exact ⟨slot, member⟩
    | _ => simp [Event.reservedId] at found
  · rintro ⟨slot, member⟩
    exact ⟨_, member, rfl⟩

end Traces

namespace Lawful

variable {slot : Fin 2} {incarnation : UInt64} {log : List Event} {event : Event}

/-- An event takes a free slot for a new incarnation, or goes on with the one of its slot. -/
theorem legal_cases (legal : event.Legal log) :
    ((∃ slot incarnation, event = .reserved slot incarnation) ∧
      (current event.slot log).2 = .idle ∧
      ∀ earlier ∈ reservedIds log, earlier < event.incarnation) ∨
    (current event.slot log).1 = event.incarnation ∧ (current event.slot log).2 ≠ .idle := by
  cases event with
  | reserved slot incarnation => exact .inl ⟨⟨_, _, rfl⟩, legal.1, legal.2.2.2⟩
  | armed slot incarnation identity =>
      have now : current slot log = _ := legal
      exact .inr (by simp [Event.slot, Event.incarnation, now])
  | claimed callback slot incarnation identity =>
      exact .inr (by simp [Event.slot, Event.incarnation, legal.1])
  | published callback slot incarnation =>
      exact .inr (by simp [Event.slot, Event.incarnation, legal.1])
  | freed callback slot incarnation =>
      exact .inr (by simp [Event.slot, Event.incarnation, legal.1])
  | withdrawn slot incarnation =>
      obtain ⟨state, now, live⟩ := legal
      refine .inr ⟨by simp [Event.slot, Event.incarnation, now], ?_⟩
      rcases live with rfl | rfl | rfl <;> simp [Event.slot, now]
  | consumed slot incarnation identity =>
      exact .inr (by simp [Event.slot, Event.incarnation, legal.1])

theorem mem_reservedIds_of_course {state : GraceState}
    (course : Course slot incarnation (trace slot incarnation log) state) :
    incarnation ∈ reservedIds log :=
  mem_reservedIds.mpr ⟨slot, (mem_trace.mp course.mem_reserved).1⟩

theorem course_extended (legal : event.Legal log) {state : GraceState}
    (course : Course event.slot event.incarnation (trace event.slot event.incarnation log) state)
    (now : current event.slot log = (event.incarnation, state)) :
    Course event.slot event.incarnation
      (event :: trace event.slot event.incarnation log) (event.target state) := by
  have own (slot : Fin 2) (incarnation : UInt64) {earlier : Event} (member : earlier ∈ log)
      (about : earlier.slot = slot ∧ earlier.incarnation = incarnation) :
      earlier ∈ trace slot incarnation log := mem_trace.mpr ⟨member, about⟩
  cases event <;> dsimp only [Event.slot, Event.incarnation] at course now ⊢
  case reserved slot incarnation =>
      exact absurd (legal.2.2.2 _ (mem_reservedIds_of_course course)) (UInt64.lt_irrefl _)
  case armed slot incarnation identity =>
      obtain ⟨-, rfl⟩ := Prod.mk.inj (now.symm.trans legal)
      generalize trace slot incarnation log = events at course
      cases course
      exact .armed identity
  case claimed callback slot incarnation identity =>
      obtain ⟨at_armed, member⟩ := legal
      obtain ⟨-, rfl⟩ := Prod.mk.inj (now.symm.trans at_armed)
      replace member := own slot incarnation member ⟨rfl, rfl⟩
      generalize trace slot incarnation log = events at course member
      cases course with
      | armed other =>
          obtain rfl : identity = other := by simpa using member
          exact .claimed callback identity
  case published callback slot incarnation =>
      obtain ⟨at_claimed, identity, member⟩ := legal
      obtain ⟨-, rfl⟩ := Prod.mk.inj (now.symm.trans at_claimed)
      replace member := own slot incarnation member ⟨rfl, rfl⟩
      generalize trace slot incarnation log = events at course member
      cases course with
      | claimed number other =>
          obtain ⟨rfl, rfl⟩ : callback = number ∧ identity = other := by simpa using member
          exact .due callback identity
  case freed callback slot incarnation =>
      obtain ⟨at_canceled, identity, member⟩ := legal
      obtain ⟨-, rfl⟩ := Prod.mk.inj (now.symm.trans at_canceled)
      replace member := own slot incarnation member ⟨rfl, rfl⟩
      generalize trace slot incarnation log = events at course member
      cases course with
      | canceled number other =>
          obtain ⟨rfl, rfl⟩ : callback = number ∧ identity = other := by simpa using member
          exact .freed callback identity
  case withdrawn slot incarnation =>
      obtain ⟨other, at_live, live⟩ := legal
      obtain ⟨-, rfl⟩ := Prod.mk.inj (now.symm.trans at_live)
      generalize trace slot incarnation log = events at course
      rcases live with rfl | rfl | rfl <;> cases course
      · exact .withdrawn _
      · exact .withdrawnDue _ _
      · exact .canceled _ _
  case consumed slot incarnation identity =>
      obtain ⟨at_due, member⟩ := legal
      obtain ⟨-, rfl⟩ := Prod.mk.inj (now.symm.trans at_due)
      replace member := own slot incarnation member ⟨rfl, rfl⟩
      generalize trace slot incarnation log = events at course member
      cases course with
      | due number other =>
          obtain rfl : identity = other := by simpa using member
          exact .consumed number identity

theorem stands (lawful : Lawful log) (slot : Fin 2) (incarnation : UInt64) :
    Stands slot incarnation log := by
  induction log with
  | nil => exact .unused rfl fun _ => rfl
  | cons event log ih =>
      obtain ⟨legal, lawful⟩ := lawful
      by_cases own : event.slot = slot
      swap
      · have same : trace slot incarnation (event :: log) = _ :=
          trace_other fun both => own both.1
        have now : current slot (event :: log) = _ := current_other own
        cases ih lawful with
        | unused untouched free => exact .unused (same ▸ untouched) (now ▸ free)
        | present state course here => exact .present state (same ▸ course) (now ▸ here)
        | past course less => exact .past (same ▸ course) (now ▸ less)
      subst own
      by_cases mine : event.incarnation = incarnation
      · subst mine
        cases ih lawful with
        | unused untouched free =>
            rcases legal_cases legal with ⟨⟨slot, incarnation, rfl⟩, -⟩ | ⟨here, busy⟩
            · refine .present .arming ?_ current_own
              rw [trace_own, untouched]
              exact .arming
            · exact absurd (free here) busy
        | present state course here =>
            refine .present (event.target state) ?_ ?_
            · rw [trace_own]
              exact course_extended legal course here
            · rw [current_own, here]
        | past course less =>
            rcases legal_cases legal with ⟨-, -, fresh⟩ | ⟨here, -⟩
            · exact absurd (fresh _ (mem_reservedIds_of_course course)) (UInt64.lt_irrefl _)
            · exact absurd (here ▸ less) (UInt64.lt_irrefl _)
      · have same : trace event.slot incarnation (event :: log) = _ :=
          trace_other fun both => mine both.2
        cases ih lawful with
        | unused untouched free =>
            refine .unused (same ▸ untouched) fun other => absurd ?_ mine
            rw [← other, current_own]
        | present state course here =>
            rcases legal_cases legal with ⟨-, idle, fresh⟩ | ⟨other, -⟩
            · rw [here] at idle
              obtain rfl : state = .idle := idle
              refine .past (same ▸ course) ?_
              rw [current_own]
              exact fresh _ (mem_reservedIds_of_course course)
            · rw [here] at other
              exact absurd other.symm mine
        | past course less =>
            refine .past (same ▸ course) ?_
            rw [current_own]
            rcases legal_cases legal with ⟨-, -, fresh⟩ | ⟨other, -⟩
            · exact fresh _ (mem_reservedIds_of_course course)
            · exact other ▸ less

theorem of_append {newer : List Event} (lawful : Lawful (newer ++ log)) : Lawful log := by
  induction newer with
  | nil => exact lawful
  | cons event newer ih => exact ih lawful.2

theorem course_of_mem (lawful : Lawful log) (member : event ∈ log) :
    ∃ state, Course event.slot event.incarnation (trace event.slot event.incarnation log) state ∧
      (current event.slot log = (event.incarnation, state) ∨
        state = .idle ∧ event.incarnation < (current event.slot log).1) := by
  have present : event ∈ trace event.slot event.incarnation log :=
    mem_trace.mpr ⟨member, rfl, rfl⟩
  cases lawful.stands event.slot event.incarnation with
  | unused untouched _ => simp [untouched] at present
  | present state course here => exact ⟨state, course, .inl here⟩
  | past course less => exact ⟨.idle, course, .inr ⟨rfl, less⟩⟩

/-- Whatever has an identity is for the one that has been armed. -/
theorem armed_identity (lawful : Lawful log) {identity other : BleRouteReleaseIdentity}
    (armed : .armed slot incarnation identity ∈ log) (member : event ∈ log)
    (about : event.slot = slot ∧ event.incarnation = incarnation)
    (own : event.identity = some other) : other = identity := by
  obtain ⟨state, course, -⟩ := lawful.course_of_mem armed
  obtain ⟨single, same⟩ := course.one_identity
  have first := same _ (mem_trace.mpr ⟨armed, rfl, rfl⟩) identity rfl
  have second := same event (mem_trace.mpr ⟨member, about⟩) other own
  exact second.trans first.symm

end Lawful

/-! ### The end of an arm -/

/-- The arm has been cancelled or consumed. -/
def Ended (slot : Fin 2) (incarnation : UInt64) (log : List Event) : Prop :=
  .withdrawn slot incarnation ∈ log ∨ ∃ identity, .consumed slot incarnation identity ∈ log

theorem ended_iff {slot : Fin 2} {incarnation : UInt64} {log : List Event} :
    Ended slot incarnation log ↔ (trace slot incarnation log).any Event.past = true := by
  simp only [List.any_eq_true, mem_trace]
  constructor
  · rintro (member | ⟨identity, member⟩)
    · exact ⟨_, ⟨member, rfl, rfl⟩, rfl⟩
    · exact ⟨_, ⟨member, rfl, rfl⟩, rfl⟩
  · rintro ⟨event, ⟨member, rfl, rfl⟩, past⟩
    cases event with
    | withdrawn slot incarnation => exact .inl member
    | consumed slot incarnation identity => exact .inr ⟨identity, member⟩
    | _ => cases past

/-- A claim of the callback that it has neither published nor freed. -/
def Holds (callback : Nat) (slot : Fin 2) (incarnation : UInt64) (log : List Event) : Prop :=
  (∃ identity, .claimed callback slot incarnation identity ∈ log) ∧
    .published callback slot incarnation ∉ log ∧ .freed callback slot incarnation ∉ log

/-- The callback has no claim that it has neither published nor freed. -/
def Free (callback : Nat) (log : List Event) : Prop :=
  ∀ slot incarnation, ¬Holds callback slot incarnation log

/-- A callback that publishes or frees the one claim that it has is free. -/
theorem free_of_settled {callback : Nat} {slot : Fin 2} {incarnation : UInt64} {log : List Event}
    {event : Event} (unclaiming : event.identity = none)
    (only : ∀ other number, Holds callback other number log → other = slot ∧ number = incarnation)
    (settled : .published callback slot incarnation ∈ event :: log ∨
      .freed callback slot incarnation ∈ event :: log) : Free callback (event :: log) := by
  rintro other number ⟨⟨identity, claimed⟩, unpublished, unfreed⟩
  have earlier := (List.mem_cons.mp claimed).resolve_left fun head => by
    rw [← head] at unclaiming
    cases unclaiming
  obtain ⟨rfl, rfl⟩ := only other number ⟨⟨identity, earlier⟩,
    fun member => unpublished (List.mem_cons_of_mem _ member),
    fun member => unfreed (List.mem_cons_of_mem _ member)⟩
  exact settled.elim unpublished unfreed

theorem Ended.grows {slot : Fin 2} {incarnation : UInt64} {log later : List Event}
    (ended : Ended slot incarnation log) (grown : log <:+ later) : Ended slot incarnation later :=
  ended.imp (grown.subset ·) fun ⟨identity, member⟩ => ⟨identity, grown.subset member⟩

namespace Lawful

variable {slot : Fin 2} {incarnation : UInt64} {log : List Event} {event : Event}

theorem not_due_of_ended (lawful : Lawful log) (ended : Ended slot incarnation log) :
    incarnation < (current slot log).1 ∨ ∃ state, current slot log = (incarnation, state) ∧
      (state = .idle ∨ state = .canceledClaimed) := by
  have past := ended_iff.mp ended
  cases lawful.stands slot incarnation with
  | unused untouched _ => simp [untouched] at past
  | present state course here =>
      rw [course.any_over] at past
      exact .inr ⟨state, here, by simpa using past⟩
  | past _ less => exact .inl less

/-- An arm that has been published lasts until it is cancelled or consumed. -/
theorem live_or_ended (lawful : Lawful log) {identity : BleRouteReleaseIdentity}
    (armed : .armed slot incarnation identity ∈ log) :
    Ended slot incarnation log ∨ ∃ state, current slot log = (incarnation, state) ∧
      (state = .armed ∨ state = .claimed ∨ state = .due) := by
  obtain ⟨state, course, here⟩ := lawful.course_of_mem armed
  dsimp only [Event.slot, Event.incarnation] at course here
  by_cases past : (trace slot incarnation log).any Event.past = true
  · exact .inl (ended_iff.mpr past)
  · rw [course.any_over] at past
    have mine : Event.armed slot incarnation identity ∈ trace slot incarnation log :=
      mem_trace.mpr ⟨armed, rfl, rfl⟩
    rcases here with here | ⟨rfl, -⟩
    · refine .inr ⟨state, here, ?_⟩
      generalize trace slot incarnation log = events at course mine
      cases course <;> simp at mine past ⊢
    · simp at past

/-- Nothing is consumed after it has ended. -/
theorem no_consumed_after {newer : List Event} (lawful : Lawful (newer ++ log))
    (ended : Ended slot incarnation log) (identity : BleRouteReleaseIdentity) :
    .consumed slot incarnation identity ∉ newer := by
  intro member
  obtain ⟨later, earlier, rfl⟩ := List.append_of_mem member
  rw [List.append_assoc, List.cons_append] at lawful
  obtain ⟨legal, lawful⟩ := lawful.of_append
  have due : current slot (earlier ++ log) = (incarnation, .due) := legal.1
  rcases lawful.not_due_of_ended (ended.grows (List.suffix_append ..)) with
    less | ⟨state, here, past⟩
  · rw [due] at less
    exact UInt64.lt_irrefl _ less
  · rw [due] at here
    obtain ⟨-, rfl⟩ := Prod.mk.inj here
    simp at past

/-- A slot that a callback holds is claimed, or cancelled under the claim. -/
theorem held_state (lawful : Lawful log) {callback : Nat}
    (holds : Holds callback slot incarnation log) :
    current slot log = (incarnation, .claimed) ∨
      current slot log = (incarnation, .canceledClaimed) := by
  obtain ⟨⟨identity, claimed⟩, unpublished, unfreed⟩ := holds
  obtain ⟨state, course, here⟩ := lawful.course_of_mem claimed
  dsimp only [Event.slot, Event.incarnation] at course here
  have mine : Event.claimed callback slot incarnation identity ∈ trace slot incarnation log :=
    mem_trace.mpr ⟨claimed, rfl, rfl⟩
  replace unpublished : Event.published callback slot incarnation ∉ trace slot incarnation log :=
    fun member => unpublished (mem_trace.mp member).1
  replace unfreed : Event.freed callback slot incarnation ∉ trace slot incarnation log :=
    fun member => unfreed (mem_trace.mp member).1
  have held : state = .claimed ∨ state = .canceledClaimed := by
    generalize trace slot incarnation log = events at course mine unpublished unfreed
    cases course <;> simp at mine unpublished unfreed ⊢ <;> simp_all
  rcases here with here | ⟨rfl, -⟩
  · rcases held with rfl | rfl
    · exact .inl here
    · exact .inr here
  · simp at held

/-- The course of the incarnation that a slot is in the middle of. -/
theorem course_now (lawful : Lawful log) {state : GraceState}
    (here : current slot log = (incarnation, state)) (busy : state ≠ .idle) :
    Course slot incarnation (trace slot incarnation log) state := by
  cases lawful.stands slot incarnation with
  | unused _ free =>
      rw [here] at free
      exact absurd (free rfl) busy
  | present other course now =>
      obtain ⟨-, rfl⟩ := Prod.mk.inj (here.symm.trans now)
      exact course
  | past _ less =>
      rw [here] at less
      exact absurd less (UInt64.lt_irrefl _)

/-- No callback has touched an arm that is not claimed. -/
theorem callback_of_armed (lawful : Lawful log) (here : current slot log = (incarnation, .armed))
    (member : event ∈ log) (about : event.slot = slot ∧ event.incarnation = incarnation) :
    event.callback = none := by
  have course := lawful.course_now here (by decide)
  replace member : event ∈ trace slot incarnation log := mem_trace.mpr ⟨member, about⟩
  generalize trace slot incarnation log = events at course member
  cases course with
  | armed identity =>
      obtain rfl | rfl : event = .armed slot incarnation identity ∨
          event = .reserved slot incarnation := by simpa using member
      · rfl
      · rfl

/-- A callback that claims an arm then has that one claim. -/
theorem holds_claimed (lawful : Lawful log) {callback : Nat}
    (here : current slot log = (incarnation, .armed)) (free : Free callback log)
    (identity : BleRouteReleaseIdentity) (other : Fin 2) (number : UInt64) :
    Holds callback other number (.claimed callback slot incarnation identity :: log) ↔
      other = slot ∧ number = incarnation := by
  constructor
  · rintro ⟨⟨other', claimed⟩, unpublished, unfreed⟩
    rcases List.mem_cons.mp claimed with head | earlier
    · obtain ⟨-, rfl, rfl, -⟩ := Event.claimed.inj head
      exact ⟨rfl, rfl⟩
    · exact absurd ⟨⟨other', earlier⟩, fun member => unpublished (List.mem_cons_of_mem _ member),
        fun member => unfreed (List.mem_cons_of_mem _ member)⟩ (free other number)
  · rintro ⟨rfl, rfl⟩
    refine ⟨⟨identity, List.mem_cons_self ..⟩, fun member => ?_, fun member => ?_⟩
    · have earlier := (List.mem_cons.mp member).resolve_left (by simp)
      cases lawful.callback_of_armed here earlier ⟨rfl, rfl⟩
    · have earlier := (List.mem_cons.mp member).resolve_left (by simp)
      cases lawful.callback_of_armed here earlier ⟨rfl, rfl⟩

theorem ended_now (lawful : Lawful log) {state : GraceState}
    (here : current slot log = (incarnation, state)) (busy : state ≠ .idle) :
    Ended slot incarnation log ↔ state = .canceledClaimed := by
  rw [ended_iff, (lawful.course_now here busy).any_over]
  simp [busy]

/-- A slot is idle when no arm of it is outstanding and no callback holds it. -/
theorem idle_of_settled (lawful : Lawful log) (rested : (current slot log).2 ≠ .arming)
    (settled : ∀ incarnation identity, .armed slot incarnation identity ∈ log →
      Ended slot incarnation log)
    (free : ∀ callback incarnation, ¬Holds callback slot incarnation log) :
    (current slot log).2 = .idle := by
  obtain ⟨incarnation, state, here⟩ :
      ∃ incarnation state, current slot log = (incarnation, state) := ⟨_, _, rfl⟩
  rw [here] at rested ⊢
  by_contra busy
  have course := lawful.course_now here busy
  have own (event : Event) (member : event ∈ trace slot incarnation log) : event ∈ log :=
    (mem_trace.mp member).1
  have ended := lawful.ended_now here busy
  have holder (callback : Nat) (identity : BleRouteReleaseIdentity)
      (claimed : .claimed callback slot incarnation identity ∈ trace slot incarnation log)
      (unpublished : .published callback slot incarnation ∉ trace slot incarnation log)
      (unfreed : .freed callback slot incarnation ∉ trace slot incarnation log) : False :=
    free callback incarnation ⟨⟨identity, own _ claimed⟩,
      fun member => unpublished (mem_trace.mpr ⟨member, rfl, rfl⟩),
      fun member => unfreed (mem_trace.mpr ⟨member, rfl, rfl⟩)⟩
  have armed (identity : BleRouteReleaseIdentity)
      (member : .armed slot incarnation identity ∈ trace slot incarnation log) :
      state = .canceledClaimed := ended.mp (settled incarnation identity (own _ member))
  generalize trace slot incarnation log = events at course holder armed
  cases course with
  | arming => exact rested rfl
  | armed identity => cases armed identity (by simp)
  | claimed callback identity => cases armed identity (by simp)
  | due callback identity => cases armed identity (by simp)
  | canceled callback identity => exact holder callback identity (by simp) (by simp) (by simp)
  | withdrawn | freed | withdrawnDue | consumed => exact busy rfl

/-! ### Incarnations -/

theorem reservedIds_pairwise (lawful : Lawful log) : (reservedIds log).Pairwise (· > ·) := by
  induction log with
  | nil => exact .nil
  | cons event log ih =>
      obtain ⟨legal, lawful⟩ := lawful
      cases event with
      | reserved slot incarnation => exact .cons legal.2.2.2 (ih lawful)
      | _ => exact ih lawful

theorem reservedIds_small (lawful : Lawful log) :
    ∀ incarnation ∈ reservedIds log, 0 < incarnation ∧ incarnation ≤ Tagged.maxNumber := by
  induction log with
  | nil => simp [reservedIds]
  | cons event log ih =>
      obtain ⟨legal, lawful⟩ := lawful
      cases event with
      | reserved slot incarnation =>
          intro other member
          rcases List.mem_cons.mp member with rfl | earlier
          · exact ⟨legal.2.1, legal.2.2.1⟩
          · exact ih lawful other earlier
      | _ => exact ih lawful

theorem armed_reserved (lawful : Lawful log) {identity : BleRouteReleaseIdentity}
    (armed : .armed slot incarnation identity ∈ log) : incarnation ∈ reservedIds log := by
  obtain ⟨state, course, -⟩ := lawful.course_of_mem armed
  exact mem_reservedIds_of_course course

theorem armed_small (lawful : Lawful log) {identity : BleRouteReleaseIdentity}
    (armed : .armed slot incarnation identity ∈ log) : incarnation ≤ Tagged.maxNumber :=
  (lawful.reservedIds_small _ (lawful.armed_reserved armed)).2

theorem current_small (lawful : Lawful log) (slot : Fin 2) :
    (current slot log).1 ≤ Tagged.maxNumber := by
  induction log with
  | nil =>
      show (0 : UInt64) ≤ Tagged.maxNumber
      decide
  | cons event log ih =>
      by_cases own : event.slot = slot
      · subst own
        rw [current_own]
        rcases legal_cases lawful.1 with ⟨⟨other, incarnation, rfl⟩, -⟩ | ⟨here, -⟩
        · exact lawful.1.2.2.1
        · exact here ▸ ih lawful.2
      · rw [current_other own]
        exact ih lawful.2

/-- The number of a slot is that of an incarnation, or none. -/
theorem current_reserved (lawful : Lawful log) (slot : Fin 2) :
    current slot log = (0, .idle) ∨ (current slot log).1 ∈ reservedIds log := by
  induction log with
  | nil => exact .inl rfl
  | cons event log ih =>
      have more : ∀ incarnation ∈ reservedIds log, incarnation ∈ reservedIds (event :: log) :=
        fun incarnation member => ((List.sublist_cons_self event log).filterMap _).subset member
      by_cases own : event.slot = slot
      · subst own
        rw [current_own]
        rcases legal_cases lawful.1 with ⟨⟨other, incarnation, rfl⟩, -⟩ | ⟨here, busy⟩
        · exact .inr (List.mem_cons_self ..)
        · rcases ih lawful.2 with idle | member
          · rw [idle] at busy
            exact absurd rfl busy
          · exact .inr (more _ (here ▸ member))
      · rw [current_other own]
        exact (ih lawful.2).imp_right (more _)

theorem reserved_slot (lawful : Lawful log) {other : Fin 2}
    (first : .reserved slot incarnation ∈ log) (second : .reserved other incarnation ∈ log) :
    slot = other := by
  induction log with
  | nil => simp at first
  | cons event log ih =>
      have fresh (slot other : Fin 2) (head : event = .reserved slot incarnation)
          (member : .reserved other incarnation ∈ log) : False := by
        subst head
        have less := lawful.1.2.2.2 incarnation (mem_reservedIds.mpr ⟨other, member⟩)
        exact UInt64.lt_irrefl _ less
      rcases List.mem_cons.mp first with head | first
      · rcases List.mem_cons.mp second with also | second
        · exact (Event.reserved.inj (head.trans also.symm)).1
        · exact (fresh slot other head.symm second).elim
      · rcases List.mem_cons.mp second with head | second
        · exact (fresh other slot head.symm first).elim
        · exact ih lawful.2 first second

end Lawful

/-! ### Counts -/

/-- The event consumes an arm of this incarnation. -/
def Event.consumes (slot : Fin 2) (incarnation : UInt64) : Event → Bool
  | consumed other number _ => other = slot && number = incarnation
  | reserved .. | armed .. | claimed .. | published .. | freed .. | withdrawn .. => false

/-- The event publishes an arm of this incarnation. -/
def Event.arms (incarnation : UInt64) : Event → Bool
  | armed _ number _ => number = incarnation
  | reserved .. | claimed .. | published .. | freed .. | withdrawn .. | consumed .. => false

namespace Lawful

variable {slot : Fin 2} {incarnation : UInt64} {log : List Event}

theorem consumed_once (lawful : Lawful log) :
    log.countP (Event.consumes slot incarnation) ≤ 1 := by
  have same : log.countP (Event.consumes slot incarnation) =
      (trace slot incarnation log).countP (Event.consumes slot incarnation) := by
    rw [trace, List.countP_filter]
    refine List.countP_congr fun event _ => ?_
    cases event <;>
      simp +contextual [Event.consumes, Event.about, Event.slot, Event.incarnation]
  have course {state : GraceState} {events : List Event}
      (course : Course slot incarnation events state) :
      events.countP (Event.consumes slot incarnation) ≤ 1 := by
    cases course <;> simp [Event.consumes]
  rw [same]
  cases lawful.stands slot incarnation with
  | unused untouched _ => simp [untouched]
  | present state taken _ => exact course taken
  | past taken _ => exact course taken

/-- An incarnation is armed once, in the slot that it has been reserved for. -/
theorem armed_once (lawful : Lawful log) : log.countP (Event.arms incarnation) ≤ 1 := by
  by_cases none : ∀ event ∈ log, ¬event.arms incarnation = true
  · exact (List.countP_eq_zero.mpr none).trans_le (Nat.zero_le 1)
  have arms_iff (event : Event) (arms : event.arms incarnation = true) :
      ∃ slot identity, event = .armed slot incarnation identity := by
    cases event with
    | armed slot number identity =>
        obtain rfl : number = incarnation := by simpa [Event.arms] using arms
        exact ⟨slot, identity, rfl⟩
    | _ => simp [Event.arms] at arms
  obtain ⟨event, member, arms⟩ : ∃ event ∈ log, event.arms incarnation = true := by
    simpa using none
  obtain ⟨slot, identity, rfl⟩ := arms_iff event arms
  obtain ⟨state, course, -⟩ := lawful.course_of_mem member
  dsimp only [Event.slot, Event.incarnation] at course
  have reserved : .reserved slot incarnation ∈ log := (mem_trace.mp course.mem_reserved).1
  have same : log.countP (Event.arms incarnation) =
      (trace slot incarnation log).countP (Event.arms incarnation) := by
    rw [trace, List.countP_filter]
    refine List.countP_congr fun other found => ?_
    suffices other.arms incarnation = true → other.about slot incarnation = true by
      simpa using this
    intro also
    obtain ⟨place, identity', rfl⟩ := arms_iff other also
    obtain ⟨_, taken, -⟩ := lawful.course_of_mem found
    dsimp only [Event.slot, Event.incarnation] at taken
    have again : .reserved place incarnation ∈ log := (mem_trace.mp taken.mem_reserved).1
    simp [Event.about, Event.slot, Event.incarnation, lawful.reserved_slot again reserved]
  rw [same]
  generalize trace slot incarnation log = events at course
  cases course <;> simp [Event.arms]

/-- After the last incarnation nothing is reserved any more. -/
theorem no_reserved_after {newer : List Event} (lawful : Lawful (newer ++ log))
    (last : Tagged.maxNumber ∈ reservedIds log) (slot : Fin 2) (incarnation : UInt64) :
    .reserved slot incarnation ∉ newer := by
  intro member
  obtain ⟨later, earlier, rfl⟩ := List.append_of_mem member
  rw [List.append_assoc, List.cons_append] at lawful
  obtain ⟨legal, -⟩ := lawful.of_append
  obtain ⟨-, -, small, above⟩ := legal
  have less := above Tagged.maxNumber (by
    rw [reservedIds, List.filterMap_append]
    exact List.mem_append_right _ last)
  exact UInt64.not_le.mpr less small

/-- Only a reservation begins to arm a slot. -/
theorem resting_after {newer : List Event}
    (unreserved : ∀ slot incarnation, .reserved slot incarnation ∉ newer)
    (rested : (current slot log).2 ≠ .arming) : (current slot (newer ++ log)).2 ≠ .arming := by
  induction newer with
  | nil => exact rested
  | cons event newer ih =>
      have before := ih fun slot incarnation member =>
        unreserved slot incarnation (List.mem_cons_of_mem _ member)
      rw [List.cons_append]
      by_cases own : event.slot = slot
      · subst own
        rw [current_own]
        cases event with
        | reserved slot incarnation => exact absurd (List.mem_cons_self ..) (unreserved _ _)
        | withdrawn slot incarnation =>
            dsimp only [Event.target]
            split <;> simp
        | _ => simp [Event.target]
      · rwa [current_other own]

theorem no_armed_after {newer : List Event} (lawful : Lawful (newer ++ log))
    (last : Tagged.maxNumber ∈ reservedIds log) (rested : ∀ slot, (current slot log).2 ≠ .arming)
    (slot : Fin 2) (incarnation : UInt64) (identity : BleRouteReleaseIdentity) :
    .armed slot incarnation identity ∉ newer := by
  intro member
  obtain ⟨later, earlier, rfl⟩ := List.append_of_mem member
  have unreserved (slot : Fin 2) (incarnation : UInt64) :
      .reserved slot incarnation ∉ earlier := fun found =>
    lawful.no_reserved_after last slot incarnation (by simp [found])
  rw [List.append_assoc, List.cons_append] at lawful
  obtain ⟨legal, -⟩ := lawful.of_append
  have arming : current slot (earlier ++ log) = (incarnation, .arming) := legal
  exact resting_after unreserved (rested slot) (by rw [arming])

end Lawful

end HidBot.GraceAuthority
