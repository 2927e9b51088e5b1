import HidBot.Ble.StopTransaction

/-!
# Lawful logs of stop transactions

What the requests are, without the word that holds them. A lawful log begins a request only
when the one before it has been consumed, and completes it with success only when a worker
has done all the steps for it. Then no request ends twice, and one that has not been consumed
is the last.
-/

namespace HidBot.StopTransaction

/-- The request that the word is about, and its status. -/
def current : List Event → Id × StopStatus
  | [] => (0, .idle)
  | .begun id :: _ => (id, .running)
  | .performed .. :: log => current log
  | .completed id result :: _ => (id, result)
  | .expired id :: _ => (id, .expired)
  | .consumed id :: _ => (id, .consumed)

def Event.begunId : Event → Option Id
  | begun id => some id
  | performed .. | completed _ _ | expired _ | consumed _ => none

/-- The requests begun, the latest first. -/
def begunIds (log : List Event) : List Id := log.filterMap Event.begunId

/-- One worker has done all the steps for this request. -/
def Performed (log : List Event) (id : Id) : Prop :=
  ∃ worker, ∀ step, Event.performed worker id step ∈ log

/-- What a worker or a failure to create one can complete a request with. -/
def StopStatus.Failure (status : StopStatus) : Prop :=
  status = .taskFailure ∨ status = .hostStopFailure ∨ status = .hostExitFailure ∨
    status = .deinitFailure ∨ status = .timerFailure

inductive Lawful : List Event → Prop
  | nil : Lawful []
  | begun {log : List Event} {id : Id} (lawful : Lawful log) (positive : 0 < id)
      (small : id ≤ maxId) (fresh : ∀ earlier ∈ begunIds log, earlier < id)
      (free : (current log).2 = .idle ∨ (current log).2 = .consumed) : Lawful (.begun id :: log)
  | performed {log : List Event} {worker : Nat} {id : Id} {step : StopStep}
      (lawful : Lawful log) : Lawful (.performed worker id step :: log)
  | completed {log : List Event} {id : Id} {result : StopStatus} (lawful : Lawful log)
      (running : current log = (id, .running))
      (done : result = .stopped ∧ Performed log id ∨ result.Failure) :
      Lawful (.completed id result :: log)
  | expired {log : List Event} {id : Id} (lawful : Lawful log)
      (live : current log = (id, .running) ∨ current log = (id, .stopped)) :
      Lawful (.expired id :: log)
  | consumed {log : List Event} {id : Id} (lawful : Lawful log)
      (stopped : current log = (id, .stopped)) : Lawful (.consumed id :: log)

/-- A status that a request does not leave. -/
def StopStatus.Ending (status : StopStatus) : Prop :=
  status = .consumed ∨ status = .expired ∨ status.Failure

/-- The event ends this request. -/
def Event.ends (id : Id) : Event → Bool
  | completed other result => other = id && result ≠ .stopped
  | expired other | consumed other => other = id
  | begun _ | performed .. => false

namespace Lawful

variable {log : List Event} {id : Id} {status : StopStatus}

theorem of_append {newer : List Event} (lawful : Lawful (newer ++ log)) : Lawful log := by
  induction newer with
  | nil => exact lawful
  | cons event newer ih => exact ih (by cases lawful <;> assumption)

/-- The word is about the request begun last, and idle before the first. -/
theorem current_begun (lawful : Lawful log) :
    current log = (0, .idle) ∧ begunIds log = [] ∨
      (current log).2 ≠ .idle ∧ (begunIds log).head? = some (current log).1 := by
  induction lawful with
  | nil => exact .inl ⟨rfl, rfl⟩
  | begun => exact .inr ⟨by simp [current], rfl⟩
  | performed _ ih => exact ih
  | completed _ running done ih =>
      rw [running] at ih
      rcases ih with ⟨idle, -⟩ | ⟨-, head⟩
      · simp at idle
      · refine .inr ⟨?_, head⟩
        rintro rfl
        simp [StopStatus.Failure] at done
  | expired _ live ih =>
      rcases live with live | live <;> rw [live] at ih <;>
        rcases ih with ⟨idle, -⟩ | ⟨-, head⟩ <;>
        first | simp at idle | exact .inr ⟨by simp [current], head⟩
  | consumed _ stopped ih =>
      rw [stopped] at ih
      rcases ih with ⟨idle, -⟩ | ⟨-, head⟩
      · simp at idle
      · exact .inr ⟨by simp [current], head⟩

theorem begun_pairwise (lawful : Lawful log) : (begunIds log).Pairwise (· > ·) := by
  induction lawful with
  | nil => exact .nil
  | begun _ _ _ fresh _ ih => exact .cons fresh ih
  | performed _ ih | completed _ _ _ ih | expired _ _ ih | consumed _ _ ih => exact ih

theorem begun_small (lawful : Lawful log) : ∀ id ∈ begunIds log, 0 < id ∧ id ≤ maxId := by
  induction lawful with
  | nil => simp [begunIds]
  | begun _ positive small _ _ ih =>
      intro id member
      rcases List.mem_cons.mp member with rfl | earlier
      · exact ⟨positive, small⟩
      · exact ih id earlier
  | performed _ ih | completed _ _ _ ih | expired _ _ ih | consumed _ _ ih => exact ih

theorem current_small (lawful : Lawful log) : (current log).1 ≤ maxId := by
  rcases lawful.current_begun with ⟨idle, -⟩ | ⟨-, head⟩
  · rw [idle]
    decide
  · exact (lawful.begun_small _ (List.mem_of_mem_head? head)).2

theorem le_current (lawful : Lawful log) (member : id ∈ begunIds log) : id ≤ (current log).1 := by
  rcases lawful.current_begun with ⟨-, none⟩ | ⟨-, head⟩
  · simp [none] at member
  · cases ids : begunIds log with
    | nil => simp [ids] at member
    | cons first rest =>
        have sorted := lawful.begun_pairwise
        rw [ids] at member head sorted
        obtain rfl : first = (current log).1 := by simpa using head
        rcases List.mem_cons.mp member with rfl | earlier
        · exact UInt64.le_refl _
        · exact UInt64.le_of_lt ((List.pairwise_cons.mp sorted).1 id earlier)

theorem stopped_performed (lawful : Lawful log) (stopped : current log = (id, .stopped)) :
    Performed log id := by
  induction lawful with
  | nil => simp [current] at stopped
  | begun => simp [current] at stopped
  | performed _ ih =>
      obtain ⟨worker, steps⟩ := ih stopped
      exact ⟨worker, fun step => List.mem_cons_of_mem _ (steps step)⟩
  | completed _ _ done _ =>
      obtain ⟨rfl, rfl⟩ := Prod.mk.inj stopped
      rcases done with ⟨-, worker, steps⟩ | failure
      · exact ⟨worker, fun step => List.mem_cons_of_mem _ (steps step)⟩
      · simp [StopStatus.Failure] at failure
  | expired => simp [current] at stopped
  | consumed => simp [current] at stopped

theorem current_mem (lawful : Lawful log) (other : status ≠ .idle)
    (about : current log = (id, status)) : id ∈ begunIds log := by
  rcases lawful.current_begun with ⟨idle, -⟩ | ⟨-, head⟩
  · exact absurd (Prod.mk.inj (about.symm.trans idle)).2 other
  · rw [about] at head
    exact List.mem_of_mem_head? head

/-- An event that ends a request is about one that was begun. -/
theorem ends_begun (lawful : Lawful log) {event : Event} (member : event ∈ log)
    (ends : event.ends id) : id ∈ begunIds log := by
  induction lawful with
  | nil => simp at member
  | begun lawful _ _ _ _ ih =>
      rcases List.mem_cons.mp member with rfl | earlier
      · simp [Event.ends] at ends
      · exact List.mem_cons_of_mem _ (ih earlier)
  | performed lawful ih =>
      rcases List.mem_cons.mp member with rfl | earlier
      · simp [Event.ends] at ends
      · exact ih earlier
  | completed lawful running _ ih =>
      rcases List.mem_cons.mp member with rfl | earlier
      · have begun := lawful.current_mem (by decide) running
        obtain ⟨rfl, -⟩ : _ ∧ _ := by simpa [Event.ends] using ends
        exact begun
      · exact ih earlier
  | expired lawful live ih =>
      rcases List.mem_cons.mp member with rfl | earlier
      · have begun : _ ∈ begunIds _ := live.elim (lawful.current_mem (by decide))
          (lawful.current_mem (by decide))
        obtain rfl : _ = id := by simpa [Event.ends] using ends
        exact begun
      · exact ih earlier
  | consumed lawful stopped ih =>
      rcases List.mem_cons.mp member with rfl | earlier
      · have begun := lawful.current_mem (by decide) stopped
        obtain rfl : _ = id := by simpa [Event.ends] using ends
        exact begun
      · exact ih earlier

theorem not_ended (lawful : Lawful log)
    (live : (current log).2 = .running ∨ (current log).2 = .stopped) :
    log.countP (Event.ends (current log).1) = 0 := by
  induction lawful with
  | nil => rfl
  | @begun log id lawful _ _ fresh _ _ =>
      rw [List.countP_cons_of_neg (by simp [Event.ends])]
      refine List.countP_eq_zero.mpr fun event member ends => ?_
      exact absurd (fresh id (lawful.ends_begun member ends)) (UInt64.lt_irrefl id)
  | performed lawful ih =>
      rw [List.countP_cons_of_neg (by simp [Event.ends])]
      exact ih live
  | completed lawful running done ih =>
      rw [running] at ih
      rcases done with ⟨rfl, -⟩ | failure
      · rw [List.countP_cons_of_neg (by simp [Event.ends])]
        exact ih (.inl rfl)
      · rcases failure with rfl | rfl | rfl | rfl | rfl <;> simp [current] at live
  | expired => simp [current] at live
  | consumed => simp [current] at live

theorem ends_once (lawful : Lawful log) (id : Id) : log.countP (Event.ends id) ≤ 1 := by
  have last (log : List Event) (lawful : Lawful log) (other : Id) (event : Event)
      (live : current log = (other, .running) ∨ current log = (other, .stopped))
      (ends : ∀ id, event.ends id = true → id = other) (ih : log.countP (Event.ends id) ≤ 1) :
      (event :: log).countP (Event.ends id) ≤ 1 := by
    by_cases mine : event.ends id = true
    · obtain rfl := ends id mine
      have none : log.countP (Event.ends (current log).1) = 0 :=
        lawful.not_ended (live.imp (congrArg Prod.snd) (congrArg Prod.snd))
      have about : (current log).1 = id := live.elim (congrArg Prod.fst) (congrArg Prod.fst)
      rw [List.countP_cons_of_pos mine, ← about, none]
    · rwa [List.countP_cons_of_neg mine]
  induction lawful with
  | nil => simp
  | begun lawful _ _ _ _ ih => rwa [List.countP_cons_of_neg (by simp [Event.ends])]
  | performed lawful ih => rwa [List.countP_cons_of_neg (by simp [Event.ends])]
  | completed lawful running _ ih =>
      exact last _ lawful _ _ (.inl running) (fun id ends => by simp_all [Event.ends]) ih
  | expired lawful live ih =>
      exact last _ lawful _ _ live (fun id ends => by simp_all [Event.ends]) ih
  | consumed lawful stopped ih =>
      exact last _ lawful _ _ (.inr stopped) (fun id ends => by simp_all [Event.ends]) ih

/-- A request that has ended stays so, and only a consumed one makes way for a later. -/
theorem ended_stays {newer : List Event} (lawful : Lawful (newer ++ log))
    (about : current log = (id, status)) (ending : status.Ending) :
    current (newer ++ log) = (id, status) ∨
      status = .consumed ∧ id < (current (newer ++ log)).1 := by
  have dead : status ≠ .running ∧ status ≠ .stopped := by
    rcases ending with rfl | rfl | rfl | rfl | rfl | rfl | rfl <;> decide
  induction newer with
  | nil => exact .inl about
  | cons event newer ih =>
      have begun : id ∈ begunIds (newer ++ log) := by
        have member : id ∈ begunIds log := lawful.of_append.current_mem
          (by rcases ending with rfl | rfl | rfl | rfl | rfl | rfl | rfl <;> decide) about
        have split : begunIds (newer ++ log) = begunIds newer ++ begunIds log :=
          List.filterMap_append
        exact split ▸ List.mem_append_right _ member
      rw [List.cons_append] at lawful ⊢
      cases lawful with
      | begun earlier _ _ fresh free =>
          rcases ih earlier with same | ⟨consumed, -⟩
          · rw [same] at free
            rcases free with idle | consumed
            · obtain rfl : status = .idle := idle
              simp [StopStatus.Ending, StopStatus.Failure] at ending
            · exact .inr ⟨consumed, fresh id begun⟩
          · exact .inr ⟨consumed, fresh id begun⟩
      | performed earlier => exact ih earlier
      | completed earlier running _ =>
          rcases ih earlier with same | ⟨consumed, less⟩
          · exact absurd (Prod.mk.inj (same.symm.trans running)).2 dead.1
          · rw [running] at less
            exact .inr ⟨consumed, less⟩
      | expired earlier live =>
          rcases ih earlier with same | ⟨consumed, less⟩
          · rcases live with live | live
            · exact absurd (Prod.mk.inj (same.symm.trans live)).2 dead.1
            · exact absurd (Prod.mk.inj (same.symm.trans live)).2 dead.2
          · have about : (current (newer ++ log)).1 = _ :=
              live.elim (congrArg Prod.fst) (congrArg Prod.fst)
            exact .inr ⟨consumed, about ▸ less⟩
      | consumed earlier stopped =>
          rcases ih earlier with same | ⟨consumed, less⟩
          · exact absurd (Prod.mk.inj (same.symm.trans stopped)).2 dead.2
          · rw [stopped] at less
            exact .inr ⟨consumed, less⟩

theorem mem_of_consumed (lawful : Lawful log) (about : current log = (id, .consumed)) :
    Event.consumed id ∈ log := by
  induction lawful with
  | nil => simp [current] at about
  | begun => simp [current] at about
  | performed _ ih => exact List.mem_cons_of_mem _ (ih about)
  | completed _ _ done _ =>
      obtain ⟨-, rfl⟩ := Prod.mk.inj about
      simp [StopStatus.Failure] at done
  | expired => simp [current] at about
  | consumed =>
      obtain ⟨rfl, -⟩ := Prod.mk.inj about
      exact List.mem_cons_self ..

theorem consumed_last (lawful : Lawful log) (member : Event.consumed id ∈ log) :
    current log = (id, .consumed) ∨ id < (current log).1 := by
  obtain ⟨newer, older, rfl⟩ := List.append_of_mem member
  exact (lawful.ended_stays rfl (.inl rfl)).imp_right And.right

/-- Nothing has been begun, or the request begun last has been consumed. -/
theorem free_iff (lawful : Lawful log) :
    (current log).2 = .idle ∨ (current log).2 = .consumed ↔
      begunIds log = [] ∨
        ∃ id, (begunIds log).head? = some id ∧ Event.consumed id ∈ log := by
  rcases lawful.current_begun with ⟨idle, none⟩ | ⟨other, head⟩
  · simp [idle, none]
  · have filled : begunIds log ≠ [] := by
      intro empty
      simp [empty] at head
    simp only [other, filled, false_or, head, Option.some.injEq, exists_eq_left']
    refine ⟨fun consumed => lawful.mem_of_consumed (Prod.ext rfl consumed), fun member => ?_⟩
    rcases lawful.consumed_last member with same | less
    · exact congrArg Prod.snd same
    · exact absurd less (UInt64.lt_irrefl _)

end Lawful

end HidBot.StopTransaction
