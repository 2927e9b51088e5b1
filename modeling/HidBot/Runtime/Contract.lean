import HidBot.Interleaving.Recorded
import HidBot.Runtime.Operations

/-!
# Contracts of the runtime

What an access of a task may do, what the accesses of the other tasks leave of a claim and
of a transaction, and what each call promises with its answer. The calls that use a claim or
end a transaction well are followed here.
-/

namespace HidBot.Runtime

open Interleaving

/-! ### Accesses -/

/-- Whatever the words say, they have reason to. -/
structure Words.Sound (words : Words) : Prop where
  tickets : words.TicketsSound
  release : words.ReleaseSound
  slots : ∀ interface, (words.slots interface).Sound interface

/-- What an access of a task does. -/
structure Access (task : Route.Task) (before after : Words) : Prop where
  grows : before.record.events <:+ after.record.events
  tickets : TicketStep task before after
  slots : SlotsKept before after
  release : ReleaseStep before after

/-- What an access does that uses no claim. -/
structure Calm (before after : Words) : Prop where
  grows : before.record.events <:+ after.record.events
  tickets : Quiet before after
  slots : SlotsKept before after
  release : ReleaseStep before after

/-- What the accesses of the other tasks do. -/
structure Others (task : Route.Task) (before after : Words) : Prop where
  sound : before.Sound → after.Sound
  grows : before.record.events <:+ after.record.events
  claims : ∀ interface id, before.Sound → Owned task interface id before →
    ClaimKept task interface id before after
  release : ReleaseLater before after

section Accesses

variable {task other : Route.Task} {before after words : Words}

theorem Move.calm (move : Move before after) : Calm before after :=
  ⟨move.grows, move.tickets, move.slots, move.release⟩

theorem Calm.refl (words : Words) : Calm words words := (Move.refl words).calm

theorem Calm.access (calm : Calm before after) : Access task before after :=
  ⟨calm.grows, .quiet calm.tickets, calm.slots, calm.release⟩

theorem Access.sound (access : Access task before after) (sound : before.Sound) : after.Sound :=
  ⟨access.tickets.sound sound.tickets, access.release.sound access.grows sound.release,
    fun interface => access.slots interface (sound.slots interface)⟩

theorem Calm.sound (calm : Calm before after) (sound : before.Sound) : after.Sound :=
  Access.sound (calm.access : Access 0 before after) sound

theorem Access.others (access : Access other before after) (apart : task ≠ other) :
    Others task before after :=
  ⟨access.sound, access.grows,
    fun _ _ sound owned => access.tickets.claimKept apart sound.tickets owned,
    access.release.later⟩

theorem Calm.others (calm : Calm before after) : Others task before after :=
  ⟨calm.sound, calm.grows,
    fun _ _ sound owned => calm.tickets.claimKept sound.tickets owned, calm.release.later⟩

theorem Others.refl (task : Route.Task) (words : Words) : Others task words words :=
  ⟨id, List.suffix_rfl, fun _ _ _ owned => ⟨owned, id⟩, .refl words⟩

theorem Others.trans {first second third : Words} (one : Others task first second)
    (two : Others task second third) : Others task first third where
  sound sound := two.sound (one.sound sound)
  grows := one.grows.trans two.grows
  claims interface id sound owned := by
    have between := one.claims interface id sound owned
    have last := two.claims interface id (one.sound sound) between.owned
    exact ⟨last.owned, fun unsubmitted => last.unsubmitted (between.unsubmitted unsubmitted)⟩
  release := one.release.trans two.release

end Accesses

/-! ### Following a call -/

section Following

variable {task : Route.Task} {words : Words}

/-- The call keeps to its accesses beside the others, and this holds at its return. -/
abbrev Keeps {α : Type} (task : Route.Task) (last : α → Words → Prop) (call : Program Words α)
    (words : Words) : Prop :=
  call.Safe (Others task) (Access task) last words

/-- The other tasks do not take this away. -/
def Lasting (task : Route.Task) (holds : Words → Prop) : Prop :=
  ∀ before after, holds before → Others task before after → holds after

theorem lasting_sound : Lasting task Words.Sound := fun _ _ sound others => others.sound sound

variable {α β : Type} {holds : Words → Prop} {last : α → Words → Prop}

theorem Keeps.bind {call : Program Words β} {rest : β → Program Words α}
    {middle : β → Words → Prop} (first : Keeps task middle call words)
    (later : ∀ result state, middle result state → Keeps task last (rest result) state) :
    Keeps task last (call >>= rest) words :=
  Program.Safe.bind (Others.refl task) (first.mono later)

/-- A call that uses no claim. -/
theorem Keeps.calm {call : Program Words α} (lasting : Lasting task holds)
    (calm : call.Each Calm) (now : holds words) : Keeps task (fun _ => holds) call words :=
  calm.safe lasting
    (fun before after holds calm => ⟨calm.access, lasting before after holds calm.others⟩) now

theorem Keeps.moves {call : Program Words α} (lasting : Lasting task holds)
    (moves : call.Each Move) (now : holds words) : Keeps task (fun _ => holds) call words :=
  .calm lasting (moves.mono fun _ _ => Move.calm) now

/-- Moves before the rest of a call. -/
theorem Keeps.after {call : Program Words β} {rest : β → Program Words α}
    (lasting : Lasting task holds) (moves : call.Each Move) (now : holds words)
    (later : ∀ result state, holds state → Keeps task last (rest result) state) :
    Keeps task last (call >>= rest) words :=
  .bind (.moves lasting moves now) later

theorem Keeps.pure {result : α} (lasting : Lasting task (last result))
    (now : last result words) : Keeps task last (pure result) words :=
  fun _ others => lasting _ _ now others

theorem Keeps.ite {condition : Prop} {_ : Decidable condition} {first second : Program Words α}
    (one : condition → Keeps task last first words)
    (two : ¬condition → Keeps task last second words) :
    Keeps task last (if condition then first else second) words := by
  split
  · exact one ‹_›
  · exact two ‹_›

/-- An access that the others may precede. -/
theorem Keeps.change {change : Words → α × Words} (lasting : Lasting task holds)
    (now : holds words)
    (access : ∀ state, holds state → Access task state (change state).2 ∧
      ∀ later, Others task (change state).2 later → last (change state).1 later) :
    Keeps task last (.readModifyWrite change) words :=
  fun state others => access state (lasting _ _ now others)

end Following

/-! ### Submissions of a ticket -/

section Claims

variable {task : Route.Task} {interface : Interface} {words : Words}

/-- The task may submit this report under its claim. -/
structure Claimed (task : Route.Task) (interface : Interface) (id : HidTicketId)
    (report : List UInt8) (words : Words) : Prop where
  sound : words.Sound
  owned : Owned task interface id words
  unsubmitted : Unsubmitted id words
  claimed : .claimed id ∈ words.record.events
  request : ∃ request, .opened id request ∈ words.record.events ∧
    interface = request.interface ∧ report = request.report

/-- The task may settle its claim with this outcome. -/
structure Settling (task : Route.Task) (interface : Interface) (id : HidTicketId)
    (accepted : Prop) (words : Words) : Prop where
  sound : words.Sound
  owned : Owned task interface id words
  accepted : accepted → Accepted words.record.events id

theorem Accepted.suffix {older newer : List Event} {id : HidTicketId}
    (accepted : Accepted older id) (grows : older <:+ newer) : Accepted newer id := by
  obtain ⟨noted, rfl⟩ := grows
  exact accepted.grow noted

theorem lasting_claimed (task : Route.Task) (interface : Interface) (id : HidTicketId)
    (report : List UInt8) :
    Lasting task (Claimed task interface id report) := fun _ _ claimed others => by
  have kept := others.claims interface id claimed.sound claimed.owned
  obtain ⟨request, opened, same⟩ := claimed.request
  exact ⟨others.sound claimed.sound, kept.owned, kept.unsubmitted claimed.unsubmitted,
    others.grows.subset claimed.claimed, request, others.grows.subset opened, same⟩

theorem lasting_settling (id : HidTicketId) (accepted : Prop) :
    Lasting task (Settling task interface id accepted) := fun _ _ settling others =>
  ⟨others.sound settling.sound, (others.claims interface id settling.sound settling.owned).owned,
    fun submitted => (settling.accepted submitted).suffix others.grows⟩

theorem Claimed.settling {id : HidTicketId} {report : List UInt8}
    (claimed : Claimed task interface id report words) :
    Settling task interface id False words :=
  ⟨claimed.sound, claimed.owned, False.elim⟩

/-- The claim of a published ticket. -/
theorem claim_access (task : Route.Task) (interface : Interface) (ticket : ReportTicket)
    (sound : words.Sound)
    (published : (words.tickets interface).state = .published)
    (made : ticket = { words.tickets interface with
      state := .claimed, bleActionPending := ticket.bleActionPending }) :
    Access task words ((words.withTicket interface ticket
        [.claimed (words.tickets interface).token.ticketId]).withClaim task interface) ∧
      Claimed task interface (words.tickets interface).token.ticketId
        (words.tickets interface).report ((words.withTicket interface ticket
          [.claimed (words.tickets interface).token.ticketId]).withClaim task interface) := by
  have agrees := sound.tickets.agrees interface
  have used : (words.tickets interface).token.ticketId ≠ 0 := agrees.used (by simp [published])
  have state : ticket.state = .claimed := by rw [made]
  have token : ticket.token = (words.tickets interface).token := by rw [made]
  have report : ticket.report = (words.tickets interface).report := by rw [made]
  have outcome : ticket.outcome = (words.tickets interface).outcome := by rw [made]
  have turn : Turn words.record.events (words.tickets interface) ticket
      [.claimed (words.tickets interface).token.ticketId] := by
    refine ⟨token, report, fun _ => (by simp [published]), ?_, Nat.le_refl 1,
      fun event member => ?_, by simp, fun submitted => (by simp [state] at submitted),
      fun submitted => .inl (outcome ▸ submitted)⟩
    · rw [published, state]
      exact Nat.zero_le 2
    · obtain rfl := List.mem_singleton.mp member
      rw [published, state]
      exact ⟨rfl, Nat.zero_lt_one, Nat.le_succ 1, by decide⟩
  have access : Access task words ((words.withTicket interface ticket
      [.claimed (words.tickets interface).token.ticketId]).withClaim task interface) :=
    ⟨List.suffix_append .., .claim interface ticket ⟨rfl, rfl, rfl⟩ rfl turn published,
      .of_same rfl, .of_same rfl rfl⟩
  refine ⟨access, access.sound sound, ⟨?_, ?_, ?_⟩, ?_, List.mem_cons_self, ?_⟩
  · simp [Words.withClaim, Words.withTicket, state]
  · simp [Words.withClaim, Words.withTicket, token]
  · simp [Words.withClaim]
  · intro event member about
    rcases List.mem_cons.mp member with rfl | old
    · exact Nat.le_refl 1
    · have rank := agrees.rank event old about
      rw [published] at rank
      exact rank.trans (Nat.zero_le 1)
  · obtain ⟨request, opened, same, bytes⟩ := agrees.opened used
    exact ⟨request, List.mem_cons_of_mem _ opened, same.symm, bytes.symm⟩

/-- Submit under the claim. -/
theorem keeps_submit {token : HidWorkToken} {report : List UInt8}
    (claimed : Claimed task interface token.ticketId report words) :
    Keeps task (fun answer => Settling task interface token.ticketId (answer = .stackAccepted))
      (submit .ticket interface token report) words := by
  refine .change (lasting_claimed task interface token.ticketId report) claimed fun state claimed => ?_
  have access : Access task state { state with record := { state.record with
      submissions := state.record.submissions + 1
      events := .submitted {
        origin := .ticket, interface, token, report
        accepted := state.record.answers state.record.submissions == .stackAccepted } ::
          state.record.events } } :=
    ⟨List.suffix_cons .., .submit interface _ claimed.owned claimed.unsubmitted
      ⟨claimed.claimed, claimed.request⟩ rfl rfl rfl rfl rfl, .of_same rfl, .of_same rfl rfl⟩
  refine ⟨access, fun later => lasting_settling _ _ _ _ ⟨access.sound claimed.sound,
    ⟨claimed.owned.claimed, claimed.owned.id, claimed.owned.claimer⟩, fun accepted => ?_⟩⟩
  exact ⟨_, List.mem_cons_self, rfl, rfl, by simpa using accepted⟩

/-- Settle the claim; a submitted ticket was accepted. -/
theorem keeps_settle {id : HidTicketId} {accepted : Prop} {same : ReportTicket → Bool}
    {state : TicketState} {outcome : TicketOutcome}
    (settling : Settling task interface id accepted words)
    (ends : state = .submitted ∧ outcome = .submitted ∧ accepted ∨
      (state = .canceled ∨ state = .notReady) ∧ outcome ≠ .submitted) :
    Keeps task (fun _ now => now.Sound ∧ (accepted → Accepted now.record.events id))
      (settleClaim interface same state outcome) words := by
  refine .change (lasting_settling id accepted) settling fun state' settling => ?_
  have lasting : Lasting task fun now : Words =>
      now.Sound ∧ (accepted → Accepted now.record.events id) := fun _ _ now others =>
    ⟨others.sound now.1, fun submitted => (now.2 submitted).suffix others.grows⟩
  dsimp only
  split
  · exact ⟨(Calm.refl _).access, fun later => lasting _ _ ⟨settling.sound, settling.accepted⟩⟩
  · have live := settling.owned.claimed
    have rank : state.rank = 3 := by
      rcases ends with ⟨rfl, -⟩ | ⟨rfl | rfl, -⟩ <;> rfl
    have turn : Turn state'.record.events (state'.tickets interface)
        ((state'.tickets interface).settle state outcome)
        [.settled (state'.tickets interface).token.ticketId outcome] := by
      refine ⟨rfl, rfl, fun _ => (by simp [live]), ?_, Nat.le_refl 1, fun event member => ?_,
        by simp, fun submitted => .inl ?_, fun submitted => .inr ?_⟩
      · change _ ≤ state.rank
        rw [live, rank]
        exact Nat.le_succ 2
      · obtain rfl := List.mem_singleton.mp member
        change _ ∧ _ ∧ 3 ≤ state.rank ∧ _
        rw [live, rank]
        exact ⟨rfl, Nat.lt_succ_self 2, Nat.le_refl 3, by decide⟩
      · change outcome = .submitted
        change state = .submitted at submitted
        rcases ends with ⟨-, same, -⟩ | ⟨rfl | rfl, -⟩
        · exact same
        · cases submitted
        · cases submitted
      · change outcome = .submitted at submitted
        rcases ends with ⟨-, -, accepted⟩ | ⟨-, other⟩
        · rw [settling.owned.id]
          exact settling.accepted accepted
        · exact absurd submitted other
    have access : Access task state' (state'.withTicket interface
        ((state'.tickets interface).settle state outcome)
        [.settled (state'.tickets interface).token.ticketId outcome]) :=
      ⟨List.suffix_append .., .settle interface id _ _ settling.owned ⟨rfl, rfl, rfl⟩ rfl turn,
        .of_same rfl, .of_same rfl rfl⟩
    exact ⟨access, fun later => lasting _ _ ⟨access.sound settling.sound,
      fun submitted => (settling.accepted submitted).suffix access.grows⟩⟩

end Claims

end HidBot.Runtime
